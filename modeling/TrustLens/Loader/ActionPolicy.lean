import TrustLens.Lib.JsonSchema
import TrustLens.Loader.References

/-!
# The governed action policy

The contract of the policy, and the resolution of its triggers and of its evidence
against the loaded components.
-/

namespace TrustLens.Loader

namespace ActionPolicySchema

open Schema

def actionCodes : List String :=
  ["DO_NOT_SHARE_CREDENTIALS", "DO_NOT_ENTER_PIN", "DO_NOT_TRANSFER_MONEY", "DO_NOT_INSTALL_APP",
   "DO_NOT_CONNECT_WALLET", "DO_NOT_DIAL_CODE", "DISCONNECT_REMOTE_ACCESS", "VERIFY_INDEPENDENTLY",
   "CONTACT_BANK", "CONTACT_OFFICIAL_CHANNEL", "REPORT_CYBERCRIME", "PRESERVE_EVIDENCE",
   "PROCEED_WITH_CAUTION", "SEEK_HUMAN_REVIEW", "RESUBMIT_IN_SUPPORTED_LANGUAGE"]

def classifications : List String :=
  ["NO_SCAM_PATTERN", "INSUFFICIENT_EVIDENCE", "SCAM_PATTERN_SUSPECTED", "SCAM_PATTERN_DETECTED",
   "UNSUPPORTED", "ERROR"]

def supportStatuses : List String :=
  ["SUPPORTED", "PARTIALLY_SUPPORTED", "UNSUPPORTED", "INSUFFICIENT_INFORMATION", "ERROR"]

def digits (n : ℕ) (cs : List Char) : Bool := cs.length == n && cs.all PyText.isDigit

/-- A literal start, then a language. -/
def after (start : String) (language : List Char → Bool) : Validator :=
  pattern (anchored fun cs => cs.take start.length == start.toList && language (cs.drop start.length))

/-- `^AP-[A-Z]{3}-\d{3}$` -/
def entryId : Validator :=
  after "AP-" fun cs => cs.length == 7 && (cs.take 3).all isUpper && (cs.drop 3).head? == some '-' &&
    digits 3 (cs.drop 4)

/-- `^HR_[A-Z_]+$` -/
def overrideId : Validator :=
  after "HR_" fun cs => !cs.isEmpty && cs.all fun c => isUpper c || c == '_'

/-- `^TL-[A-Z]{3,5}-\d{3}$` -/
def ruleId : Validator :=
  after "TL-" fun cs =>
    let code := cs.takeWhile isUpper
    let rest := cs.dropWhile isUpper
    3 ≤ code.length && code.length ≤ 5 && rest.head? == some '-' && digits 3 (rest.drop 1)

/-- `^TAX-\d{2}(-\d{2})?$` -/
def taxonomyId : Validator :=
  after "TAX-" fun cs =>
    digits 2 cs || (digits 2 (cs.take 2) && (cs.drop 2).head? == some '-' && digits 2 (cs.drop 3))

/-- `^[A-Z][A-Z0-9_]{2,63}$` -/
def indicatorId : Validator :=
  pattern (anchored (headTail isUpper (fun c => isUpper c || isAsciiDigit c || c == '_') 2 63))

/-- `^SRC-\d{3}$` -/
def sourceId : Validator := after "SRC-" (digits 3)

/-- What a trigger of each type asks of its id. -/
def triggerId (type : Json) : Validator :=
  match type with
  | .str "OVERRIDE" => overrideId
  | .str "RULE" => ruleId
  | .str "TAXONOMY" => taxonomyId
  | .str "NEGATIVE_INDICATOR" => indicatorId
  | .str "SYSTEM_CLASSIFICATION" => enum classifications
  | .str "SYSTEM_SUPPORT_STATUS" => enum supportStatuses
  | _ => fun _ => true

def trigger (t : Json) : Bool :=
  object ["type"]
    [("type", enum ["OVERRIDE", "RULE", "TAXONOMY", "NEGATIVE_INDICATOR", "RULE_VERIFICATION_POLICY",
        "SYSTEM_CLASSIFICATION", "SYSTEM_SUPPORT_STATUS"]),
     ("id", minLength 1)] t &&
  if t.get "type" = .str "RULE_VERIFICATION_POLICY" then !Py.hasKey t "id"
  else Py.hasKey t "id" && triggerId (t.get "type") (t.get "id")

/-- Source evidence goes with the basis GOVERNED_SOURCE, and with no other. -/
def basisAgrees (e : Json) : Bool :=
  if e.get "basis" = .str "GOVERNED_SOURCE" then !(e.get "evidence_refs").items.isEmpty
  else !Py.hasKey e "evidence_refs"

def entry (e : Json) : Bool :=
  object ["policy_entry_id", "trigger", "action_code", "basis"]
    [("policy_entry_id", entryId),
     ("trigger", trigger),
     ("action_code", enum actionCodes),
     ("basis", enum ["DET_001", "RULE_VERIFICATION_POLICY", "GOVERNED_SOURCE", "PROGRAM_POLICY",
        "SYSTEM_STATE"]),
     ("applies_when", object [] [("classifications", uniqueArray (enum classifications) 1)]),
     ("evidence_refs", uniqueArray sourceId 0),
     ("note", string)] e && basisAgrees e

/-- `action-policy.schema.json` -/
def policy : Validator :=
  object ["policy_version", "entries"]
    [("$comment", string),
     ("policy_version", after "" fun cs =>
        (cs.splitOn '.').length == 3 && (cs.splitOn '.').all fun part =>
          !part.isEmpty && part.all PyText.isDigit),
     ("generated", string),
     ("provenance", string),
     ("notes", string),
     -- entries that differ only in the order of their keys are told apart by their id below
     ("entries", uniqueArray entry 1)]

end ActionPolicySchema

/-- The sets the triggers are looked up in. -/
structure PolicyTargets where
  overrides : List Json
  rules : List Json
  negatives : List Json
  taxonomy : List Json
  sources : List Json

def policyTargets (c : Components) : Load PolicyTargets := do
  let categories ← records c.taxonomy "categories"
  let taxonomy ← categories.mapM fun cat => do
    return (← Py.hashed (← Py.item cat "id")) :: (← idSet (← members cat "subcategories") "id")
  return {
    overrides := ← idSet (← members c.negatives "overrides") "override_id"
    rules := ← idSet c.rules "id"
    negatives := ← idSet (← records c.negatives "negative_indicators") "negative_indicator_id"
    taxonomy := taxonomy.flatten
    sources := ← idSet (← records c.sources "sources") "id" }

/-- The set a type of trigger is resolved in. -/
def PolicyTargets.of (targets : PolicyTargets) : Json → Option (List Json)
  | .str "OVERRIDE" => some targets.overrides
  | .str "RULE" => some targets.rules
  | .str "TAXONOMY" => some targets.taxonomy
  | .str "NEGATIVE_INDICATOR" => some targets.negatives
  | _ => none

/-- The checks of one entry; `seen` are the ids of those before it. -/
def checkPolicyEntry (targets : PolicyTargets) (seen : List Json) (e : Json) : Load Json := do
  let eid ← Py.hashed (← Py.item e "policy_entry_id")
  if eid ∈ seen then fail .ReferenceIntegrityError "DUPLICATE_ID" (eid.str?.getD "")
  else
    let trigger ← Py.item e "trigger"
    let type ← Py.item trigger "type"
    let tid ← Py.getD trigger "id" .null
    match targets.of type with
    | some set =>
      if (← isMember tid set) = false then
        fail .ReferenceIntegrityError "REFERENCE_INVALID" (eid.str?.getD "")
    | none => pure ()
    (← members e "evidence_refs").forM fun sref => do
      if ← isMember sref targets.sources then pure ()
      else fail .ReferenceIntegrityError "REFERENCE_INVALID" (eid.str?.getD "")
    return eid

def checkPolicyEntries (targets : PolicyTargets) (seen : List Json) : List Json → Load Unit
  | [] => .ok ()
  | e :: rest => do
    let eid ← checkPolicyEntry targets seen e
    checkPolicyEntries targets (eid :: seen) rest

/-- `_validate_action_policy` -/
def validateActionPolicy (c : Components) : Load Unit := do
  if ActionPolicySchema.policy c.actionPolicy = false then
    fail .MemberSchemaError "MEMBER_SCHEMA_INVALID" "action-policy-v1.json"
  else
    let targets ← policyTargets c
    checkPolicyEntries targets [] (← records c.actionPolicy "entries")

end TrustLens.Loader
