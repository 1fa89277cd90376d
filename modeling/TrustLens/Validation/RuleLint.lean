import Mathlib.Data.Finset.Card
import TrustLens.Lib.PyObject
import TrustLens.Runtime.Grammar
import TrustLens.Runtime.Knowledge

/-!
# The rule linter

What the schema of a rule cannot say is checked against the registry of indicators, the
verification manifest, the taxonomy and the evidence matrix. The checks against keyword
matching run on every set of indicators that satisfies the condition of the rule.
-/

namespace TrustLens.Validation

open Json (lookup)
open TrustLens.Runtime (Rule)

/-- A record of the indicator registry or, with its status there, of the negative library. -/
structure RegistryIndicator where
  polarity : String
  evidenceClass : String
  strength : String
  libraryStatus : Option String
deriving DecidableEq

/-- `manual_retrieval` of a source reference. -/
structure ManualRetrieval where
  evidenceClass : Option String
  evidenceIds : List String
  claimMatch : Option String
  reviewStatus : Option String
deriving DecidableEq

/-- A source reference of a rule, as it is authored. -/
structure Citation where
  sourceId : String
  authority : String
  verificationStatus : String
  quote : Option String
  manualRetrieval : Option ManualRetrieval
deriving DecidableEq

/-- A rule with the attributes that only the linter reads. -/
structure AuthoredRule where
  rule : Rule
  citations : List Citation
  lastReviewed : Option String
  reviewDue : Option String
deriving DecidableEq

/-- The manual overlay of a source in the manifest. -/
structure ManualOverlay where
  evidenceClass : Option String
  evidenceIds : List String
deriving DecidableEq

structure ManifestSource where
  status : String
  authority : String
  manualRetrieval : Option ManualOverlay
deriving DecidableEq

/-- A record of manually retrieved evidence. -/
structure EvidenceRecord where
  sha256 : Option String
  claimMatch : Option String
deriving DecidableEq

/-- `load_reference_data` -/
structure ReferenceData where
  indicators : List (String × RegistryIndicator)
  sources : List (String × ManifestSource)
  taxa : List String
  matrix : List (String × String)
  mrRecords : List (String × EvidenceRecord)

/-- `d.get(key)` of a table. -/
def find {α : Type} (key : String) (table : List (String × α)) : Option α :=
  (table.find? (·.1 == key)).map Prod.snd

def SUPPORTED_CAPABLE : List String := ["PRIMARY", "OFFICIAL_REPLACEMENT"]

def PUBLISHABLE_CLASSES : List String :=
  ["PRIMARY", "OFFICIAL_ALTERNATE", "OFFICIAL_REPLACEMENT", "INDUSTRY"]

def STRONG_CLAIM_MATCH : List String := ["FULL", "FULL_CONCEPT", "FULL_FOR_SCREEN_SHARE_CONCEPT"]

def WEAK : String := "WEAK"

inductive LintError where
  /-- nothing extracts it, so the rule is dead -/
  | unknownIndicator (id : String)
  /-- suppressed_by references a DEPRECATED negative indicator -/
  | deprecatedNegative (id : String)
  /-- used as a trigger on a rule of a kind that requires the other polarity -/
  | triggerPolarity (id polarity : String) (kind : Option String) (expected : String)
  /-- POSITIVE but listed in suppressed_by -/
  | positiveSuppressor (id : String)
  /-- satisfiable by a set below the declared minimum of evidence classes -/
  | tooFewClasses (satisfying classes : List String) (need : Json)
  /-- satisfiable by weak indicators alone -/
  | weakAlone (satisfying : List String)
  /-- unknown taxonomy reference -/
  | unknownTaxonomy (ref : String)
  /-- source does not exist in the verification manifest -/
  | unknownSource (sourceId : String)
  /-- a rule may not upgrade its own provenance -/
  | gradeMismatch (sourceId actual claimed : String)
  | authorityMismatch (sourceId actual claimed : String)
  /-- PRIMARY_VERIFIED but no locating quotation -/
  | noQuote (sourceId : String)
  /-- evidence verdict exceeds the Phase 1 grading -/
  | verdictExceeds (claimed phase1 : String)
  /-- review_due must be after last_reviewed -/
  | reviewOrder
  /-- suppresses an unknown taxonomy scope -/
  | unknownScope (target : String)
  /-- manual_retrieval cites an unknown evidence id -/
  | unknownEvidence (sourceId evidenceId : String)
  /-- manual evidence has no sha256 recorded -/
  | noDigest (sourceId evidenceId : String)
  /-- the manifest records no manual overlay -/
  | noOverlay (sourceId : String)
  | classDisagrees (sourceId : String) (claimed recorded : Option String)
  /-- cites evidence not recorded in the manifest overlay -/
  | extraEvidence (sourceId : String) (extra : List String)
  /-- rule wording exceeds the source -/
  | wordingExceeds (sourceId : String) (claimMatch : Option String) (evidenceId recorded : String)
  /-- manual_retrieval is not REVIEWED -/
  | notReviewed (sourceId : String) (status : Option String)
  /-- no source_reference provides publishable-grade evidence -/
  | noPublishable (verdict status : String)
  /-- OFFICIAL_ALTERNATE/INDUSTRY evidence caps a rule at PARTIAL -/
  | cappedAtPartial (classes : List String)
deriving DecidableEq

namespace LintError

/-- An evidence-class error. -/
def isClassError : LintError → Bool
  | tooFewClasses _ _ _ => true
  | _ => false

/-- A weak-only error. -/
def isWeakError : LintError → Bool
  | weakAlone _ => true
  | _ => false

end LintError

/-- `sorted(s)` of a set. -/
def sorted (S : Finset String) : List String :=
  Quot.liftOn S.val sortedUnique fun _ _ h => sortedUnique_congr fun _ => h.mem_iff

@[simp] lemma mem_sorted {S : Finset String} {id : String} : id ∈ sorted S ↔ id ∈ S := by
  obtain ⟨⟨ids⟩, hnodup⟩ := S
  exact mem_sortedUnique

lemma nodup_sorted (S : Finset String) : (sorted S).Nodup := by
  obtain ⟨⟨ids⟩, hnodup⟩ := S
  exact nodup_sortedUnique _

lemma length_sorted (S : Finset String) : (sorted S).length = S.card := by
  rw [← List.toFinset_card_of_nodup (nodup_sorted S)]
  congr 1
  ext id
  rw [List.mem_toFinset, mem_sorted]

/-! ### The walks over a condition -/

/-- What a walk raises is an exception of the interpreter. -/
abbrev Walk := Except PyException

mutual
/-- `operands`: every indicator id anywhere in a condition tree. -/
def operands : Json → Walk (List String)
  | .str s => .ok [s]
  | .obj entries => operandsEntries entries
  | _ => .ok []

def operandsEntries : List (String × Json) → Walk (List String)
  | [] => .ok []
  | (op, value) :: rest => do
    let here ← if op = "n_of" then operandsThreshold value else operandsIter value
    return here ++ (← operandsEntries rest)

def operandsThreshold : Json → Walk (List String)
  | .obj node => operandsOf node
  | _ => .error .AttributeError

def operandsOf : List (String × Json) → Walk (List String)
  | [] => .ok []
  | (k, v) :: rest => if k = "of" then operandsIter v else operandsOf rest

def operandsIter : Json → Walk (List String)
  | .arr xs => operandsEach xs
  | .str s => .ok (s.toList.map String.singleton)
  | .obj entries => .ok (entries.map Prod.fst)
  | _ => .error .TypeError

def operandsEach : List Json → Walk (List String)
  | [] => .ok []
  | x :: xs => do return (← operands x) ++ (← operandsEach xs)
end

/-- `combos = [c | s for c in combos for s in satisfying_sets(item)]`, item by item: an item is
walked once there is a set to extend. -/
def extendAll (combos : List (Finset String)) : List (Walk (List (Finset String))) →
    Walk (List (Finset String))
  | [] => .ok combos
  | item :: rest =>
    if combos = [] then extendAll [] rest
    else do
      let sets ← item
      extendAll (combos.flatMap fun c => sets.map (c ∪ ·)) rest

/-- The bound of `itertools.combinations`: an index, not negative. -/
def combinationLength : Json → Walk ℕ
  | .int n =>
    if 2 ^ 63 ≤ n ∨ n < -2 ^ 63 then .error .Other  -- an OverflowError
    else if n < 0 then .error .ValueError
    else .ok n.toNat
  | .bool b => .ok (if b then 1 else 0)
  | _ => .error .TypeError

mutual
/-- `satisfying_sets`: the sets of indicators by which the condition is met. -/
def satisfyingSets : Json → Walk (List (Finset String))
  | .str s => .ok [{s}]
  | .obj entries =>
    match setsMember "all_of" entries with
    | some items => do extendAll [∅] (← items)
    | none =>
      match setsMember "any_of" entries with
      | some items => do return (← (← items).mapM id).flatten
      | none =>
        match setsNOf entries with
        | some sets => sets
        | none => .ok [∅]
  | _ => .ok [∅]

/-- The items under one key, none of them walked yet. -/
def setsMember (key : String) :
    List (String × Json) → Option (Walk (List (Walk (List (Finset String)))))
  | [] => none
  | (k, v) :: rest => if k = key then some (setsIter v) else setsMember key rest

def setsIter : Json → Walk (List (Walk (List (Finset String))))
  | .arr xs => .ok (setsEach xs)
  | .str s => .ok (s.toList.map fun c => .ok [{String.singleton c}])
  | .obj entries => .ok (entries.map fun e => .ok [{e.1}])
  | _ => .error .TypeError

def setsEach : List Json → List (Walk (List (Finset String)))
  | [] => []
  | x :: xs => satisfyingSets x :: setsEach xs

def setsNOf : List (String × Json) → Option (Walk (List (Finset String)))
  | [] => none
  | (k, v) :: rest => if k = "n_of" then some (setsThreshold v) else setsNOf rest

def setsThreshold : Json → Walk (List (Finset String))
  | .obj node =>
    match lookup "n" node, setsMember "of" node with
    | some bound, some items => do
      let n ← combinationLength bound
      return (← (combinations n (← items)).mapM (extendAll [∅])).flatten
    | _, _ => .error .KeyError
  | _ => .error .TypeError
end

/-! ### The checks -/

section Checks

variable (data : ReferenceData) (authored : AuthoredRule)

/-- `logic.get(key)` -/
def logicGet (key : String) : Option Json := (authored.rule.logic.getD (.obj [])).get? key

def require : Json := (logicGet authored "require").getD .null

def suppressedBy : List String := ((logicGet authored "suppressed_by").bind Json.strings?).getD []

def need : Json := (logicGet authored "min_evidence_classes").getD (.int 2)

/-- A comparison of a count with a number. -/
def countBelow (count : ℕ) : Json → Walk Bool
  | .int n => .ok (decide ((count : ℤ) < n))
  | .bool b => .ok (decide (count < if b then 1 else 0))
  | .float (.finite q) => .ok (decide ((count : ℚ) < q))
  | .float .inf => .ok true
  | .float _ => .ok false
  | _ => .error .TypeError

/-- L1 and L1b and L2: what the ids of the rule resolve to. -/
def idErrors (triggers : List String) : List LintError :=
  let referenced := sortedUnique (triggers ++ suppressedBy authored)
  let suppressors := sortedUnique (suppressedBy authored)
  let expected := if authored.rule.kind = some "SUPPRESSION" then "NEGATIVE" else "POSITIVE"
  (referenced.filter fun id => (find id data.indicators).isNone).map .unknownIndicator ++
  (suppressors.filter fun id => (find id data.indicators).any fun i =>
    i.libraryStatus == some "DEPRECATED").map .deprecatedNegative ++
  ((sortedUnique triggers).filterMap fun id => (find id data.indicators).bind fun i =>
    if i.polarity ≠ expected then some (.triggerPolarity id i.polarity authored.rule.kind expected)
    else none) ++
  (suppressors.filter fun id => (find id data.indicators).any fun i =>
    i.polarity != "NEGATIVE").map .positiveSuppressor

/-- The records of the ids of a set that resolve. -/
def resolved (S : Finset String) : List RegistryIndicator :=
  (sorted S).filterMap fun id => find id data.indicators

/-- The evidence classes of a set of ids. -/
def classesOf (S : Finset String) : Finset String :=
  ((resolved data S).map RegistryIndicator.evidenceClass).toFinset

/-- L3 and L4 on one satisfying set. -/
def pathErrors (S : Finset String) : Walk (List LintError) :=
  if (resolved data S).length ≠ S.card then .ok []
  else do
    let few ← countBelow (classesOf data S).card (need authored)
    let weak := resolved data S ≠ [] ∧ ∀ i ∈ resolved data S, i.strength = WEAK
    return (if few then
        [.tooFewClasses (sorted S) (sorted (classesOf data S)) (need authored)] else []) ++
      (if weak then [.weakAlone (sorted S)] else [])

/-- L3 and L4, on every satisfying path. -/
def keywordErrors : Walk (List LintError) :=
  if authored.rule.kind = some "COMPOSITE" ∧ require authored ≠ .null then do
    let sets ← satisfyingSets (require authored)
    return (← sets.mapM (pathErrors data authored)).flatten
  else .ok []

/-- L5 -/
def taxonomyErrors : List LintError :=
  (authored.rule.taxonomyRefs.filter fun t => !data.taxa.contains t).map .unknownTaxonomy

/-- L6 on one source reference. -/
def sourceErrors (ref : Citation) : List LintError :=
  match find ref.sourceId data.sources with
  | none => [.unknownSource ref.sourceId]
  | some source =>
    (if ref.verificationStatus ≠ source.status then
      [.gradeMismatch ref.sourceId source.status ref.verificationStatus] else []) ++
    (if source.authority ≠ ref.authority then
      [.authorityMismatch ref.sourceId source.authority ref.authority] else []) ++
    (if source.status = "PRIMARY_VERIFIED" ∧ (ref.quote = none ∨ ref.quote = some "") then
      [.noQuote ref.sourceId] else [])

/-- The order of the verdicts. -/
def verdictOrder : List (String × ℕ) :=
  [("UNSUPPORTED", 0), ("HEURISTIC", 0), ("PARTIAL", 1), ("SUPPORTED", 2)]

/-- L7 -/
def verdictErrors : List LintError :=
  match find authored.rule.id data.matrix, authored.rule.verdict with
  | some phase1, .str claimed =>
    match find claimed verdictOrder with
    | some rank =>
      if (find phase1 verdictOrder).getD 0 < rank then [.verdictExceeds claimed phase1] else []
    | none => []
  | _, _ => []

/-- L8: the dates are compared as texts. -/
def reviewErrors : List LintError :=
  match authored.reviewDue, authored.lastReviewed with
  | some due, some last => if due ≠ "" ∧ last ≠ "" ∧ due ≤ last then [.reviewOrder] else []
  | _, _ => []

/-- L9 -/
def scopeErrors : List LintError :=
  ((((logicGet authored "suppresses").bind Json.strings?).getD []).filter fun target =>
    "TAX-".toList.isPrefixOf target.toList && !data.taxa.contains target).map .unknownScope

/-- L10 on one source reference with a manual retrieval. -/
def manualErrors (ref : Citation) (mr : ManualRetrieval) : List LintError :=
  (mr.evidenceIds.filterMap fun id =>
    match find id data.mrRecords with
    | none => some (.unknownEvidence ref.sourceId id)
    | some record =>
      if record.sha256 = none ∨ record.sha256 = some "" then some (.noDigest ref.sourceId id)
      else none) ++
  (match (find ref.sourceId data.sources).bind ManifestSource.manualRetrieval with
    | none => [.noOverlay ref.sourceId]
    | some overlay =>
      (if mr.evidenceClass ≠ overlay.evidenceClass then
        [.classDisagrees ref.sourceId mr.evidenceClass overlay.evidenceClass] else []) ++
      (let extra := sortedUnique (mr.evidenceIds.filter fun id => !overlay.evidenceIds.contains id)
        if extra ≠ [] then [.extraEvidence ref.sourceId extra] else [])) ++
  (if mr.claimMatch.any STRONG_CLAIM_MATCH.contains then
    mr.evidenceIds.filterMap fun id =>
      let recorded := ((find id data.mrRecords).bind EvidenceRecord.claimMatch).getD ""
      if "PARTIAL".toList.isPrefixOf recorded.toList then
        some (.wordingExceeds ref.sourceId mr.claimMatch id recorded)
      else none
    else []) ++
  (if (authored.rule.status = some "APPROVED" ∨ authored.rule.status = some "PUBLISHED") ∧
      mr.reviewStatus ≠ some "REVIEWED" then [.notReviewed ref.sourceId authored.rule.status]
    else [])

/-- `effective_class` -/
def effectiveClass (ref : Citation) : Option String :=
  if ref.verificationStatus = "PRIMARY_VERIFIED" then some "PRIMARY"
  else ref.manualRetrieval.bind ManualRetrieval.evidenceClass

/-- L11 -/
def publicationErrors : List LintError :=
  let supporting := (authored.citations.filterMap effectiveClass).filter PUBLISHABLE_CLASSES.contains
  let published := authored.rule.status = some "APPROVED" ∨ authored.rule.status = some "PUBLISHED"
  match authored.rule.verdict with
  | .str verdict =>
    if verdict = "SUPPORTED" ∨ verdict = "PARTIAL" then
      (if published ∧ supporting = [] then
        [.noPublishable verdict (authored.rule.status.getD "")] else []) ++
      (if verdict = "SUPPORTED" ∧ supporting ≠ [] ∧
          ∀ c ∈ supporting, ¬SUPPORTED_CAPABLE.contains c then
        [.cappedAtPartial (sortedUnique supporting)] else [])
    else []
  | _ => []

/-- `lint`: the failures, none when the rule is clean. -/
def lint : Walk (List LintError) := do
  let triggers ← operands (require authored)
  let paths ← keywordErrors data authored
  return idErrors data authored triggers ++ paths ++ taxonomyErrors data authored ++
    authored.citations.flatMap (sourceErrors data) ++ verdictErrors data authored ++
    reviewErrors authored ++ scopeErrors data authored ++
    (authored.citations.flatMap fun ref =>
      (ref.manualRetrieval.map (manualErrors data authored ref)).getD []) ++
    publicationErrors authored

end Checks

end TrustLens.Validation
