import TrustLens.Lib.SameMembers
import TrustLens.Runtime.SuppressionSpec

/-!
# The suppression stage at its public boundary

`apply` takes any mapping, not only what the evaluator produced. A mapping that is no matched
composite passes through with its set-like arrays sorted; a matched composite is resolved
against the governed effects, and whatever does not fit degrades it.
-/

namespace TrustLens.Runtime

namespace SuppressionExecutor

namespace Mapping

/-- The members of a dict, in insertion order. -/
abbrev Entries := List (String × Json)

/-- `d.get(key)` -/
def get (d : Entries) (key : String) : Json := (Json.lookup key d).getD .null

/-- `d[key] = value` -/
def set (d : Entries) (key : String) (value : Json) : Entries :=
  if (Json.lookup key d).isSome then d.map fun e => if e.1 = key then (key, value) else e
  else d ++ [(key, value)]

/-- `_SET_LIKE_RESULT_ARRAYS` -/
def setLikeResultArrays : List String :=
  ["matched_positive_indicators", "matched_negative_indicators", "active_overrides",
    "neutralised_indicators", "evidence_classes_spanned", "observation_refs",
    "indicator_observation_refs", "ambiguities", "unknowns", "evidence_ids"]

/-- `_SUPPRESSION_ID_ARRAYS` -/
def suppressionIdArrays : List String :=
  ["applied_suppressors", "applied_severity_caps", "blocked_severity_caps", "blocked_suppressors",
    "context_only_present"]

/-- `_WP5_OWNED_FIELDS`, sorted. -/
def wp5OwnedFields : List String :=
  ["classification", "corroboration", "decision_severity", "detection_confidence", "governing",
    "governing_reason", "matched_evidence_strength", "risk_level", "rule_detection_confidence",
    "rule_evidence_strength"]

/-- The fields of a suppression object that this stage writes, sorted. -/
def wp4OwnedFields : List String :=
  ["applied_severity_caps", "applied_suppressors", "blocked_severity_caps", "effect",
    "severity_caps_applied", "suppressed_by"]

/-! ### `_canonicalize_result` -/

/-- A list of texts is sorted, anything else is left as it is. -/
def canonicalArray (v : Json) : Json :=
  match v.strings? with
  | some xs => .arr ((sortedUnique xs).map .str)
  | none => v

/-- The ceilings of a list that holds nothing but ceilings. -/
def ceilings? : Json → Option (List Severity)
  | .arr items => items.mapM fun j => severityCap? j.str?
  | _ => none

def canonicalCeilings (v : Json) : Json :=
  match ceilings? v with
  | some cs => .arr ((sortedUnique cs).map fun c => .str c.name)
  | none => v

def canonicalSuppression : Json → Json
  | .obj entries => .obj (entries.map fun e =>
      (e.1, if e.1 ∈ suppressionIdArrays then canonicalArray e.2
        else if e.1 = "severity_caps_applied" then canonicalCeilings e.2
        else e.2))
  | v => v

def canonicalizeResult (result : Entries) : Entries :=
  result.map fun e =>
    (e.1, if e.1 ∈ setLikeResultArrays then canonicalArray e.2
      else if e.1 = "suppression" then canonicalSuppression e.2
      else e.2)

/-! ### `_apply` -/

/-- What `_apply` raises, with every value that the text of the error shows. -/
inductive Fault where
  /-- WP4 input must be a WP3 result mapping -/
  | notMapping (result : Json)
  /-- WP3 result contains pre-populated WP5 fields -/
  | leaked (ruleId : Json) (fields : List String)
  /-- MATCHED WP3 result must have required_combination_result='TRUE' -/
  | requiredNotTrue (ruleId : Json)
  /-- MATCHED WP3 result has invalid/missing base effective_severity -/
  | invalidBaseSeverity (ruleId severity : Json)
  /-- suppression metadata must be an object -/
  | suppressionNotObject (ruleId : Json)
  /-- WP3 result contains pre-applied WP4 metadata -/
  | preApplied (ruleId : Json) (fields : List String)
  /-- matched_negative_indicators must be an array of ids -/
  | negativesNotIds (ruleId : Json)
  /-- active_overrides must be an array of ids -/
  | overridesNotIds (ruleId : Json)
  /-- a governed effect or override that does not resolve or is malformed -/
  | governed (ruleId : Json) (e : SuppressionError)
  /-- WP3 blocked_suppressors must be an array of ids -/
  | blockedNotIds (ruleId : Json)
  /-- WP3 informational blocked_suppressors disagree with WP4 governed resolution -/
  | blockedDisagree (ruleId : Json) (exposed governed : List String)
deriving DecidableEq

/-- `_validate_matched_input`; the base severity is what it establishes. -/
def validateMatchedInput (out : Entries) : Except Fault Severity :=
  let rid := get out "rule_id"
  if get out "required_combination_result" ≠ .str "TRUE" then .error (.requiredNotTrue rid)
  else
    match Severity.ofJson? (get out "effective_severity") with
    | none => .error (.invalidBaseSeverity rid (get out "effective_severity"))
    | some base =>
      match get out "suppression" with
      | .null => .ok base
      | .obj entries =>
        let unexpected := wp4OwnedFields.filter fun k => (Json.lookup k entries).isSome
        if unexpected = [] then .ok base else .error (.preApplied rid unexpected)
      | _ => .error (.suppressionNotObject rid)

/-- The ids of an array of the result, which may be missing. -/
def ids? (out : Entries) (key : String) : Option (List String) :=
  match Json.lookup key out with
  | none => some []
  | some v => v.strings?

def idsOf (out : Entries) (key : String) (fault : Fault) : Except Fault (List String) :=
  match ids? out key with
  | some ids => .ok ids
  | none => .error fault

/-- `_cross_check_blocked` -/
def crossCheckBlocked (out : Entries) (res : Resolution) : Except Fault Unit :=
  let rid := get out "rule_id"
  match get out "suppression" with
  | .null => .ok ()
  | .obj entries =>
    match get entries "blocked_suppressors" with
    | .null => .ok ()
    | v =>
      match v.strings? with
      | none => .error (.blockedNotIds rid)
      | some exposed =>
        let governed := sortedUnique (res.blockedSuppressors ++ res.blockedCaps)
        if sortedUnique exposed = governed then .ok ()
        else .error (.blockedDisagree rid (exposed.insertionSort (· ≤ ·)) governed)
  | _ => .error (.suppressionNotObject rid)

def Effect.name : Effect → String
  | .SUPPRESS_RULE => "SUPPRESS_RULE"
  | .CAP_SEVERITY => "CAP_SEVERITY"
  | .CONTEXT_ONLY => "CONTEXT_ONLY"
  | .NONE => "NONE"

/-- An array that is left out when it is empty. -/
def idArray (key : String) (ids : List String) : Entries :=
  if ids = [] then [] else [(key, .arr (ids.map .str))]

/-- The object `_attach_suppression` builds. -/
def suppressionObject (s : Suppression) : Json :=
  .obj (idArray "applied_suppressors" s.appliedSuppressors ++
    (s.suppressedBy.toList.map fun id => ("suppressed_by", .str id)) ++
    idArray "blocked_suppressors" s.blockedSuppressors ++
    idArray "applied_severity_caps" s.appliedSeverityCaps ++
    idArray "severity_caps_applied" (s.severityCapsApplied.map Severity.name) ++
    idArray "blocked_severity_caps" s.blockedSeverityCaps ++
    idArray "context_only_present" s.contextOnlyPresent ++
    (s.effect.toList.map fun e => ("effect", .str (Effect.name e))))

/-- A matched composite under its resolution. -/
def attach (out : Entries) (base : Severity) (res : Resolution) : Entries :=
  let capped := set out "effective_severity" (.str (res.survivingCeilings.foldl min base).name)
  let stated := if res.appliedSuppressors ≠ [] then set capped "evaluation_state" (.str "SUPPRESSED")
    else capped
  set stated "suppression" (suppressionObject (suppressionOf res))

section

variable (rk : RuntimeKnowledge)

/-- `_apply` -/
def applyCore (result : Entries) : Except Fault Entries :=
  let out := canonicalizeResult result
  let rid := get out "rule_id"
  let leaked := wp5OwnedFields.filter fun k => (Json.lookup k out).isSome
  if leaked ≠ [] then .error (.leaked rid leaked)
  else if get out "kind" ≠ .str "COMPOSITE" ∨ get out "evaluation_state" ≠ .str "MATCHED" then .ok out
  else do
    let base ← validateMatchedInput out
    let negatives ← idsOf out "matched_negative_indicators" (.negativesNotIds rid)
    let overrides ← idsOf out "active_overrides" (.overridesNotIds rid)
    let blocked ← (blockedCategories rk overrides).mapError (.governed rid)
    let res ← (resolve rk "" blocked negatives).mapError (.governed rid)
    crossCheckBlocked out res
    return attach out base res

/-- A value of the result when it is one of those allowed, and a default otherwise. -/
def oneOfOr (allowed : List String) (fallback : String) (v : Json) : Json :=
  if v ∈ allowed.map .str then v else .str fallback

/-- The degraded result: identity and combination truth are kept, the rest is dropped. -/
def degraded (result : Entries) (message : String) : Entries :=
  [("rule_id", (Json.lookup "rule_id" result).getD (.str "TL-XXX-000")),
    ("rule_version", (Json.lookup "rule_version" result).getD (.str "0.0.0")),
    ("kind", oneOfOr ["COMPOSITE", "SUPPRESSION"] "COMPOSITE"
      ((Json.lookup "kind" result).getD (.str "COMPOSITE"))),
    ("evaluation_state", .str "NOT_APPLICABLE"),
    ("required_combination_result", oneOfOr ["TRUE", "FALSE", "UNKNOWN"] "UNKNOWN"
      ((Json.lookup "required_combination_result" result).getD (.str "UNKNOWN"))),
    ("evaluation_error", .obj [("code", .str "SUPPRESSION_EXECUTION_ERROR"),
      ("message", .str message)])]

/-- `apply`; the text of a fault is what `render` makes of it. -/
def apply (render : Fault → String) : Json → Entries
  | .obj result =>
    match applyCore rk result with
    | .ok out => out
    | .error e => degraded result (render e)
  | v => degraded [] (render (.notMapping v))

end

/-! ### Dicts -/

lemma lookup_map (f : String → Json → Json) (key : String) (d : Entries) :
    Json.lookup key (d.map fun e => (e.1, f e.1 e.2)) = (Json.lookup key d).map (f key) := by
  induction d with
  | nil => rfl
  | cons e rest ih =>
    obtain ⟨k, v⟩ := e
    rw [List.map_cons, Json.lookup, Json.lookup, ih]
    split_ifs with hk
    · rw [hk, Option.map_some]
    · rfl

lemma lookup_append (key : String) (d : Entries) (k : String) (v : Json) :
    Json.lookup key (d ++ [(k, v)]) =
      (Json.lookup key d).or (if k = key then some v else none) := by
  induction d with
  | nil => rfl
  | cons e rest ih =>
    obtain ⟨k', w⟩ := e
    rw [List.cons_append, Json.lookup, Json.lookup, ih]
    split_ifs <;> rfl

lemma lookup_set (d : Entries) (k : String) (v : Json) (key : String) :
    Json.lookup key (set d k v) = if key = k then some v else Json.lookup key d := by
  unfold set
  split_ifs with hsome hk hk
  · have hmap := lookup_map (fun k' w => if k' = k then v else w) key d
    obtain ⟨w, hw⟩ := Option.isSome_iff_exists.mp hsome
    rw [hk, hw, Option.map_some, if_pos rfl] at hmap
    rw [hk, ← hmap]
    congr 1
    refine List.map_congr_left fun e _ => ?_
    split_ifs with he
    · rw [he]
    · rfl
  · have hmap := lookup_map (fun k' w => if k' = k then v else w) key d
    rw [show (fun w => if key = k then v else w) = id from funext fun w => if_neg hk,
      Option.map_id] at hmap
    refine Eq.trans ?_ hmap
    congr 1
    refine List.map_congr_left fun e _ => ?_
    split_ifs with he
    · rw [he]
    · rfl
  · rw [lookup_append, hk, if_pos rfl, Option.not_isSome_iff_eq_none.mp hsome, Option.none_or]
  · rw [lookup_append, if_neg (Ne.symm hk), Option.or_none]

lemma get_set (d : Entries) (k : String) (v : Json) (key : String) :
    get (set d k v) key = if key = k then v else get d key := by
  unfold get
  rw [lookup_set]
  split_ifs <;> rfl

/-! ### Canonical arrays -/

lemma strings?_map (xs : List String) : (Json.arr (xs.map .str)).strings? = some xs := by
  induction xs with
  | nil => rfl
  | cons x xs ih =>
    simp only [Json.strings?, List.map_cons, List.mapM_cons] at ih ⊢
    rw [ih]
    rfl

lemma strings?_canonicalArray (v : Json) :
    (canonicalArray v).strings? = v.strings?.map sortedUnique := by
  unfold canonicalArray
  cases h : v.strings? with
  | none => exact h
  | some xs => exact strings?_map _

/-- What happens to one member of a result. -/
def canonicalMember (key : String) (v : Json) : Json :=
  if key ∈ setLikeResultArrays then canonicalArray v
  else if key = "suppression" then canonicalSuppression v
  else v

lemma lookup_canonicalizeResult (key : String) (d : Entries) :
    Json.lookup key (canonicalizeResult d) = (Json.lookup key d).map (canonicalMember key) :=
  lookup_map canonicalMember key d

/-- Members that are no arrays stay as they are. -/
lemma lookup_canonical_plain {key : String} (h : key ∉ setLikeResultArrays)
    (hne : key ≠ "suppression") (d : Entries) :
    Json.lookup key (canonicalizeResult d) = Json.lookup key d := by
  rw [lookup_canonicalizeResult]
  cases Json.lookup key d with
  | none => rfl
  | some v => rw [Option.map_some, canonicalMember, if_neg h, if_neg hne]

lemma get_canonical_plain {key : String} (h : key ∉ setLikeResultArrays)
    (hne : key ≠ "suppression") (d : Entries) : get (canonicalizeResult d) key = get d key := by
  rw [get, lookup_canonical_plain h hne, get]

lemma ids?_canonical {key : String} (h : key ∈ setLikeResultArrays) (d : Entries) :
    ids? (canonicalizeResult d) key = (ids? d key).map sortedUnique := by
  unfold ids?
  rw [lookup_canonicalizeResult]
  cases Json.lookup key d with
  | none => rfl
  | some v =>
    simp only [Option.map_some, canonicalMember, if_pos h]
    exact strings?_canonicalArray v

/-! ### The same arrays in another order -/

/-- Two lists of texts with the same members. -/
def SameTexts (v w : Json) : Prop :=
  ∃ xs ys, v.strings? = some xs ∧ w.strings? = some ys ∧ ∀ s, s ∈ xs ↔ s ∈ ys

/-- Two lists of ceilings with the same members. -/
def SameCeilings (v w : Json) : Prop :=
  ∃ cs ds, ceilings? v = some cs ∧ ceilings? w = some ds ∧ ∀ c, c ∈ cs ↔ c ∈ ds

inductive SameSuppression : Json → Json → Prop where
  | same (v : Json) : SameSuppression v v
  | obj {entries entries' : Entries} (h : List.Forall₂ (fun e e' => e.1 = e'.1 ∧ (e.2 = e'.2 ∨
      (e.1 ∈ suppressionIdArrays ∧ SameTexts e.2 e'.2) ∨
      (e.1 = "severity_caps_applied" ∧ SameCeilings e.2 e'.2))) entries entries') :
    SameSuppression (.obj entries) (.obj entries')

/-- The same result, the members of its set-like arrays permuted and repeated. -/
def SameResult : Entries → Entries → Prop :=
  List.Forall₂ fun e e' => e.1 = e'.1 ∧ (e.2 = e'.2 ∨
    (e.1 ∈ setLikeResultArrays ∧ SameTexts e.2 e'.2) ∨
    (e.1 = "suppression" ∧ SameSuppression e.2 e'.2))

lemma canonicalArray_congr {v w : Json} (h : SameTexts v w) : canonicalArray v = canonicalArray w := by
  obtain ⟨xs, ys, hv, hw, hmem⟩ := h
  simp only [canonicalArray, hv, hw, sortedUnique_congr hmem]

lemma canonicalCeilings_congr {v w : Json} (h : SameCeilings v w) :
    canonicalCeilings v = canonicalCeilings w := by
  obtain ⟨cs, ds, hv, hw, hmem⟩ := h
  simp only [canonicalCeilings, hv, hw, sortedUnique_congr hmem]

lemma map_congr_of_forall₂ {α β : Type} {R : α → α → Prop} {f : α → β} {xs ys : List α}
    (h : List.Forall₂ R xs ys) (hf : ∀ x y, R x y → f x = f y) : xs.map f = ys.map f := by
  induction h with
  | nil => rfl
  | cons hr _ ih => rw [List.map_cons, List.map_cons, hf _ _ hr, ih]

lemma canonicalSuppression_congr {v w : Json} (h : SameSuppression v w) :
    canonicalSuppression v = canonicalSuppression w := by
  cases h with
  | same => rfl
  | obj h =>
    simp only [canonicalSuppression]
    congr 1
    refine map_congr_of_forall₂ h fun e e' hsame => ?_
    obtain ⟨hkey, hvalue⟩ := hsame
    obtain ⟨k, v⟩ := e
    obtain ⟨k', w⟩ := e'
    obtain rfl : k = k' := hkey
    rcases hvalue with rfl | ⟨hid, htexts⟩ | ⟨rfl, hceilings⟩
    · rfl
    · rw [if_pos hid, if_pos hid, canonicalArray_congr htexts]
    · have hnot : "severity_caps_applied" ∉ suppressionIdArrays := by decide
      simp only [hnot, if_false, if_true, canonicalCeilings_congr hceilings]

theorem canonicalizeResult_congr {d d' : Entries} (h : SameResult d d') :
    canonicalizeResult d = canonicalizeResult d' := by
  refine map_congr_of_forall₂ h fun e e' ⟨hkey, hvalue⟩ => ?_
  obtain ⟨k, v⟩ := e
  obtain ⟨k', w⟩ := e'
  obtain rfl : k = k' := hkey
  rcases hvalue with rfl | ⟨hid, htexts⟩ | ⟨rfl, hsuppression⟩
  · rfl
  · rw [if_pos hid, if_pos hid, canonicalArray_congr htexts]
  · have hnot : "suppression" ∉ setLikeResultArrays := by decide
    simp only [hnot, if_false, if_true, canonicalSuppression_congr hsuppression]

lemma degraded_congr {d d' : Entries} (h : canonicalizeResult d = canonicalizeResult d')
    (message : String) : degraded d message = degraded d' message := by
  have hlookup : ∀ key ∈ ["rule_id", "rule_version", "kind", "required_combination_result"],
      Json.lookup key d = Json.lookup key d' := by
    intro key hkey
    have hplain : key ∉ setLikeResultArrays ∧ key ≠ "suppression" := by
      revert key
      decide
    rw [← lookup_canonical_plain hplain.1 hplain.2 d, h, lookup_canonical_plain hplain.1 hplain.2]
  simp only [degraded, hlookup _ (List.mem_cons_self),
    hlookup "rule_version" (by decide), hlookup "kind" (by decide),
    hlookup "required_combination_result" (by decide)]

/-- The whole output, faults included, is the same for the same arrays in another order. -/
theorem apply_congr (rk : RuntimeKnowledge) (render : Fault → String) {d d' : Entries}
    (h : SameResult d d') : apply rk render (.obj d) = apply rk render (.obj d') := by
  have hcanonical := canonicalizeResult_congr h
  have hcore : applyCore rk d = applyCore rk d' := by
    simp only [applyCore, hcanonical]
  simp only [apply, hcore]
  cases applyCore rk d' with
  | ok out => rfl
  | error e => exact degraded_congr hcanonical _

/-! ### What a matched composite becomes -/

def IsMatchedComposite (result : Entries) : Prop :=
  get result "kind" = .str "COMPOSITE" ∧ get result "evaluation_state" = .str "MATCHED"

/-- The result is degraded by this stage. -/
def IsDegraded (out : Entries) : Prop :=
  get out "evaluation_state" = .str "NOT_APPLICABLE" ∧ ∃ message, get out "evaluation_error" =
    .obj [("code", .str "SUPPRESSION_EXECUTION_ERROR"), ("message", .str message)]

/-- Whether a result carries what a later stage owns. -/
def Leaks (result : Entries) : Prop :=
  ∃ key ∈ wp5OwnedFields, (Json.lookup key result).isSome = true

/-- An active override blocks the effect of a negative that lets itself be blocked. -/
def Blocked (rk : RuntimeKnowledge) (overrides : List String) (neg : NegativeIndicator) : Prop :=
  neg.blockableByOverrides = .bool true ∧ ∃ id ∈ overrides, ∃ o, rk.override id = some o ∧
    ∃ c ∈ o.blocksSuppressionCategories.getD [], neg.category = some c

/-- A matched negative cancels the rule. -/
def Cancels (rk : RuntimeKnowledge) (negatives overrides : List String) : Prop :=
  ∃ id ∈ negatives, ∃ neg, rk.negativeIndicator id = some neg ∧
    neg.suppressionEffect = some "SUPPRESS_RULE" ∧ ¬Blocked rk overrides neg

/-- A matched negative caps the severity of the rule. -/
def Caps (rk : RuntimeKnowledge) (negatives overrides : List String) (ceiling : Severity) : Prop :=
  ∃ id ∈ negatives, ∃ neg, rk.negativeIndicator id = some neg ∧
    neg.suppressionEffect = some "CAP_SEVERITY" ∧ severityCap? neg.severityCap = some ceiling ∧
      ¬Blocked rk overrides neg

/-- A matched composite after its effects: cancelled or not, at the least of the severities. -/
structure Resolved (rk : RuntimeKnowledge) (result out : Entries) : Prop where
  exists_ids : ∃ negatives overrides, ids? result "matched_negative_indicators" = some negatives ∧
    ids? result "active_overrides" = some overrides ∧
    (get out "evaluation_state" = .str "SUPPRESSED" ↔ Cancels rk negatives overrides) ∧
    (get out "evaluation_state" = .str "MATCHED" ↔ ¬Cancels rk negatives overrides) ∧
    ∃ base effective, Severity.ofJson? (get result "effective_severity") = some base ∧
      get out "effective_severity" = .str effective.name ∧ effective ≤ base ∧
      (∀ c, Caps rk negatives overrides c → effective ≤ c) ∧
      (effective = base ∨ Caps rk negatives overrides effective)

lemma isDegraded_degraded (result : Entries) (message : String) :
    IsDegraded (degraded result message) := ⟨rfl, message, rfl⟩

lemma leaks_canonical (result : Entries) :
    wp5OwnedFields.filter (fun k => (Json.lookup k (canonicalizeResult result)).isSome) ≠ [] ↔
      Leaks result := by
  rw [ne_eq, List.filter_eq_nil_iff, Leaks]
  push Not
  refine exists_congr fun key => and_congr_right fun _ => ?_
  rw [lookup_canonicalizeResult, Option.isSome_map]

lemma applyCore_leaks {rk : RuntimeKnowledge} {result : Entries} (h : Leaks result) :
    ∃ e, applyCore rk result = .error e := by
  simp only [applyCore, if_pos ((leaks_canonical result).mpr h)]
  exact ⟨_, rfl⟩

lemma isMatchedComposite_canonical (result : Entries) :
    ¬(get (canonicalizeResult result) "kind" ≠ .str "COMPOSITE" ∨
      get (canonicalizeResult result) "evaluation_state" ≠ .str "MATCHED") ↔
      IsMatchedComposite result := by
  rw [get_canonical_plain (by decide) (by decide), get_canonical_plain (by decide) (by decide),
    not_or, not_not, not_not, IsMatchedComposite]

lemma applyCore_plain {rk : RuntimeKnowledge} {result : Entries} (hleak : ¬Leaks result)
    (h : ¬IsMatchedComposite result) : applyCore rk result = .ok (canonicalizeResult result) := by
  rw [← leaks_canonical] at hleak
  rw [← isMatchedComposite_canonical, not_not] at h
  simp only [applyCore, if_neg hleak, if_pos h]

lemma mapError_ok {ε ε' α : Type} {x : Except ε α} {f : ε → ε'} {a : α}
    (h : x.mapError f = .ok a) : x = .ok a := by
  cases x with
  | error e => cases h
  | ok b => exact congrArg _ (Except.ok.inj h)

/-- The pieces a matched composite is resolved from. -/
structure Run (rk : RuntimeKnowledge) (result : Entries) (base : Severity)
    (negatives overrides blocked : List String) (res : Resolution) : Prop where
  base_eq : Severity.ofJson? (get result "effective_severity") = some base
  negatives_eq : ids? (canonicalizeResult result) "matched_negative_indicators" = some negatives
  overrides_eq : ids? (canonicalizeResult result) "active_overrides" = some overrides
  blocked_eq : blockedCategories rk overrides = .ok blocked
  res_eq : resolve rk "" blocked negatives = .ok res

lemma ids?_of_idsOf {d : Entries} {key : String} {fault : Fault} {ids : List String}
    (h : idsOf d key fault = .ok ids) : ids? d key = some ids := by
  unfold idsOf at h
  split at h
  · rename_i ids' hids
    rw [hids, Except.ok.inj h]
  · cases h

lemma ofJson_of_validate {out : Entries} {base : Severity}
    (h : validateMatchedInput out = .ok base) :
    Severity.ofJson? (get out "effective_severity") = some base := by
  simp only [validateMatchedInput] at h
  split_ifs at h
  split at h
  · cases h
  · rename_i base' hbase
    rw [hbase]
    split at h
    · exact congrArg some (Except.ok.inj h)
    · split_ifs at h
      exact congrArg some (Except.ok.inj h)
    · cases h

lemma applyCore_run {rk : RuntimeKnowledge} {result out : Entries}
    (hmatched : IsMatchedComposite result) (h : applyCore rk result = .ok out) :
    ∃ base negatives overrides blocked res,
      Run rk result base negatives overrides blocked res ∧
        out = attach (canonicalizeResult result) base res := by
  have hleak : ¬Leaks result := by
    intro hleaks
    obtain ⟨e, he⟩ := @applyCore_leaks rk _ hleaks
    rw [he] at h
    cases h
  rw [← leaks_canonical] at hleak
  rw [← isMatchedComposite_canonical] at hmatched
  simp only [applyCore, if_neg hleak, if_neg hmatched] at h
  obtain ⟨base, hbase, h⟩ := bind_ok h
  obtain ⟨negatives, hnegatives, h⟩ := bind_ok h
  obtain ⟨overrides, hoverrides, h⟩ := bind_ok h
  obtain ⟨blocked, hblocked, h⟩ := bind_ok h
  obtain ⟨res, hres, h⟩ := bind_ok h
  obtain ⟨_, -, h⟩ := bind_ok h
  refine ⟨base, negatives, overrides, blocked, res, ⟨?_, ids?_of_idsOf hnegatives,
    ids?_of_idsOf hoverrides, mapError_ok hblocked, mapError_ok hres⟩, (Except.ok.inj h).symm⟩
  have hplain : get (canonicalizeResult result) "effective_severity" =
      get result "effective_severity" := get_canonical_plain (by decide) (by decide) _
  rw [← hplain]
  exact ofJson_of_validate hbase

/-! ### The governed effects -/

section Effects

variable {rk : RuntimeKnowledge} {blocked : List String} {id : String} {o : Outcome}

/-- The blocked categories are those the active overrides list. -/
lemma isIn_blocked_iff {overrides : List String} (h : blockedCategories rk overrides = .ok blocked)
    (category : Option String) : Evaluator.isIn category blocked = true ↔
      ∃ id ∈ overrides, ∃ o, rk.override id = some o ∧
        ∃ c ∈ o.blocksSuppressionCategories.getD [], category = some c := by
  cases category with
  | none => simp [Evaluator.isIn]
  | some c =>
    rw [Evaluator.isIn, List.contains_iff_mem, mem_blockedCategories h]
    simp

lemma blocked_iff {overrides : List String} (h : blockedCategories rk overrides = .ok blocked)
    {neg : NegativeIndicator} {blockable : Bool} (hgov : Governed rk blocked id o neg blockable)
    (hsoft : IsSoft neg) : o.isBlocked = true ↔ Blocked rk overrides neg := by
  rw [hgov.blocked_iff, and_iff_right hsoft, isIn_blocked_iff h, Blocked, hgov.flag, Json.bool.injEq]

/-- A cap of the severity is what the record of the negative says. -/
lemma cap_iff (h : outcomeOf rk "" blocked id = .ok o) {neg : NegativeIndicator}
    (hneg : rk.negativeIndicator id = some neg) (c : Severity) :
    (∃ b, o = .cap c b) ↔
      neg.suppressionEffect = some "CAP_SEVERITY" ∧ severityCap? neg.severityCap = some c := by
  obtain ⟨neg', blockable, hgov⟩ := outcomeOf_ok h
  obtain rfl := Option.some.inj (hgov.found.symm.trans hneg)
  unfold outcomeOf at h
  simp only [hgov.found, hgov.flag] at h
  split_ifs at h with _ _ h1 h2 h3
  · obtain rfl := Except.ok.inj h
    simp [h1]
  · obtain rfl := Except.ok.inj h
    simp [h2]
  · cases hcap : severityCap? neg'.severityCap with
    | none =>
      simp only [hcap] at h
      cases h
    | some ceiling =>
      simp only [hcap] at h
      obtain rfl := Except.ok.inj h
      simp [h3]
  · obtain rfl := Except.ok.inj h
    simp [h3]

end Effects

section Resolution

variable {rk : RuntimeKnowledge} {blocked negatives overrides : List String} {res : Resolution}

lemma cancels_iff (hblocked : blockedCategories rk overrides = .ok blocked)
    (hres : resolve rk "" blocked negatives = .ok res) :
    res.appliedSuppressors ≠ [] ↔ Cancels rk negatives overrides := by
  have hresolves := resolve_ok hres
  constructor
  · intro hne
    obtain ⟨id, hid⟩ := List.exists_mem_of_ne_nil _ hne
    obtain ⟨hmem, ho⟩ := (hresolves.applied id).mp hid
    obtain ⟨neg, blockable, hgov⟩ := outcomeOf_ok ho
    have heffect := hgov.suppressor_iff.mp ⟨false, rfl⟩
    refine ⟨id, hmem, neg, hgov.found, heffect, fun hb => ?_⟩
    have := (blocked_iff hblocked hgov (.inl heffect)).mpr hb
    cases this
  · rintro ⟨id, hmem, neg, hneg, heffect, hfree⟩
    obtain ⟨o, ho⟩ := hresolves.total id hmem
    obtain ⟨neg', blockable, hgov⟩ := outcomeOf_ok ho
    obtain rfl := Option.some.inj (hgov.found.symm.trans hneg)
    obtain ⟨b, rfl⟩ := hgov.suppressor_iff.mpr heffect
    cases b with
    | true => exact absurd ((blocked_iff hblocked hgov (.inl heffect)).mp rfl) hfree
    | false => exact List.ne_nil_of_mem ((hresolves.applied id).mpr ⟨hmem, ho⟩)

lemma caps_iff (hblocked : blockedCategories rk overrides = .ok blocked)
    (hres : resolve rk "" blocked negatives = .ok res) (c : Severity) :
    c ∈ res.survivingCeilings ↔ Caps rk negatives overrides c := by
  have hresolves := resolve_ok hres
  rw [hresolves.ceilings]
  refine exists_congr fun id => and_congr_right fun hmem => ?_
  constructor
  · intro ho
    obtain ⟨neg, blockable, hgov⟩ := outcomeOf_ok ho
    obtain ⟨heffect, hcap⟩ := (cap_iff ho hgov.found c).mp ⟨false, rfl⟩
    refine ⟨neg, hgov.found, heffect, hcap, fun hb => ?_⟩
    have := (blocked_iff hblocked hgov (.inr heffect)).mpr hb
    cases this
  · rintro ⟨neg, hneg, heffect, hcap, hfree⟩
    obtain ⟨o, ho⟩ := hresolves.total id hmem
    obtain ⟨neg', blockable, hgov⟩ := outcomeOf_ok ho
    obtain rfl := Option.some.inj (hgov.found.symm.trans hneg)
    obtain ⟨b, rfl⟩ := (cap_iff ho hneg c).mpr ⟨heffect, hcap⟩
    cases b with
    | true => exact absurd ((blocked_iff hblocked hgov (.inr heffect)).mp rfl) hfree
    | false => exact ho

lemma cancels_congr {negatives' overrides' : List String} (hneg : ∀ id, id ∈ negatives ↔ id ∈ negatives')
    (hov : ∀ id, id ∈ overrides ↔ id ∈ overrides') :
    Cancels rk negatives overrides ↔ Cancels rk negatives' overrides' := by
  simp only [Cancels, Blocked, hneg, hov]

lemma caps_congr {negatives' overrides' : List String} (hneg : ∀ id, id ∈ negatives ↔ id ∈ negatives')
    (hov : ∀ id, id ∈ overrides ↔ id ∈ overrides') (c : Severity) :
    Caps rk negatives overrides c ↔ Caps rk negatives' overrides' c := by
  simp only [Caps, Blocked, hneg, hov]

end Resolution

/-! ### A resolved composite -/

lemma foldl_min_mem (base : Severity) (ceilings : List Severity) :
    ceilings.foldl min base = base ∨ ceilings.foldl min base ∈ ceilings := by
  induction ceilings generalizing base with
  | nil => exact .inl rfl
  | cons c rest ih =>
    rw [List.foldl_cons]
    rcases ih (min base c) with heq | hmem
    · rw [heq]
      rcases min_choice base c with hmin | hmin
      · exact .inl hmin
      · rw [hmin]
        exact .inr List.mem_cons_self
    · exact .inr (List.mem_cons_of_mem c hmem)

lemma ids_of_canonical {result : Entries} {key : String} (h : key ∈ setLikeResultArrays)
    {ids : List String} (hids : ids? (canonicalizeResult result) key = some ids) :
    ∃ raw, ids? result key = some raw ∧ ∀ id, id ∈ ids ↔ id ∈ raw := by
  rw [ids?_canonical h, Option.map_eq_some_iff] at hids
  obtain ⟨raw, hraw, rfl⟩ := hids
  exact ⟨raw, hraw, fun _ => mem_sortedUnique⟩

lemma get_attach_severity (out : Entries) (base : Severity) (res : Resolution) :
    get (attach out base res) "effective_severity" =
      .str (res.survivingCeilings.foldl min base).name := by
  unfold attach
  rw [get_set, if_neg (by decide)]
  split_ifs
  · rw [get_set, if_neg (by decide), get_set, if_pos rfl]
  · rw [get_set, if_pos rfl]

lemma get_attach_state (out : Entries) (base : Severity) (res : Resolution) :
    get (attach out base res) "evaluation_state" =
      if res.appliedSuppressors ≠ [] then .str "SUPPRESSED" else get out "evaluation_state" := by
  unfold attach
  rw [get_set, if_neg (by decide)]
  split_ifs
  · rw [get_set, if_pos rfl]
  · rw [get_set, if_neg (by decide)]

lemma resolved_of_run {rk : RuntimeKnowledge} {result : Entries} {base : Severity}
    {negatives overrides blocked : List String} {res : Resolution}
    (hmatched : IsMatchedComposite result)
    (run : Run rk result base negatives overrides blocked res) :
    Resolved rk result (attach (canonicalizeResult result) base res) := by
  obtain ⟨negs, hnegs, hneg⟩ := ids_of_canonical (by decide) run.negatives_eq
  obtain ⟨ovs, hovs, hov⟩ := ids_of_canonical (by decide) run.overrides_eq
  have hcancels : res.appliedSuppressors ≠ [] ↔ Cancels rk negs ovs :=
    (cancels_iff run.blocked_eq run.res_eq).trans (cancels_congr hneg hov)
  have hcaps : ∀ c, c ∈ res.survivingCeilings ↔ Caps rk negs ovs c := fun c =>
    (caps_iff run.blocked_eq run.res_eq c).trans (caps_congr hneg hov c)
  have hstate := get_attach_state (canonicalizeResult result) base res
  rw [get_canonical_plain (by decide) (by decide), hmatched.2] at hstate
  obtain ⟨hbase, hceilings⟩ := le_foldl_min.mp (le_refl (res.survivingCeilings.foldl min base))
  refine ⟨negs, ovs, hnegs, hovs, ?_, ?_, base, _, run.base_eq, get_attach_severity _ _ _, hbase,
    fun c hc => hceilings c ((hcaps c).mpr hc),
    (foldl_min_mem base res.survivingCeilings).imp_right (hcaps _).mp⟩
  · rw [hstate, ← hcancels]
    split_ifs with hne
    · exact iff_of_true rfl hne
    · exact iff_of_false (by decide) hne
  · rw [hstate, ← hcancels]
    split_ifs with hne
    · exact iff_of_false (by decide) (not_not.mpr hne)
    · exact iff_of_true rfl hne

/-- A matched composite is resolved or degraded. -/
lemma apply_matched (rk : RuntimeKnowledge) (render : Fault → String) {result : Entries}
    (hmatched : IsMatchedComposite result) :
    Resolved rk result (apply rk render (.obj result)) ∨
      IsDegraded (apply rk render (.obj result)) := by
  cases hcore : applyCore rk result with
  | error e =>
    simp only [apply, hcore]
    exact .inr (isDegraded_degraded _ _)
  | ok out =>
    simp only [apply, hcore]
    obtain ⟨base, negatives, overrides, blocked, res, run, rfl⟩ := applyCore_run hmatched hcore
    exact .inl (resolved_of_run hmatched run)

lemma Resolved.state {rk : RuntimeKnowledge} {result out : Entries} (h : Resolved rk result out) :
    get out "evaluation_state" = .str "MATCHED" ∨ get out "evaluation_state" = .str "SUPPRESSED" := by
  obtain ⟨negatives, overrides, -, -, hsuppressed, hmatch, -⟩ := h.exists_ids
  by_cases hcancels : Cancels rk negatives overrides
  · exact .inr (hsuppressed.mpr hcancels)
  · exact .inl (hmatch.mpr hcancels)

lemma apply_of_leaks (rk : RuntimeKnowledge) (render : Fault → String) {result : Entries}
    (h : Leaks result) : IsDegraded (apply rk render (.obj result)) := by
  obtain ⟨e, he⟩ := @applyCore_leaks rk _ h
  simp only [apply, he]
  exact isDegraded_degraded _ _

lemma apply_plain (rk : RuntimeKnowledge) (render : Fault → String) {result : Entries}
    (hleak : ¬Leaks result) (h : ¬IsMatchedComposite result) :
    apply rk render (.obj result) = canonicalizeResult result := by
  simp only [apply, applyCore_plain hleak h]

/-- The stage is exact and closed: what is no matched composite passes with its arrays sorted, a
matched one is cancelled or capped as its unblocked effects say or else degraded, and the order
and repetition of the texts of its arrays never show. -/
theorem suppression_exact (rk : RuntimeKnowledge) (render : Fault → String) (result : Entries) :
    (Leaks result → IsDegraded (apply rk render (.obj result))) ∧
    (¬Leaks result → ¬IsMatchedComposite result →
      apply rk render (.obj result) = canonicalizeResult result ∧
      ∀ key, key ∉ setLikeResultArrays → key ≠ "suppression" →
        get (apply rk render (.obj result)) key = get result key) ∧
    (IsMatchedComposite result →
      (get (apply rk render (.obj result)) "evaluation_state" = .str "MATCHED" ∨
        get (apply rk render (.obj result)) "evaluation_state" = .str "SUPPRESSED" ∨
        IsDegraded (apply rk render (.obj result))) ∧
      (¬IsDegraded (apply rk render (.obj result)) →
        Resolved rk result (apply rk render (.obj result)))) ∧
    ∀ permuted, SameResult result permuted →
      apply rk render (.obj permuted) = apply rk render (.obj result) := by
  refine ⟨apply_of_leaks rk render, fun hleak h => ?_, fun hmatched => ⟨?_, ?_⟩,
    fun _ hsame => (apply_congr rk render hsame).symm⟩
  · rw [apply_plain rk render hleak h]
    exact ⟨rfl, fun key hkey hne => get_canonical_plain hkey hne result⟩
  · rcases apply_matched rk render hmatched with hresolved | hdegraded
    · exact hresolved.state.imp_right .inl
    · exact .inr (.inr hdegraded)
  · exact (apply_matched rk render hmatched).resolve_right

/-- An array that holds anything but texts keeps its order. -/
theorem mixed_array_ordered : ¬∀ (rk : RuntimeKnowledge) (render : Fault → String)
    (before after : Entries) (key : String) (items items' : List Json),
    key ∈ setLikeResultArrays → items.Perm items' →
      apply rk render (.obj (before ++ (key, .arr items) :: after)) =
        apply rk render (.obj (before ++ (key, .arr items') :: after)) := by
  intro h
  have heq := h Evaluator.sampleKnowledge (fun _ => "") [] [] "observation_refs"
    [.str "o-1", .int 1] [.int 1, .str "o-1"] (by decide) (List.Perm.swap _ _ _)
  have hplain : ∀ items : List Json,
      ¬Leaks [("observation_refs", .arr items)] ∧
        ¬IsMatchedComposite [("observation_refs", .arr items)] := by
    intro items
    constructor
    · rintro ⟨key, hkey, hsome⟩
      have hne : "observation_refs" ≠ key := by
        rintro rfl
        revert hkey
        decide
      rw [Json.lookup, if_neg hne] at hsome
      cases hsome
    · rintro ⟨hkind, -⟩
      cases hkind
  rw [List.nil_append, List.nil_append, apply_plain _ _ (hplain _).1 (hplain _).2,
    apply_plain _ _ (hplain _).1 (hplain _).2] at heq
  revert heq
  decide

end Mapping
end SuppressionExecutor
end TrustLens.Runtime
