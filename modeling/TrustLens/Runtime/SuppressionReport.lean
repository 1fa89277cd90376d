import Mathlib.Data.List.Induction
import TrustLens.Runtime.Explanation
import TrustLens.Runtime.GenuineDecisions
import TrustLens.Runtime.LiveNegatives
import TrustLens.Runtime.RiskMonotone

/-!
# What the explanation says of suppression

The explanation merges the suppression of all rule results into one list. The list is read
against the arrays it is merged from: which negatives cancelled a rule, lowered its severity,
were blocked on one, or only recorded context.
-/

namespace TrustLens.Runtime.Explanation

/-- A list in the suppression of some result holds the id. -/
def ListedIn (field : Suppression → List String) (rs : List RuleResult) (id : String) : Prop :=
  ∃ r ∈ rs, ∃ s, r.suppression = some s ∧ id ∈ field s

/-- The negative cancelled a rule. -/
def Cancels : List RuleResult → String → Prop := ListedIn Suppression.appliedSuppressors

/-- The negative took part in capping the severity of a rule. -/
def Caps : List RuleResult → String → Prop := ListedIn Suppression.appliedSeverityCaps

/-- An override blocked the negative on a rule. -/
def BlockedOn : List RuleResult → String → Prop :=
  ListedIn fun s => s.blockedSuppressors ++ s.blockedSeverityCaps

/-- The negative was present as context only. -/
def ContextOn : List RuleResult → String → Prop := ListedIn Suppression.contextOnlyPresent

/-- The list names the negatives that were resolved, each once, with what came of it. -/
structure Truthful (rs : List RuleResult) (listed : List (String × SuppressionOutcome)) : Prop where
  once : (listed.map Prod.fst).Nodup
  complete : ∀ id, id ∈ listed.map Prod.fst ↔
    Cancels rs id ∨ Caps rs id ∨ BlockedOn rs id ∨ ContextOn rs id
  applied : ∀ e ∈ listed, e.2 = .APPLIED ↔ Cancels rs e.1 ∨ Caps rs e.1
  blocked : ∀ e ∈ listed, e.2 = .BLOCKED_BY_OVERRIDE ↔
    ¬(Cancels rs e.1 ∨ Caps rs e.1) ∧ BlockedOn rs e.1
  context : ∀ e ∈ listed, e.2 = .RECORDED_CONTEXT_ONLY ↔
    ¬(Cancels rs e.1 ∨ Caps rs e.1) ∧ ¬BlockedOn rs e.1

/-! ### One result -/

/-- `seen.setdefault` for a list of ids. -/
def noteNew (acc : List (String × SuppressionOutcome)) (outcome : SuppressionOutcome)
    (ids : List String) : List (String × SuppressionOutcome) :=
  acc ++ (sortedUnique (ids.filter fun id => !(acc.map Prod.fst).contains id)).map (·, outcome)

/-- The suppressors of one result noted as applied. -/
def noteApplied (seen : List (String × SuppressionOutcome)) (ids : List String) :
    List (String × SuppressionOutcome) :=
  seen.filter (fun e => !ids.contains e.1) ++ (sortedUnique ids).map (·, .APPLIED)

lemma noteSuppression_eq {seen : List (String × SuppressionOutcome)} {r : RuleResult}
    {s : Suppression} (h : r.suppression = some s) : noteSuppression seen r =
      noteNew (noteNew (noteApplied seen s.appliedSuppressors) .BLOCKED_BY_OVERRIDE
        (s.blockedSuppressors ++ s.blockedSeverityCaps)) .RECORDED_CONTEXT_ONLY
        s.contextOnlyPresent := by
  rw [noteSuppression, h]
  rfl

section Note

variable {acc : List (String × SuppressionOutcome)} {ids : List String}
variable {outcome : SuppressionOutcome}

lemma mem_noteNew {e : String × SuppressionOutcome} : e ∈ noteNew acc outcome ids ↔
    e ∈ acc ∨ e.2 = outcome ∧ e.1 ∈ ids ∧ e.1 ∉ acc.map Prod.fst := by
  obtain ⟨id, o⟩ := e
  simp only [noteNew, List.mem_append, List.mem_map (f := (·, outcome)), mem_sortedUnique,
    List.mem_filter, Prod.mk.injEq, Bool.not_eq_true', List.contains_eq_mem, decide_eq_false_iff_not]
  constructor
  · rintro (h | ⟨x, hx, rfl, rfl⟩)
    · exact .inl h
    · exact .inr ⟨rfl, hx⟩
  · rintro (h | ⟨rfl, hx⟩)
    · exact .inl h
    · exact .inr ⟨id, hx, rfl, rfl⟩

lemma nodup_noteNew (h : (acc.map Prod.fst).Nodup) :
    ((noteNew acc outcome ids).map Prod.fst).Nodup := by
  rw [noteNew, List.map_append, List.map_map]
  refine h.append ((List.map_id _).symm ▸ nodup_sortedUnique _) ?_
  intro id hid hnew
  obtain ⟨x, hx, rfl⟩ := List.mem_map.mp hnew
  have hfresh := (List.mem_filter.mp (mem_sortedUnique.mp hx)).2
  rw [Bool.not_eq_true', List.contains_eq_mem, decide_eq_false_iff_not] at hfresh
  exact hfresh hid

lemma mem_noteApplied {e : String × SuppressionOutcome} : e ∈ noteApplied acc ids ↔
    e ∈ acc ∧ e.1 ∉ ids ∨ e.2 = .APPLIED ∧ e.1 ∈ ids := by
  obtain ⟨id, o⟩ := e
  simp only [noteApplied, List.mem_append, List.mem_filter, List.mem_map (f := (·, _)),
    mem_sortedUnique, Prod.mk.injEq, Bool.not_eq_true', List.contains_eq_mem,
    decide_eq_false_iff_not]
  refine or_congr_right ?_
  constructor
  · rintro ⟨x, hx, rfl, rfl⟩
    exact ⟨rfl, hx⟩
  · rintro ⟨rfl, hx⟩
    exact ⟨id, hx, rfl, rfl⟩

lemma nodup_noteApplied (h : (acc.map Prod.fst).Nodup) :
    ((noteApplied acc ids).map Prod.fst).Nodup := by
  rw [noteApplied, List.map_append, List.map_map]
  refine ((List.filter_sublist.map _).nodup h).append
    ((List.map_id _).symm ▸ nodup_sortedUnique _) ?_
  intro id hid hnew
  obtain ⟨x, hx, rfl⟩ := List.mem_map.mp hnew
  obtain ⟨e, he, rfl⟩ := List.mem_map.mp hid
  have hkept := (List.mem_filter.mp he).2
  rw [Bool.not_eq_true', List.contains_eq_mem, decide_eq_false_iff_not] at hkept
  exact hkept (mem_sortedUnique.mp hx)

lemma mem_keys_noteNew {id : String} : id ∈ (noteNew acc outcome ids).map Prod.fst ↔
    id ∈ acc.map Prod.fst ∨ id ∈ ids := by
  simp only [List.mem_map, Prod.exists, exists_and_right, exists_eq_right, mem_noteNew]
  constructor
  · rintro ⟨o, h | ⟨-, hid, -⟩⟩
    · exact .inl ⟨o, h⟩
    · exact .inr hid
  · intro h
    by_cases hold : ∃ o, (id, o) ∈ acc
    · obtain ⟨o, ho⟩ := hold
      exact ⟨o, .inl ho⟩
    · exact ⟨outcome, .inr ⟨rfl, h.resolve_left hold, hold⟩⟩

lemma mem_keys_noteApplied {id : String} : id ∈ (noteApplied acc ids).map Prod.fst ↔
    id ∈ acc.map Prod.fst ∨ id ∈ ids := by
  simp only [List.mem_map, Prod.exists, exists_and_right, exists_eq_right, mem_noteApplied]
  constructor
  · rintro ⟨o, ⟨h, -⟩ | ⟨-, hid⟩⟩
    · exact .inl ⟨o, h⟩
    · exact .inr hid
  · intro h
    by_cases hid : id ∈ ids
    · exact ⟨.APPLIED, .inr ⟨rfl, hid⟩⟩
    · obtain ⟨o, ho⟩ := h.resolve_right hid
      exact ⟨o, .inl ⟨ho, hid⟩⟩

end Note

/-! ### The merge -/

/-- What came of a negative: an application counts before a block, and a block before context.
Caps are not among it, the merge does not read them. -/
def Fate (rs : List RuleResult) (id : String) : SuppressionOutcome → Prop
  | .APPLIED => Cancels rs id
  | .BLOCKED_BY_OVERRIDE => ¬Cancels rs id ∧ BlockedOn rs id
  | .RECORDED_CONTEXT_ONLY => ¬Cancels rs id ∧ ¬BlockedOn rs id ∧ ContextOn rs id

/-- The invariant of the merge. -/
structure Noted (rs : List RuleResult) (seen : List (String × SuppressionOutcome)) : Prop where
  once : (seen.map Prod.fst).Nodup
  mem_iff : ∀ e, e ∈ seen ↔ Fate rs e.1 e.2

/-- No negative is blocked on one result and context on another. -/
def Separated (rs : List RuleResult) : Prop := ∀ id, BlockedOn rs id → ¬ContextOn rs id

section Merge

variable {field : Suppression → List String} {rs : List RuleResult} {r : RuleResult} {id : String}
variable {seen : List (String × SuppressionOutcome)}

lemma listedIn_append : ListedIn field (rs ++ [r]) id ↔
    ListedIn field rs id ∨ ∃ s, r.suppression = some s ∧ id ∈ field s := by
  simp only [ListedIn, List.mem_append, List.mem_singleton, or_and_right, exists_or,
    exists_eq_left]

lemma listedIn_append_some {s : Suppression} (h : r.suppression = some s) :
    ListedIn field (rs ++ [r]) id ↔ ListedIn field rs id ∨ id ∈ field s := by
  simp only [listedIn_append, h, Option.some.injEq, exists_eq_left']

lemma listedIn_append_none (h : r.suppression = none) :
    ListedIn field (rs ++ [r]) id ↔ ListedIn field rs id := by
  simp only [listedIn_append, h, reduceCtorEq, false_and, exists_false, or_false]

lemma Noted.mem_keys (h : Noted rs seen) :
    id ∈ seen.map Prod.fst ↔ Cancels rs id ∨ BlockedOn rs id ∨ ContextOn rs id := by
  constructor
  · rintro hid
    obtain ⟨⟨id, o⟩, he, rfl⟩ := List.mem_map.mp hid
    have hfate := (h.mem_iff _).mp he
    cases o with
    | APPLIED => exact .inl hfate
    | BLOCKED_BY_OVERRIDE => exact .inr (.inl hfate.2)
    | RECORDED_CONTEXT_ONLY => exact .inr (.inr hfate.2.2)
  · intro hid
    have hmem : ∀ o, Fate rs id o → id ∈ seen.map Prod.fst := fun o ho =>
      List.mem_map_of_mem ((h.mem_iff (id, o)).mpr ho)
    by_cases hcancels : Cancels rs id
    · exact hmem .APPLIED hcancels
    by_cases hblocked : BlockedOn rs id
    · exact hmem .BLOCKED_BY_OVERRIDE ⟨hcancels, hblocked⟩
    · exact hmem .RECORDED_CONTEXT_ONLY
        ⟨hcancels, hblocked, (hid.resolve_left hcancels).resolve_left hblocked⟩

/-- One more result keeps the invariant. -/
lemma Noted.step (h : Noted rs seen) (hsep : Separated (rs ++ [r])) :
    Noted (rs ++ [r]) (noteSuppression seen r) := by
  cases hs : r.suppression with
  | none =>
    have hsame : ∀ field id, ListedIn field (rs ++ [r]) id ↔ ListedIn field rs id :=
      fun _ _ => listedIn_append_none hs
    rw [noteSuppression, hs]
    refine ⟨h.once, fun e => (h.mem_iff e).trans ?_⟩
    rcases e with ⟨id, _ | _ | _⟩ <;> simp only [Fate, Cancels, BlockedOn, ContextOn, hsame]
  | some s =>
    rw [noteSuppression_eq hs]
    refine ⟨nodup_noteNew (nodup_noteNew (nodup_noteApplied h.once)), fun e => ?_⟩
    have hkeys : e.1 ∈ seen.map Prod.fst ↔ _ := h.mem_keys
    have hseen := h.mem_iff e
    have hsepId := hsep e.1
    rw [mem_noteNew, mem_noteNew, mem_keys_noteNew, mem_noteApplied, mem_keys_noteApplied, hkeys,
      hseen]
    obtain ⟨id, o⟩ := e
    simp only [Cancels, BlockedOn, ContextOn, listedIn_append_some hs] at hsepId ⊢
    cases o <;> simp only [Fate, Cancels, BlockedOn, ContextOn, listedIn_append_some hs,
      reduceCtorEq, true_and, false_and, or_false] <;> tauto

lemma separated_of_append (h : Separated (rs ++ [r])) : Separated rs := by
  intro id hblocked hcontext
  exact h id (listedIn_append.mpr (.inl hblocked)) (listedIn_append.mpr (.inl hcontext))

lemma noted_foldl (h : Separated rs) : Noted rs (rs.foldl noteSuppression []) := by
  induction rs using List.reverseRecOn with
  | nil =>
    refine ⟨List.nodup_nil, fun ⟨id, o⟩ => ?_⟩
    cases o <;> simp [Fate, Cancels, BlockedOn, ContextOn, ListedIn]
  | append_singleton rs r ih =>
    rw [List.foldl_append]
    exact (ih (separated_of_append h)).step h

end Merge

/-! ### Governed effects -/

section Effects

variable {rk : RuntimeKnowledge} {ruleId : String} {blocked : List String}

/-- The governed effect of a negative. -/
def effectOf (rk : RuntimeKnowledge) (id : String) : Option String :=
  (rk.negativeIndicator id).bind (·.suppressionEffect)

/-- The effect an outcome executes. -/
def effectOfOutcome : SuppressionExecutor.Outcome → String
  | .alreadyResolved => "SUPPRESS_INDICATOR"
  | .suppressor _ => "SUPPRESS_RULE"
  | .cap _ _ => "CAP_SEVERITY"
  | .contextOnly => "CONTEXT_ONLY"

/-- Each list of a suppression holds negatives of the effect it is for. -/
structure ByEffect (rk : RuntimeKnowledge) (s : Suppression) : Prop where
  applied : ∀ id ∈ s.appliedSuppressors, effectOf rk id = some "SUPPRESS_RULE"
  caps : ∀ id ∈ s.appliedSeverityCaps, effectOf rk id = some "CAP_SEVERITY"
  blocked : ∀ id ∈ s.blockedSuppressors ++ s.blockedSeverityCaps,
    effectOf rk id ≠ some "CONTEXT_ONLY"
  context : ∀ id ∈ s.contextOnlyPresent, effectOf rk id = some "CONTEXT_ONLY"

lemma effectOf_of_outcome {id : String} {o : SuppressionExecutor.Outcome}
    (h : SuppressionExecutor.outcomeOf rk ruleId blocked id = .ok o) :
    effectOf rk id = some (effectOfOutcome o) := by
  obtain ⟨neg, blockable, hgov⟩ := SuppressionExecutor.outcomeOf_ok h
  unfold SuppressionExecutor.outcomeOf at h
  simp only [hgov.found, hgov.flag] at h
  rw [effectOf, hgov.found, Option.bind_some]
  split_ifs at h with hknown _ hindicator hrule hcap
  · cases h
    exact hindicator
  · cases h
    exact hrule
  · cases hceiling : SuppressionExecutor.severityCap? neg.severityCap with
    | none =>
      simp only [hceiling] at h
      cases h
    | some ceiling =>
      simp only [hceiling] at h
      cases h
      exact hcap
  · cases h
    have hcontext : neg.suppressionEffect = some "CONTEXT_ONLY" := by
      simpa [hindicator, hrule, hcap] using hknown
    exact hcontext

lemma byEffect_of_resolve {ids : List String} {res : SuppressionExecutor.Resolution}
    (h : SuppressionExecutor.resolve rk ruleId blocked ids = .ok res) :
    ByEffect rk (SuppressionExecutor.suppressionOf res) := by
  induction ids generalizing res with
  | nil =>
    cases h
    constructor <;> simp [SuppressionExecutor.suppressionOf]
  | cons id rest ih =>
    obtain ⟨o, ho, h⟩ := bind_ok h
    obtain ⟨res', hres', h⟩ := bind_ok h
    cases h
    have heffect := effectOf_of_outcome ho
    obtain ⟨happlied, hcaps, hblocked, hcontext⟩ := ih hres'
    simp only [SuppressionExecutor.suppressionOf, mem_sortedUnique, List.mem_append]
      at happlied hcaps hblocked hcontext
    constructor <;> simp only [SuppressionExecutor.suppressionOf, mem_sortedUnique, List.mem_append]
    all_goals
      rcases o with _ | (_ | _) | ⟨c, (_ | _)⟩ | _ <;>
        simp only [SuppressionExecutor.Resolution.add, effectOfOutcome] at heffect ⊢ <;> grind

/-- The evaluator lists candidates by their effect and applies none. -/
lemma byEffect_of_candidates {negatives : List String} {overrides : List Override} {s : Suppression}
    (h : Evaluator.suppressionCandidates rk negatives overrides = some s) : ByEffect rk s := by
  simp only [Evaluator.suppressionCandidates] at h
  split_ifs at h
  cases h
  constructor
  · simp
  · simp
  · intro id hid
    simp only [List.append_nil, List.mem_filter, Bool.and_eq_true, Bool.or_eq_true,
      beq_iff_eq] at hid
    obtain ⟨-, ⟨-, hrule | hcap⟩, -⟩ := hid
    · rw [effectOf, hrule]
      decide
    · rw [effectOf, hcap]
      decide
  · intro id hid
    simpa [effectOf] using (List.mem_filter.mp hid).2

lemma byEffect_of_evaluateRules {gate : Level} {ctx : Context} {rs : List RuleResult}
    (h : Evaluator.evaluateRules rk gate ctx = .ok rs) {r : RuleResult} (hr : r ∈ rs)
    {s : Suppression} (hs : r.suppression = some s) : ByEffect rk s := by
  obtain ⟨rule, -, -, hrun⟩ := (Evaluator.mem_evaluateRules h r).mp hr
  rcases Evaluator.runIsolated_ok hrun with hok | ⟨fault, -, rfl⟩
  · rcases Evaluator.runRule_ok hok with ⟨-, rfl⟩ | ⟨-, -, heval⟩ | ⟨-, -, heval⟩
    · cases hs
    · obtain ⟨_, required, _, -, rfl⟩ := Evaluator.evaluateSuppression_ok heval
      rw [Evaluator.suppressionResult_same.suppression] at hs
      cases hs
    · obtain ⟨_, _, _, _, _, _, -, rfl⟩ := Evaluator.evaluateComposite_ok heval
      rw [Evaluator.compositeResult_same.suppression] at hs
      exact byEffect_of_candidates hs
  · cases hs

/-- The suppression with its lists sorted. -/
def sortedLists (s : Suppression) : Suppression :=
  { s with
    appliedSuppressors := sortedUnique s.appliedSuppressors
    severityCapsApplied := sortedUnique s.severityCapsApplied
    appliedSeverityCaps := sortedUnique s.appliedSeverityCaps
    blockedSuppressors := sortedUnique s.blockedSuppressors
    blockedSeverityCaps := sortedUnique s.blockedSeverityCaps
    contextOnlyPresent := sortedUnique s.contextOnlyPresent }

lemma suppression_canonical (r : RuleResult) :
    r.canonical.suppression = r.suppression.map sortedLists := rfl

lemma ByEffect.sorted {s : Suppression} (h : ByEffect rk s) : ByEffect rk (sortedLists s) := by
  constructor
  · simpa only [sortedLists, mem_sortedUnique] using h.applied
  · simpa only [sortedLists, mem_sortedUnique] using h.caps
  · simpa only [sortedLists, mem_sortedUnique, List.mem_append] using h.blocked
  · simpa only [sortedLists, mem_sortedUnique] using h.context

/-- The second stage lists negatives by their effect too. -/
lemma byEffect_of_apply {r : RuleResult} (hr : ∀ s, r.suppression = some s → ByEffect rk s)
    {s : Suppression} (hs : (SuppressionExecutor.apply rk r).suppression = some s) :
    ByEffect rk s := by
  unfold SuppressionExecutor.apply at hs
  cases hcore : SuppressionExecutor.applyCore rk r with
  | error e =>
    rw [hcore] at hs
    cases hs
  | ok r' =>
    rw [hcore] at hs
    by_cases hpass : r.kind ≠ .COMPOSITE ∨ r.evaluationState ≠ .MATCHED
    · obtain rfl := Except.ok.inj
        ((SuppressionExecutor.applyCore_passthrough hpass).symm.trans hcore)
      obtain ⟨s', hs', rfl⟩ := Option.map_eq_some_iff.mp (suppression_canonical r ▸ hs)
      exact (hr s' hs').sorted
    · push Not at hpass
      obtain ⟨base, blocked, res, run, rfl⟩ :=
        SuppressionExecutor.applyCore_matched hpass.1 hpass.2 hcore
      obtain rfl := Option.some.inj hs
      exact byEffect_of_resolve run.res_eq

/-- All results of the two stages list negatives by their effect. -/
def AllByEffect (rk : RuntimeKnowledge) (rs : List RuleResult) : Prop :=
  ∀ r ∈ rs, ∀ s, r.suppression = some s → ByEffect rk s

lemma allByEffect_of_evaluate {profile : EvaluationProfile} {inds obs : List Json}
    {language script : String} {finals : List RuleResult}
    (h : SuppressionExecutor.evaluateWithSuppression rk profile inds obs language script =
      .ok finals) : AllByEffect rk finals := by
  unfold SuppressionExecutor.evaluateWithSuppression at h
  cases heval : Evaluator.evaluateRulesFromGoverned rk profile inds obs language script with
  | error e =>
    rw [heval] at h
    cases h
  | ok wp3 =>
    rw [heval] at h
    obtain rfl := Except.ok.inj h
    obtain ⟨ctx, -, hrules⟩ := Evaluator.evaluateRulesFromGoverned_ok heval
    intro final hfinal s hs
    obtain ⟨r, hr, rfl⟩ := List.mem_map.mp hfinal
    exact byEffect_of_apply (fun _ => byEffect_of_evaluateRules hrules hr) hs

lemma AllByEffect.separated {rs : List RuleResult} (h : AllByEffect rk rs) : Separated rs := by
  rintro id ⟨r, hr, s, hs, hid⟩ ⟨r', hr', s', hs', hid'⟩
  exact (h r hr s hs).blocked id hid ((h r' hr' s' hs').context id hid')

end Effects

/-! ### The list of a decision -/

section Decision

variable {rk : RuntimeKnowledge} {rs rs' : List RuleResult} {field : Suppression → List String}

lemma listedIn_perm (h : rs.Perm rs') {id : String} : ListedIn field rs id ↔ ListedIn field rs' id := by
  simp only [ListedIn, h.mem_iff]

/-- The checks of the aggregation sort the lists, and no more. -/
lemma listedIn_copies {copies : List RuleResult}
    (h : List.Forall₂ (Aggregation.Checked rk) rs copies)
    (hfield : ∀ s id, id ∈ field (sortedLists s) ↔ id ∈ field s) {id : String} :
    ListedIn field copies id ↔ ListedIn field rs id := by
  have hsame : ∀ {r copy : RuleResult}, Aggregation.Checked rk r copy →
      copy.suppression = r.suppression.map sortedLists := by
    intro r copy hc
    rw [hc.copy_eq]
    exact suppression_canonical r
  constructor
  · rintro ⟨copy, hcopy, s, hs, hid⟩
    obtain ⟨r, hr, hc⟩ := exists_left_of_forall₂ h hcopy
    obtain ⟨s', hs', rfl⟩ := Option.map_eq_some_iff.mp ((hsame hc).symm.trans hs)
    exact ⟨r, hr, s', hs', (hfield s' id).mp hid⟩
  · rintro ⟨r, hr, s, hs, hid⟩
    obtain ⟨copy, hcopy, hc⟩ := exists_right_of_forall₂ h hr
    refine ⟨copy, hcopy, sortedLists s, ?_, (hfield s id).mpr hid⟩
    rw [hsame hc, hs, Option.map_some]

/-- The same negatives have the same part in both lists of results. -/
structure SameFates (rs rs' : List RuleResult) : Prop where
  cancels : ∀ id, Cancels rs id ↔ Cancels rs' id
  blocked : ∀ id, BlockedOn rs id ↔ BlockedOn rs' id
  context : ∀ id, ContextOn rs id ↔ ContextOn rs' id

lemma SameFates.of_perm (h : rs.Perm rs') : SameFates rs rs' :=
  ⟨fun _ => listedIn_perm h, fun _ => listedIn_perm h, fun _ => listedIn_perm h⟩

lemma SameFates.of_checked {copies : List RuleResult}
    (h : List.Forall₂ (Aggregation.Checked rk) rs copies) : SameFates copies rs := by
  constructor
  · exact fun id => listedIn_copies h fun s id => mem_sortedUnique
  · refine fun id => listedIn_copies h fun s id => ?_
    simp only [sortedLists, List.mem_append, mem_sortedUnique]
  · exact fun id => listedIn_copies h fun s id => mem_sortedUnique

lemma SameFates.trans {rs'' : List RuleResult} (h : SameFates rs rs') (h' : SameFates rs' rs'') :
    SameFates rs rs'' :=
  ⟨fun id => (h.cancels id).trans (h'.cancels id), fun id => (h.blocked id).trans (h'.blocked id),
    fun id => (h.context id).trans (h'.context id)⟩

lemma Noted.of_same {seen : List (String × SuppressionOutcome)} (h : Noted rs seen)
    (hsame : SameFates rs rs') : Noted rs' seen := by
  refine ⟨h.once, fun ⟨id, o⟩ => (h.mem_iff _).trans ?_⟩
  cases o <;> simp only [Fate, hsame.cancels, hsame.blocked, hsame.context]

/-- What is noted depends on the fates alone, up to its order. -/
lemma Noted.perm {seen seen' : List (String × SuppressionOutcome)} (h : Noted rs seen)
    (h' : Noted rs seen') : seen.Perm seen' := by
  refine (List.perm_ext_iff_of_nodup (.of_map _ h.once) (.of_map _ h'.once)).mpr fun e => ?_
  rw [h.mem_iff, h'.mem_iff]

/-- The order the entries are listed in tells entries apart. -/
lemma listed_perm {seen seen' : List (String × SuppressionOutcome)} (h : seen.Perm seen') :
    seen.insertionSort (fun a b => toLex (a.2.rank, a.1) ≤ toLex (b.2.rank, b.1)) =
      seen'.insertionSort fun a b => toLex (a.2.rank, a.1) ≤ toLex (b.2.rank, b.1) := by
  let Before (a b : String × SuppressionOutcome) : Prop :=
    toLex (a.2.rank, a.1) ≤ toLex (b.2.rank, b.1)
  have hperm := ((List.perm_insertionSort Before seen).trans h).trans
    (List.perm_insertionSort Before seen').symm
  refine hperm.eq_of_pairwise ?_ (List.pairwise_insertionSort Before _)
    (List.pairwise_insertionSort Before _)
  rintro ⟨a, o⟩ ⟨b, o'⟩ - - hab hba
  obtain ⟨hrank, rfl⟩ := Prod.mk.inj (toLex_inj.mp (le_antisymm hab hba))
  cases o <;> cases o' <;> first | rfl | cases hrank

variable {profile : EvaluationProfile} {finals : List RuleResult} {status : String}
variable {wholeErrors : List Json} {d : Aggregation.DecisionResult}

/-- The merge of a decision keeps its invariant with respect to the results it was given. -/
lemma noted_of_aggregate (render : ErrorMessage → String) (heffect : AllByEffect rk finals)
    (h : Aggregation.aggregateDecision rk profile finals status wholeErrors = .ok d) :
    Noted finals ((byRuleId (d.supply render).results).foldl noteSuppression []) := by
  obtain ⟨support, copies, -, -, hcopies, -, hagg⟩ := Aggregation.aggregateDecision_inputs h
  obtain ⟨axes, cs, decided, -, hdecided, -, hd⟩ :=
    (Aggregation.aggregateChecked_assembled hagg).exists_parts
  have hperm : (byRuleId (d.supply render).results).Perm copies := by
    rw [← hdecided]
    exact (List.perm_insertionSort _ _).trans (results_perm render hd)
  have hsame : SameFates (byRuleId (d.supply render).results) finals :=
    (SameFates.of_perm hperm).trans (.of_checked (Aggregation.materialise_ok hcopies))
  refine (noted_foldl fun id => ?_).of_same hsame
  rw [hsame.blocked, hsame.context]
  exact heffect.separated id

/-- The list of a decision is truthful of the results it was made from, in whatever order they
came. -/
structure Reported (rk : RuntimeKnowledge) (profile : EvaluationProfile)
    (render : ErrorMessage → String) (finals : List RuleResult) (status : String)
    (wholeErrors : List Json) (d : Aggregation.DecisionResult) : Prop where
  truthful : Truthful finals (suppressionConsidered (d.supply render))
  orderFree : ∀ finals' d', finals'.Perm finals →
    Aggregation.aggregateDecision rk profile finals' status wholeErrors = .ok d' →
      suppressionConsidered (d'.supply render) = suppressionConsidered (d.supply render)

lemma orderFree_of_effects (render : ErrorMessage → String) (heffect : AllByEffect rk finals)
    (h : Aggregation.aggregateDecision rk profile finals status wholeErrors = .ok d)
    {finals' : List RuleResult} {d' : Aggregation.DecisionResult} (hperm : finals'.Perm finals)
    (h' : Aggregation.aggregateDecision rk profile finals' status wholeErrors = .ok d') :
    suppressionConsidered (d'.supply render) = suppressionConsidered (d.supply render) := by
  have heffect' : AllByEffect rk finals' := fun r hr => heffect r (hperm.mem_iff.mp hr)
  have hnoted := (noted_of_aggregate render heffect' h').of_same (.of_perm hperm)
  exact listed_perm (hnoted.perm (noted_of_aggregate render heffect h))

/-- A cap is never reported as applied, and without one the merge is the report. -/
lemma Noted.truthful_iff {seen listed : List (String × SuppressionOutcome)}
    (h : Noted finals seen) (heffect : AllByEffect rk finals) (hlisted : listed.Perm seen) :
    Truthful finals listed ↔
      ∀ r ∈ finals, ∀ s, r.suppression = some s → s.appliedSeverityCaps = [] := by
  have hkeys : ∀ id, id ∈ listed.map Prod.fst ↔ id ∈ seen.map Prod.fst :=
    fun id => (hlisted.map _).mem_iff
  constructor
  · intro ht r hr s hs
    refine List.eq_nil_iff_forall_not_mem.mpr fun id hid => ?_
    have hcaps : Caps finals id := ⟨r, hr, s, hs, hid⟩
    obtain ⟨⟨id, o⟩, he, rfl⟩ := List.mem_map.mp ((ht.complete id).mpr (.inr (.inl hcaps)))
    obtain rfl := (ht.applied _ he).mpr (.inr hcaps)
    -- the merge says APPLIED of suppressors only
    obtain ⟨r', hr', s', hs', hid'⟩ := (h.mem_iff _).mp (hlisted.mem_iff.mp he)
    have hrule := (heffect r' hr' s' hs').applied id hid'
    rw [(heffect r hr s hs).caps id hid] at hrule
    exact absurd hrule (by decide)
  · intro hnone
    have hcaps : ∀ id, ¬Caps finals id := by
      rintro id ⟨r, hr, s, hs, hid⟩
      rw [hnone r hr s hs] at hid
      cases hid
    have hfate : ∀ e ∈ listed, Fate finals e.1 e.2 := fun e he =>
      (h.mem_iff e).mp (hlisted.mem_iff.mp he)
    constructor
    · exact (hlisted.map _).nodup_iff.mpr h.once
    · intro id
      rw [hkeys, h.mem_keys]
      simp only [hcaps, false_or]
    all_goals
      rintro ⟨id, o⟩ he
      have hid := hfate _ he
      simp only [hcaps, or_false]
      cases o <;> simp only [Fate, reduceCtorEq, true_iff, false_iff] at hid ⊢ <;> tauto

/-- The explanation reports suppression truthfully exactly when no severity was capped. -/
theorem suppression_reported_iff (rk : RuntimeKnowledge) (profile : EvaluationProfile)
    (render : ErrorMessage → String) {inds obs : List Json} {language script : String}
    (hfinals : SuppressionExecutor.evaluateWithSuppression rk profile inds obs language script =
      .ok finals)
    (h : Aggregation.aggregateDecision rk profile finals status wholeErrors = .ok d) :
    Reported rk profile render finals status wholeErrors d ↔
      ∀ r ∈ finals, ∀ s, r.suppression = some s → s.appliedSeverityCaps = [] := by
  have heffect := allByEffect_of_evaluate hfinals
  have htruthful := (noted_of_aggregate render heffect h).truthful_iff heffect
    (List.perm_insertionSort (fun a b => toLex (a.2.rank, a.1) ≤ toLex (b.2.rank, b.1)) _)
  exact ⟨fun hreported => htruthful.mp hreported.truthful,
    fun hnone => ⟨htruthful.mpr hnone, fun _ _ => orderFree_of_effects render heffect h⟩⟩

end Decision

/-! ### A severity cap -/

section Sample

/-- The credential request of the small bundle, with a safety warning of the given effect. -/
def warningKnowledge (effect : String) (cap : Option String) : RuntimeKnowledge :=
  { Evaluator.sampleKnowledge with
    negatives := [⟨"BANK_WARNING", ["*"], some effect, some "BENIGN", [], .bool false, cap⟩]
    negatives_nodup := by simp
    polarity_disjoint := by simp [Evaluator.sampleKnowledge] }

def warningFinals (rk : RuntimeKnowledge) : Except Evaluator.Failure (List RuleResult) :=
  SuppressionExecutor.evaluateWithSuppression rk {} Evaluator.retiredInds
    [Evaluator.sampleObservation "o-1" "DIRECTIVE"] "en" "Latn"

/-- Whether the decision on the bundle is made and has the property. -/
def warningDecides (rk : RuntimeKnowledge)
    (p : List RuleResult → Aggregation.DecisionResult → Bool) : Bool :=
  (warningFinals rk).toOption.any fun finals =>
    (Aggregation.aggregateDecision rk {} finals "SUPPORTED" []).toOption.any (p finals)

lemma exists_of_warningDecides (rk : RuntimeKnowledge)
    (p : List RuleResult → Aggregation.DecisionResult → Bool) (h : warningDecides rk p = true) :
    ∃ finals d, warningFinals rk = .ok finals ∧
      Aggregation.aggregateDecision rk {} finals "SUPPORTED" [] = .ok d ∧ p finals d = true := by
  obtain ⟨finals, hfinals, h⟩ := (Option.any_eq_true _ _).mp h
  obtain ⟨d, hd, h⟩ := (Option.any_eq_true _ _).mp h
  exact ⟨finals, d, eq_ok_of_toOption hfinals, eq_ok_of_toOption hd, h⟩

/-- A warning that took HIGH down to LOW is not in the list. -/
theorem capped_not_reported :
    ¬∀ (rk : RuntimeKnowledge) (profile : EvaluationProfile) (render : ErrorMessage → String)
      (inds obs : List Json) (language script status : String) (wholeErrors : List Json)
      (finals : List RuleResult) (d : Aggregation.DecisionResult),
      SuppressionExecutor.evaluateWithSuppression rk profile inds obs language script =
        .ok finals →
      Aggregation.aggregateDecision rk profile finals status wholeErrors = .ok d →
      Reported rk profile render finals status wholeErrors d := by
  intro h
  obtain ⟨finals, d, hfinals, hagg, hp⟩ :=
    exists_of_warningDecides (warningKnowledge "CAP_SEVERITY" (some "LOW"))
      (fun finals d =>
        finals.any (fun r => r.suppression.any (·.appliedSeverityCaps.contains "BANK_WARNING")) &&
          (suppressionConsidered (d.supply fun _ => "")).isEmpty) (by decide +kernel)
  obtain ⟨hcap, hempty⟩ := Bool.and_eq_true_iff.mp hp
  obtain ⟨r, hr, hcap⟩ := List.any_eq_true.mp hcap
  obtain ⟨s, hs, hcap⟩ := (Option.any_eq_true _ _).mp hcap
  have hreported := h _ {} (fun _ => "") _ _ _ _ _ _ finals d hfinals hagg
  have hlisted := (hreported.truthful.complete "BANK_WARNING").mpr
    (.inr (.inl ⟨r, hr, s, hs, List.contains_iff_mem.mp hcap⟩))
  rw [List.isEmpty_iff.mp hempty] at hlisted
  cases hlisted

/-- The equivalence on the bundle whose warning cancels the rule, which is reported. -/
theorem suppression_reported_sample :
    ∃ finals d, warningFinals (warningKnowledge "SUPPRESS_RULE" none) = .ok finals ∧
      Aggregation.aggregateDecision (warningKnowledge "SUPPRESS_RULE" none) {} finals "SUPPORTED"
        [] = .ok d ∧
      (Reported (warningKnowledge "SUPPRESS_RULE" none) {} (fun _ => "") finals "SUPPORTED" [] d ↔
        ∀ r ∈ finals, ∀ s, r.suppression = some s → s.appliedSeverityCaps = []) := by
  obtain ⟨finals, d, hfinals, hagg, -⟩ :=
    exists_of_warningDecides (warningKnowledge "SUPPRESS_RULE" none)
      (fun _ _ => true) (by decide +kernel)
  exact ⟨finals, d, hfinals, hagg, suppression_reported_iff _ {} _ hfinals hagg⟩

end Sample

end TrustLens.Runtime.Explanation
