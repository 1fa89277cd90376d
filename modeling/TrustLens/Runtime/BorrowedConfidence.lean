import TrustLens.Runtime.LiveConfidence

/-!
# Confidence borrowed from a read that is not live

Where the data hides a weak live read, some knowledge lets the decision reach HIGH on it: one
rule that asks for the two indicators, a hard-risk override on the first, and the negatives
that suppress the confident reads. So the data decides whether HIGH can be trusted.
-/

namespace TrustLens.Runtime.LiveConfidence

open Evaluator
open Aggregation hiding Fires
open Condition (evalCondition operands)

/-- The rule that asks for two indicators, whatever the language. -/
def pairRule (i j : String) : Rule :=
  { sampleRule with
    languageScope := none
    logic := some (.obj [("require", .obj [("all_of", .arr [.str i, .str j])]),
      ("min_evidence_classes", .int 2)]) }

/-- The override that is active whenever the first indicator is. -/
def pairOverride (i : String) : Override where
  id := "HR_PAIR"
  condition := .str i
  appliesToRules := ["TL-OTP-001"]
  appliesToFamilies := []
  blocksSuppressionCategories := some []

/-- A negative that suppresses the indicators it is listed for. -/
def pairNegative (i j : String) (negativesOfI negativesOfJ : List String) (n : String) :
    NegativeIndicator where
  id := n
  applicableRuleFamilies := ["*"]
  suppressionEffect := some "SUPPRESS_INDICATOR"
  category := some "SAFETY_ADVICE"
  suppressesIndicators := (if n ∈ negativesOfI then [i] else []) ++
    if n ∈ negativesOfJ then [j] else []
  blockableByOverrides := .bool false
  severityCap := none

def pairKnowledge (i j : String) (negativesOfI negativesOfJ : List String) (hne : i ≠ j)
    (hneg : ∀ n ∈ negativesOfI ++ negativesOfJ, n ≠ i ∧ n ≠ j) : RuntimeKnowledge where
  rules := [pairRule i j]
  indicators := [⟨i, some "CREDENTIAL_ACTION", some "STRONG"⟩,
    ⟨j, some "PRESSURE", some "MODERATE"⟩]
  negatives := (sortedUnique (negativesOfI ++ negativesOfJ)).map
    (pairNegative i j negativesOfI negativesOfJ)
  overrides := [pairOverride i]
  taxonomy := []
  actionPolicy := []
  bundleVersion := "1.0.0"
  contentDigest := ""
  commitSha := "unknown"
  componentVersions := []
  rules_nodup := List.nodup_singleton _
  indicators_nodup := by simpa using hne
  negatives_nodup := by
    rw [List.map_map]
    exact (List.map_id _).symm ▸ nodup_sortedUnique _
  overrides_nodup := List.nodup_singleton _
  polarity_disjoint := by
    intro ind hind neg hmem heq
    obtain ⟨n, hn, rfl⟩ := List.mem_map.mp hmem
    obtain ⟨hi, hj⟩ := hneg n (mem_sortedUnique.mp hn)
    rcases List.mem_pair.mp hind with rfl | rfl
    · exact hi heq.symm
    · exact hj heq.symm

/-- The result of the rule when both of its indicators are TRUE. -/
def pairResult (rk : RuntimeKnowledge) (gate : Level) (ctx : Context) (i j : String) : RuleResult :=
  compositeResult rk gate ctx (pairRule i j) 2 [pairOverride i] .TRUE [i, j] (some (.str "HIGH"))

lemma pairResult_same {rk : RuntimeKnowledge} {gate : Level} {ctx : Context} {i j : String} :
    (pairResult rk gate ctx i j).SameFindings (compositeBase rk gate ctx (pairRule i j) 2
      [pairOverride i] .TRUE [i, j] (some (.str "HIGH"))) :=
  compositeResult_same

/-- What the stages read of the knowledge. -/
structure Pairs (rk : RuntimeKnowledge) (i j : String) (negativesOfI negativesOfJ : List String) :
    Prop where
  rules : rk.rules = [pairRule i j]
  overrides : rk.overrides = [pairOverride i]
  first : rk.indicator i = some ⟨i, some "CREDENTIAL_ACTION", some "STRONG"⟩
  second : rk.indicator j = some ⟨j, some "PRESSURE", some "MODERATE"⟩
  indicators : rk.indicators = [⟨i, some "CREDENTIAL_ACTION", some "STRONG"⟩,
    ⟨j, some "PRESSURE", some "MODERATE"⟩]
  negative : ∀ n neg, rk.negativeIndicator n = some neg ↔
    n ∈ negativesOfI ++ negativesOfJ ∧ neg = pairNegative i j negativesOfI negativesOfJ n

section Pair

variable {gate : Level} {ctx : Context} {i j : String} {negativesOfI negativesOfJ : List String}

lemma pairs_pairKnowledge (hne : i ≠ j)
    (hneg : ∀ n ∈ negativesOfI ++ negativesOfJ, n ≠ i ∧ n ≠ j) :
    Pairs (pairKnowledge i j negativesOfI negativesOfJ hne hneg) i j negativesOfI negativesOfJ := by
  refine ⟨rfl, rfl, ?_, ?_, rfl, fun n neg => ?_⟩
  · simp [RuntimeKnowledge.indicator, pairKnowledge]
  · simp [RuntimeKnowledge.indicator, pairKnowledge, hne]
  · constructor
    · intro h
      have hid := RuntimeKnowledge.id_of_negative h
      obtain ⟨n', hn', rfl⟩ := List.mem_map.mp (RuntimeKnowledge.mem_of_negative h)
      obtain rfl : n' = n := hid
      exact ⟨mem_sortedUnique.mp hn', rfl⟩
    · rintro ⟨hn, rfl⟩
      have hmem : pairNegative i j negativesOfI negativesOfJ n ∈
          (pairKnowledge i j negativesOfI negativesOfJ hne hneg).negatives :=
        List.mem_map_of_mem (mem_sortedUnique.mpr hn)
      exact RuntimeKnowledge.negative_of_mem hmem

variable {rk : RuntimeKnowledge} (h : Pairs rk i j negativesOfI negativesOfJ)

include h

lemma Pairs.isPositive_iff {id : String} : rk.isPositive id = true ↔ id = i ∨ id = j := by
  simp [RuntimeKnowledge.isPositive, h.indicators]

/-- The suppressors of either indicator are those it is given. -/
lemma Pairs.mem_suppressors {rule : Rule} {overrides : List Override} {target : String}
    {negatives : List String}
    (htarget : ∀ n, n ∈ negatives ↔ n ∈ negativesOfI ++ negativesOfJ ∧
      target ∈ (pairNegative i j negativesOfI negativesOfJ n).suppressesIndicators)
    (s : IndicatorObservation) :
    s ∈ suppressorsFor rk gate ctx rule.categories overrides target ↔
      s ∈ negatives.flatMap (activeOccurrences gate ctx) := by
  rw [mem_suppressorsFor_iff, List.mem_flatMap]
  constructor
  · rintro ⟨n, neg, hfound, -, -, -, -, hsuppresses, hs⟩
    obtain ⟨hn, rfl⟩ := (h.negative n neg).mp hfound
    exact ⟨n, (htarget n).mpr ⟨hn, hsuppresses⟩, hs⟩
  · rintro ⟨n, hn, hs⟩
    obtain ⟨hmem, hsuppresses⟩ := (htarget n).mp hn
    have hfound := (h.negative n _).mpr ⟨hmem, rfl⟩
    refine ⟨n, _, hfound, negativeTruth_eq_TRUE.mpr ⟨RuntimeKnowledge.isNegative_iff.mpr
      ⟨_, hfound⟩, s, hs⟩, ?_, rfl, ?_, hsuppresses, hs⟩
    · simp [negativeApplies, hfound, pairNegative]
    · simp [suppressorBlocked, pairNegative, Json.truthy]

lemma Pairs.mem_suppressors_first (hne : i ≠ j) {rule : Rule} {overrides : List Override}
    (s : IndicatorObservation) :
    s ∈ suppressorsFor rk gate ctx rule.categories overrides i ↔
      s ∈ negativesOfI.flatMap (activeOccurrences gate ctx) := by
  refine h.mem_suppressors (fun n => ?_) s
  simp only [pairNegative, List.mem_append]
  split_ifs <;> simp [*]

lemma Pairs.mem_suppressors_second (hne : i ≠ j) {rule : Rule} {overrides : List Override}
    (s : IndicatorObservation) :
    s ∈ suppressorsFor rk gate ctx rule.categories overrides j ↔
      s ∈ negativesOfJ.flatMap (activeOccurrences gate ctx) := by
  refine h.mem_suppressors (fun n => ?_) s
  simp only [pairNegative, List.mem_append]
  split_ifs <;> simp [*, hne.symm]

lemma Pairs.override_eq : rk.override "HR_PAIR" = some (pairOverride i) := by
  rw [RuntimeKnowledge.override, h.overrides]
  rfl

lemma Pairs.activeOverrides_eq (hi : Confident gate ctx
    (negativesOfI.flatMap (activeOccurrences gate ctx)) i) :
    activeOverrides rk (pairRule i j) (truthOf (rawPositive rk gate ctx)) =
      .ok [pairOverride i] := by
  have htrue : truthOf (rawPositive rk gate ctx) i = .TRUE := by
    obtain ⟨io, hio, hpol, hgate, hlive, -⟩ := hi.live
    exact truthOf_rawPositive.mpr ⟨h.isPositive_iff.mpr (.inl rfl), io, hio, hpol, hgate, hlive,
      by simp [Untouched]⟩
  have hids : rk.overrideIds = ["HR_PAIR"] := by
    rw [RuntimeKnowledge.overrideIds, h.overrides]
    exact sortedUnique_eq_of_sorted (List.nodup_singleton _) (List.pairwise_singleton _ _)
  have hlist : (rk.overrideIds.filterMap rk.override).filter (overrideApplies · (pairRule i j)) =
      [pairOverride i] := by
    simp only [hids, List.filterMap_cons, h.override_eq, List.filterMap_nil]
    rfl
  have heval : evalCondition (truthOf (rawPositive rk gate ctx)) (pairOverride i).condition =
      .ok .TRUE := congrArg _ htrue
  rw [activeOverrides, hlist, activeAmong, heval]
  rfl

/-- The rule is evaluated to TRUE, with its override active. -/
lemma Pairs.run (hne : i ≠ j)
    (hi : Confident gate ctx (negativesOfI.flatMap (activeOccurrences gate ctx)) i)
    (hj : Confident gate ctx (negativesOfJ.flatMap (activeOccurrences gate ctx)) j) :
    CompositeRun rk gate ctx (pairRule i j)
      (.obj [("require", .obj [("all_of", .arr [.str i, .str j])]),
        ("min_evidence_classes", .int 2)])
      2 [pairOverride i] .TRUE [i, j] (some (.str "HIGH")) := by
  have hfirst : truthOf (suppressedPositive rk gate ctx (pairRule i j).categories
      [pairOverride i]) i = .TRUE := by
    obtain ⟨io, hio, hfires⟩ := hi.live
    exact truthOf_suppressedPositive.mpr ⟨h.isPositive_iff.mpr (.inl rfl), io, hio,
      (fires_congr (h.mem_suppressors_first hne) io).mpr hfires⟩
  have hsecond : truthOf (suppressedPositive rk gate ctx (pairRule i j).categories
      [pairOverride i]) j = .TRUE := by
    obtain ⟨io, hio, hfires⟩ := hj.live
    exact truthOf_suppressedPositive.mpr ⟨h.isPositive_iff.mpr (.inr rfl), io, hio,
      (fires_congr (h.mem_suppressors_second hne) io).mpr hfires⟩
  refine ⟨rfl, rfl, h.activeOverrides_eq hi, ?_, rfl, rfl⟩
  have heval := Condition.evalCondition_of_parse (truthOf (suppressedPositive rk gate ctx
    (pairRule i j).categories [pairOverride i])) (.obj [("all_of", .arr [.str i, .str j])])
    (.all [.atom i, .atom j]) rfl
  refine heval.trans ?_
  simp only [Formula.eval, Formula.evalList, hfirst, hsecond]
  rfl

lemma Pairs.matched (hne : i ≠ j)
    (hi : Confident gate ctx (negativesOfI.flatMap (activeOccurrences gate ctx)) i)
    (hj : Confident gate ctx (negativesOfJ.flatMap (activeOccurrences gate ctx)) j) (id : String) :
    id ∈ matchedPositive rk gate ctx (pairRule i j) [pairOverride i] [i, j] ↔ id = i ∨ id = j := by
  rw [mem_matchedPositive, List.mem_pair]
  constructor
  · exact fun hid => hid.1
  · rintro (rfl | rfl)
    · obtain ⟨io, hio, hfires⟩ := hi.live
      exact ⟨.inl rfl, h.isPositive_iff.mpr (.inl rfl), io, hio,
        (fires_congr (h.mem_suppressors_first hne) io).mpr hfires⟩
    · obtain ⟨io, hio, hfires⟩ := hj.live
      exact ⟨.inr rfl, h.isPositive_iff.mpr (.inr rfl), io, hio,
        (fires_congr (h.mem_suppressors_second hne) io).mpr hfires⟩

/-- The two indicators span two evidence classes, so the rule matches. -/
lemma Pairs.state_eq (hne : i ≠ j)
    (hi : Confident gate ctx (negativesOfI.flatMap (activeOccurrences gate ctx)) i)
    (hj : Confident gate ctx (negativesOfJ.flatMap (activeOccurrences gate ctx)) j) :
    (pairResult rk gate ctx i j).evaluationState = .MATCHED := by
  rw [pairResult_same.evaluationState]
  refine compositeState_eq_MATCHED.mpr ⟨rfl, decide_eq_true ?_⟩
  have hclasses : ["CREDENTIAL_ACTION", "PRESSURE"] ⊆
      (matchedPositive rk gate ctx (pairRule i j) [pairOverride i] [i, j]).filterMap
        fun id => nonEmpty? ((rk.indicator id).bind (·.evidenceClass)) := by
    have hfirst := (h.matched hne hi hj i).mpr (.inl rfl)
    have hsecond := (h.matched hne hi hj j).mpr (.inr rfl)
    intro c hc
    rcases List.mem_pair.mp hc with rfl | rfl
    · exact List.mem_filterMap.mpr ⟨i, hfirst, by rw [h.first]; rfl⟩
    · exact List.mem_filterMap.mpr ⟨j, hsecond, by rw [h.second]; rfl⟩
  have hlength := length_sortedUnique_le hclasses
  rw [sortedUnique_eq_of_sorted (by decide) (by decide)] at hlength
  exact_mod_cast hlength

omit h in
lemma resolve_of_alreadyResolved {ruleId : String} {blocked ids : List String}
    (hall : ∀ id ∈ ids, SuppressionExecutor.outcomeOf rk ruleId blocked id = .ok .alreadyResolved) :
    SuppressionExecutor.resolve rk ruleId blocked ids = .ok {} := by
  induction ids with
  | nil => rfl
  | cons id rest ih =>
    rw [List.forall_mem_cons] at hall
    simp only [SuppressionExecutor.resolve, hall.1, ih hall.2, bind, Except.bind, pure, Except.pure]
    rfl

/-- No matched negative acts on the rule as a whole. -/
lemma Pairs.negatives_matched {n : String}
    (hn : n ∈ matchedNegative rk gate ctx (pairRule i j).categories) :
    rk.negativeIndicator n = some (pairNegative i j negativesOfI negativesOfJ n) := by
  rw [matchedNegative, List.mem_filter, mem_activeNegatives, negativeTruth_eq_TRUE,
    RuntimeKnowledge.isNegative_iff] at hn
  obtain ⟨⟨⟨neg, hneg⟩, -⟩, -⟩ := hn
  rw [hneg, ((h.negative n neg).mp hneg).2]

lemma Pairs.suppressionCandidates_eq (overrides : List Override) :
    suppressionCandidates rk (matchedNegative rk gate ctx (pairRule i j).categories) overrides =
      none := by
  have heffect : ∀ n ∈ matchedNegative rk gate ctx (pairRule i j).categories,
      (rk.negativeIndicator n).bind (·.suppressionEffect) = some "SUPPRESS_INDICATOR" := by
    intro n hn
    rw [h.negatives_matched hn]
    rfl
  have hblocked : (matchedNegative rk gate ctx (pairRule i j).categories).filter (fun id =>
      !overrides.isEmpty &&
        ((rk.negativeIndicator id).bind (·.suppressionEffect) == some "SUPPRESS_RULE" ||
          (rk.negativeIndicator id).bind (·.suppressionEffect) == some "CAP_SEVERITY") &&
        isIn ((rk.negativeIndicator id).bind (·.category)) (blockedCategories overrides)) = [] := by
    refine List.filter_eq_nil_iff.mpr fun n hn => ?_
    simp [heffect n hn]
  have hcontext : (matchedNegative rk gate ctx (pairRule i j).categories).filter (fun id =>
      (rk.negativeIndicator id).bind (·.suppressionEffect) == some "CONTEXT_ONLY") = [] := by
    refine List.filter_eq_nil_iff.mpr fun n hn => ?_
    simp [heffect n hn]
  simp only [suppressionCandidates, hblocked, hcontext, and_self, if_true]

lemma Pairs.matchedRun :
    SuppressionExecutor.MatchedRun rk (pairResult rk gate ctx i j) .HIGH [] {} := by
  have hnone : (pairResult rk gate ctx i j).suppression = none :=
    pairResult_same.suppression.trans (h.suppressionCandidates_eq _)
  have hrequired : (pairResult rk gate ctx i j).requiredCombinationResult = .TRUE := pairResult_same.required
  have heffective : (pairResult rk gate ctx i j).effectiveSeverity = some (.str "HIGH") := pairResult_same.effective
  have hoverrides : (pairResult rk gate ctx i j).activeOverrides = ["HR_PAIR"] := pairResult_same.overrides
  have hnegatives : (pairResult rk gate ctx i j).matchedNegativeIndicators =
        matchedNegative rk gate ctx (pairRule i j).categories := pairResult_same.matchedNegative
  refine ⟨?_, ?_, ?_, ?_⟩
  · simp only [SuppressionExecutor.validateMatchedInput, RuleResult.canonical, hrequired, heffective,
      hnone]
    rfl
  · simp only [RuleResult.canonical, hoverrides]
    rw [sortedUnique_eq_of_sorted (List.nodup_singleton _) (List.pairwise_singleton _ _)]
    simp only [SuppressionExecutor.blockedCategories, SuppressionExecutor.blockedBy, h.override_eq]
    rfl
  · refine resolve_of_alreadyResolved fun n hn => ?_
    simp only [RuleResult.canonical, hnegatives, mem_sortedUnique] at hn
    simp only [SuppressionExecutor.outcomeOf, h.negatives_matched hn]
    rfl
  · simp only [SuppressionExecutor.crossCheckBlocked, RuleResult.canonical, hnone]
    rfl

/-- The evaluation is the run of the one rule. -/
lemma Pairs.evaluateRules_eq (hne : i ≠ j)
    (hi : Confident gate ctx (negativesOfI.flatMap (activeOccurrences gate ctx)) i)
    (hj : Confident gate ctx (negativesOfJ.flatMap (activeOccurrences gate ctx)) j) :
    evaluateRules rk gate ctx = .ok [pairResult rk gate ctx i j] := by
  have hids : rk.publishedRuleIds = ["TL-OTP-001"] := by
    rw [RuntimeKnowledge.publishedRuleIds, h.rules]
    exact sortedUnique_eq_of_sorted (List.nodup_singleton _) (List.pairwise_singleton _ _)
  have hmem : pairRule i j ∈ rk.rules := by rw [h.rules]; exact List.mem_singleton_self _
  have hrun : runIsolated rk gate ctx (pairRule i j) = .ok (pairResult rk gate ctx i j) := by
    have hscope : scopeCheck ctx (pairRule i j) = .ok true := rfl
    have hkind : kindOf (pairRule i j) = .COMPOSITE := rfl
    rw [runIsolated, runRule_inScope hscope, hkind]
    simp only [(h.run hne hi hj).evaluate]
    rfl
  rw [evaluateRules, hids, List.mapM_cons]
  have hvalidated : evaluateValidated rk gate ctx "TL-OTP-001" =
      runIsolated rk gate ctx (pairRule i j) := evaluateValidated_of_mem hmem rfl
  rw [hvalidated, hrun]
  rfl

lemma Pairs.attributes : ResultAttributes rk (pairRule i j) := by
  have hid : ruleIdPattern "TL-OTP-001" = true := by decide
  have hversion : versionPattern "1.0.0" = true := by decide
  have hoverride : overrideIdPattern "HR_PAIR" = true := by decide
  refine ⟨hid, hversion, rfl, rfl, ?_, ?_, nofun, nofun⟩
  · intro ind hind c hc
    rw [h.indicators] at hind
    rcases List.mem_pair.mp hind with rfl | rfl
    · obtain rfl := Option.some.inj hc
      decide
    · obtain rfl := Option.some.inj hc
      decide
  · intro o ho
    rw [h.overrides] at ho
    obtain rfl := List.mem_singleton.mp ho
    exact hoverride

lemma Pairs.strengths_eq {ruleId : String} {ids : List String} (hids : ∀ id ∈ ids, id = i ∨ id = j) :
    ∃ found, strengths rk ruleId ids = .ok found := by
  induction ids with
  | nil => exact ⟨_, rfl⟩
  | cons id rest ih =>
    rw [List.forall_mem_cons] at hids
    obtain ⟨found, hfound⟩ := ih hids.2
    rcases hids.1 with rfl | rfl
    · exact ⟨.STRONG :: found, by simp only [strengths, h.first, hfound]; rfl⟩
    · exact ⟨.MODERATE :: found, by simp only [strengths, h.second, hfound]; rfl⟩

/-- No operand is undecided, so the match records no ambiguity. -/
lemma Pairs.ambiguities_eq (hne : i ≠ j)
    (hi : Confident gate ctx (negativesOfI.flatMap (activeOccurrences gate ctx)) i)
    (hj : Confident gate ctx (negativesOfJ.flatMap (activeOccurrences gate ctx)) j) :
    (pairResult rk gate ctx i j).ambiguities = [] := by
  rw [pairResult_same.ambiguities]
  refine sortedUnique_eq_nil.mpr (List.filterMap_eq_nil_iff.mpr fun id hid => ?_)
  rw [List.mem_filter, mem_sortedUnique] at hid
  have hmatched := (h.matched hne hi hj id).mpr (List.mem_pair.mp hid.1)
  obtain ⟨-, -, hfires⟩ := mem_matchedPositive.mp hmatched
  have htrue := truthOf_suppressedPositive.mpr ⟨hid.2, hfires⟩
  cases hentry : suppressedPositive rk gate ctx (pairRule i j).categories [pairOverride i] id with
  | none => rfl
  | some entry =>
    rw [truthOf, hentry] at htrue
    rw [Option.bind_some, ambiguityText, if_pos (by simp [htrue])]

omit h in
/-- What the checked copy of a resolved match keeps of the match. -/
lemma kept_of_checked {r copy : RuleResult} {base : Severity} {res : SuppressionExecutor.Resolution}
    (hc : Checked rk (SuppressionExecutor.resolved r.canonical base res) copy) :
    copy.ruleId = r.ruleId ∧ copy.verdict? = r.verdict? ∧
      copy.ambiguities = sortedUnique (sortedUnique r.ambiguities) ∧
      copy.activeOverrides = sortedUnique (sortedUnique r.activeOverrides) ∧
      copy.extractionConfidenceInputs = r.extractionConfidenceInputs ∧
      ∀ id, id ∈ copy.matchedPositiveIndicators ↔ id ∈ r.matchedPositiveIndicators := by
  rw [hc.copy_eq]
  refine ⟨rfl, rfl, rfl, rfl, rfl, fun id => ?_⟩
  show id ∈ sortedUnique (sortedUnique r.matchedPositiveIndicators) ↔ _
  rw [mem_sortedUnique, mem_sortedUnique]

omit h in
lemma eligible_of_unsuppressed {r copy : RuleResult} {base : Severity}
    (hkind : r.kind = .COMPOSITE) (hstate : r.evaluationState = .MATCHED)
    (hc : Checked rk (SuppressionExecutor.resolved r.canonical base {}) copy) :
    copy.isEligibleMatched = true := by
  have hcanonical : r.canonical.evaluationState = .MATCHED := hstate
  refine hc.eligible hkind ?_
  rw [SuppressionExecutor.resolved_state hcanonical]
  rfl

/-- An operand carries the level of its most confident observed read. -/
lemma Pairs.medium_le_rank {copy : RuleResult} {id : String} {suppressors : List IndicatorObservation}
    (hinputs : copy.extractionConfidenceInputs =
      (pairResult rk gate ctx i j).extractionConfidenceInputs)
    (hid : id = i ∨ id = j) (hread : Confident gate ctx suppressors id) :
    Level.MEDIUM.rank ≤ confidenceRank copy id := by
  obtain ⟨io, hio, -⟩ := hread.read
  obtain ⟨level, hlevel, hle⟩ := medium_le_representative.mpr hread.read
  have hlisted : id ∈ ((sortedUnique [i, j]).filter rk.isPositive).filter
      (ctx.observationsFor · ≠ []) := by
    simp only [List.mem_filter, mem_sortedUnique, List.mem_pair, decide_eq_true_eq]
    exact ⟨⟨hid, h.isPositive_iff.mpr hid⟩, List.ne_nil_of_mem hio⟩
  rw [confidenceRank, hinputs, pairResult_same.confidence]
  simp only [compositeBase, List.find?_map, find?_beq_self hlisted, Option.map_some,
    Option.bind_some, hlevel]
  exact hle

omit h in
lemma medium_le_min {ids : List String} {rank : String → ℕ} (hsome : ids ≠ [])
    (hall : ∀ id ∈ ids, Level.MEDIUM.rank ≤ rank id) :
    Level.MEDIUM.rank ≤ (ids.map rank).min?.getD 0 := by
  cases hmin : (ids.map rank).min? with
  | none => exact absurd (List.map_eq_nil_iff.mp (List.min?_eq_none_iff.mp hmin)) hsome
  | some least =>
    obtain ⟨id, hid, rfl⟩ := List.mem_map.mp (List.min?_mem hmin)
    exact hall id hid

/-- With the rule's result checked, the decision fires on it with HIGH confidence. -/
theorem Pairs.exists_decision (hids : GovernedIds ctx) (hne : i ≠ j)
    (hi : Confident gate ctx (negativesOfI.flatMap (activeOccurrences gate ctx)) i)
    (hj : Confident gate ctx (negativesOfJ.flatMap (activeOccurrences gate ctx)) j)
    (profile : EvaluationProfile) :
    ∃ d copy, aggregateDecision rk profile (SuppressionExecutor.applyAll rk [pairResult rk gate ctx i j]) "SUPPORTED" [] =
          .ok d ∧
      d.detectionConfidence = .HIGH ∧ (∀ entry ∈ d.ruleResults, entry.result = copy) ∧
      copy.ruleId = "TL-OTP-001" ∧ i ∈ copy.matchedPositiveIndicators := by
  have hstate := h.state_eq hne hi hj
  obtain ⟨copy, hc⟩ : ∃ copy, Checked rk (SuppressionExecutor.resolved
      (pairResult rk gate ctx i j).canonical .HIGH {}) copy :=
    checked_resolved h.attributes hids (h.run hne hi hj) (le_refl 2) hstate h.matchedRun
  have hkind : (pairResult rk gate ctx i j).kind = .COMPOSITE := pairResult_same.kind
  have hcopies := materialise_of_checked (List.Forall₂.cons hc .nil)
  have heligible := eligible_of_unsuppressed hkind hstate hc
  have hdegraded : [copy].any RuleResult.isDegraded = false := by
    simp only [RuleResult.isEligibleMatched, Bool.and_eq_true, beq_iff_eq] at heligible
    simp [RuleResult.isDegraded, heligible.1.1.2]
  have hseverity : copy.severity? = some .HIGH :=
    hc.severity_eq.trans (SuppressionExecutor.severity_of_resolved _ _ _)
  obtain ⟨hruleId, hverdict, hambiguities, hoverrides, hinputs, hpositive⟩ := kept_of_checked hc
  have hmatched : ∀ id, id ∈ copy.matchedPositiveIndicators ↔ id = i ∨ id = j := by
    intro id
    rw [← h.matched hne hi hj id, hpositive, pairResult_same.matchedPositive]
    exact Iff.rfl
  obtain ⟨found, hfound⟩ : ∃ found, strengths rk copy.ruleId copy.matchedPositiveIndicators =
      .ok found := h.strengths_eq fun id hid => (hmatched id).mp hid
  obtain ⟨strength, hstrength⟩ : ∃ strength, ruleEvidenceStrength rk copy = .ok strength := by
    simp only [ruleEvidenceStrength, hfound, bind, Except.bind]
    exact ⟨_, rfl⟩
  have hcs : candidates rk [copy] = .ok [⟨copy, .HIGH, strength⟩] := by
    simp only [candidates, heligible, hseverity, hstrength, bind, Except.bind, pure, Except.pure]
  have hg : selectGoverning [(⟨copy, .HIGH, strength⟩ : Candidate)] = some ⟨copy, .HIGH, strength⟩ :=
    rfl
  obtain ⟨risk, hrisk⟩ := exists_riskMatrix .HIGH (ruleEvidenceStrength_ne_NONE hstrength)
  have hconfidence : ∀ count, detectionConfidence copy count = .HIGH := by
    intro count
    refine detectionConfidence_eq_HIGH.mpr ⟨?_, ?_, ?_, .inr ?_⟩
    · rw [hverdict, RuleResult.verdict?, pairResult_same.verdict]
      rfl
    · rw [hambiguities, h.ambiguities_eq hne hi hj]
      rfl
    · refine medium_le_min (List.ne_nil_of_mem ((hmatched i).mpr (.inl rfl))) fun id hid => ?_
      rcases (hmatched id).mp hid with rfl | rfl
      · exact h.medium_le_rank hinputs (.inl rfl) hi
      · exact h.medium_le_rank hinputs (.inr rfl) hj
    · rw [hoverrides, pairResult_same.overrides, ne_eq, sortedUnique_eq_nil, sortedUnique_eq_nil]
      exact List.cons_ne_nil _ _
  rw [SuppressionExecutor.applyAll, List.map_singleton, h.matchedRun.apply_eq hkind hstate,
    aggregateDecision_eq (rfl : Support.ofString? "SUPPORTED" = some .SUPPORTED) rfl hcopies
      (List.nodup_singleton _)]
  simp only [aggregateChecked, if_neg (evaluable_iff.mp ⟨rfl, .inl rfl⟩), hcs, hg, fire,
    foldl_max_governing hg, hrisk, hdegraded, hconfidence, bind, Except.bind]
  refine ⟨_, copy, rfl, rfl, ?_, ?_, (hmatched i).mpr (.inl rfl)⟩
  · intro entry hentry
    obtain ⟨r, hr, rfl⟩ := List.mem_map.mp ((List.mem_insertionSort _).mp hentry)
    exact List.mem_singleton.mp hr
  · rw [hruleId, pairResult_same.ruleId]
    rfl

omit h in
/-- Where the data hides a weak read, some knowledge reaches HIGH confidence on it. -/
theorem exists_borrowed (profile : EvaluationProfile) {inds obs : List Json}
    {language script : String} (hctx : buildValidatedContext inds obs language script = .ok ctx)
    (hidden : HidesWeakRead profile.extractionConfidenceGate ctx) :
    ∃ rk d, evaluateDecision rk profile inds obs "SUPPORTED" language script [] = .ok d ∧
      ¬RestsOnLiveReads rk profile.extractionConfidenceGate ctx d := by
  obtain ⟨i, j, negativesOfI, negativesOfJ, hne, hneg, hi, hweak, hj⟩ := hidden
  have hpairs := pairs_pairKnowledge hne hneg
  obtain ⟨d, copy, hd, hhigh, hentries, hruleId, hmem⟩ :=
    hpairs.exists_decision (governedIds_of_accepted hctx) hne hi hj profile
  refine ⟨pairKnowledge i j negativesOfI negativesOfJ hne hneg, d, ?_, fun hrests => ?_⟩
  · simp only [evaluateDecision, SuppressionExecutor.evaluateWithSuppression,
      evaluateRulesFromGoverned, hctx, hpairs.evaluateRules_eq hne hi hj, Except.mapError,
      Except.map, hd]
  · obtain ⟨entry, hentry, -, rule, overrides, -, -, hbacked⟩ := hrests hhigh
    rw [hentries entry hentry] at hbacked
    exact hweak ((liveBacked_congr (hpairs.mem_suppressors_first hne) i).mp (hbacked i hmem))

end Pair

/-- A request read with a given confidence on an observation. -/
def readIndicator (id level ref : String) : Json :=
  .obj [("indicator_id", .str id), ("polarity", .str "POSITIVE"), ("matched", .str "OBSERVED"),
    ("confidence", .obj [("level", .str level)]), ("observation_refs", .arr [.str ref]),
    ("input_id", .str "in-1"), ("provenance", sampleProvenance)]

def borrowedIndicators : List Json :=
  [readIndicator "OTP_REQUEST" "LOW" "o-1", readIndicator "OTP_REQUEST" "HIGH" "o-2",
    readIndicator "URGENCY" "HIGH" "o-1"]

def borrowedObservations : List Json :=
  [sampleObservation "o-1" "DIRECTIVE", sampleObservation "o-2" "DESCRIPTIVE"]

section Decidable

variable (gate : Level) (ctx : Context) (suppressors : List IndicatorObservation)

instance (io : IndicatorObservation) : Decidable (Fires gate ctx suppressors io) :=
  inferInstanceAs (Decidable (_ ∧ _ ∧ _ ∧ ∀ s ∈ suppressors, _ ∧ ∀ ref ∈ _, _))

instance (io : IndicatorObservation) :
    Decidable (∃ level, io.confidence = some level ∧ Level.MEDIUM ≤ level) :=
  decidable_of_iff (io.confidence.any (Level.MEDIUM ≤ ·) = true) (by simp [Option.any_eq_true])

instance (id : String) : Decidable (LiveBacked gate ctx suppressors id) :=
  inferInstanceAs (Decidable (∃ io ∈ _, _ ∧ _))

instance (id : String) : Decidable (Confident gate ctx suppressors id) :=
  decidable_of_iff ((∃ io ∈ ctx.observationsFor id, Fires gate ctx suppressors io) ∧
    ∃ io ∈ ctx.observationsFor id, io.matched = .OBSERVED ∧
      ∃ level, io.confidence = some level ∧ Level.MEDIUM ≤ level)
    ⟨fun h => ⟨h.1, h.2⟩, fun h => ⟨h.live, h.read⟩⟩

end Decidable

lemma borrowed_accepted : ∃ ctx, buildValidatedContext borrowedIndicators borrowedObservations "en"
    "Latn" = .ok ctx ∧ HidesWeakRead .LOW ctx := by
  obtain ⟨ctx, hctx⟩ : ∃ ctx, (buildValidatedContext borrowedIndicators borrowedObservations "en"
      "Latn").toOption = some ctx := by
    rw [← Option.isSome_iff_exists]
    decide +kernel
  have hfacts : ((buildValidatedContext borrowedIndicators borrowedObservations "en"
      "Latn").toOption.all fun ctx => decide (Confident .LOW ctx [] "OTP_REQUEST" ∧
        ¬LiveBacked .LOW ctx [] "OTP_REQUEST" ∧ Confident .LOW ctx [] "URGENCY")) = true := by
    decide +kernel
  rw [hctx, Option.all_some, decide_eq_true_eq] at hfacts
  obtain ⟨hfirst, hweak, hsecond⟩ := hfacts
  exact ⟨ctx, eq_ok_of_toOption hctx, "OTP_REQUEST", "URGENCY", [], [], by decide, nofun, hfirst,
    hweak, hsecond⟩

end TrustLens.Runtime.LiveConfidence
