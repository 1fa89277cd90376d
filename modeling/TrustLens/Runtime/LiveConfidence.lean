import TrustLens.Runtime.ConsistentAxes
import TrustLens.Runtime.ResultContract

/-!
# Live reads under a HIGH confidence

The level the aggregation reads of an indicator is the highest of all its observed
occurrences, whether or not they are the ones that make it TRUE. Under the lowest gate a weak
live read can so borrow the level of a read that is not live.
-/

namespace TrustLens.Runtime.LiveConfidence

open Evaluator
open Aggregation hiding Fires

/-- A read that makes the indicator TRUE has at least medium confidence. -/
def LiveBacked (gate : Level) (ctx : Context) (suppressors : List IndicatorObservation)
    (id : String) : Prop :=
  ∃ io ∈ ctx.observationsFor id, Fires gate ctx suppressors io ∧
    ∃ level, io.confidence = some level ∧ Level.MEDIUM ≤ level

/-- The indicator is TRUE, and some observed read of it has at least medium confidence. -/
structure Confident (gate : Level) (ctx : Context) (suppressors : List IndicatorObservation)
    (id : String) : Prop where
  live : ∃ io ∈ ctx.observationsFor id, Fires gate ctx suppressors io
  read : ∃ io ∈ ctx.observationsFor id, io.matched = .OBSERVED ∧
    ∃ level, io.confidence = some level ∧ Level.MEDIUM ≤ level

/-- HIGH confidence rests on live reads: the governing rule has one for each indicator it
matched. -/
def RestsOnLiveReads (rk : RuntimeKnowledge) (gate : Level) (ctx : Context) (d : DecisionResult) :
    Prop :=
  d.detectionConfidence = .HIGH →
    ∃ entry ∈ d.ruleResults, entry.governing = true ∧ ∃ rule overrides,
      rk.rule entry.result.ruleId = some rule ∧
      activeOverrides rk rule (truthOf (rawPositive rk gate ctx)) = .ok overrides ∧
      ∀ id ∈ entry.result.matchedPositiveIndicators,
        LiveBacked gate ctx (suppressorsFor rk gate ctx rule.categories overrides id) id

/-- The data hides a weak live read: beside the suppressors some of the other indicators can be,
an indicator is TRUE by weak reads only, although it was observed with more confidence, and a
second indicator is TRUE as well. -/
def HidesWeakRead (gate : Level) (ctx : Context) : Prop :=
  ∃ i j, ∃ negativesOfI negativesOfJ : List String, i ≠ j ∧
    (∀ n ∈ negativesOfI ++ negativesOfJ, n ≠ i ∧ n ≠ j) ∧
    Confident gate ctx (negativesOfI.flatMap (activeOccurrences gate ctx)) i ∧
    ¬LiveBacked gate ctx (negativesOfI.flatMap (activeOccurrences gate ctx)) i ∧
    Confident gate ctx (negativesOfJ.flatMap (activeOccurrences gate ctx)) j

section Reads

variable {gate : Level} {ctx : Context}

lemma fires_congr {suppressors suppressors' : List IndicatorObservation}
    (h : ∀ s, s ∈ suppressors' ↔ s ∈ suppressors) (io : IndicatorObservation) :
    Fires gate ctx suppressors' io ↔ Fires gate ctx suppressors io := by
  simp only [Fires, untouched_congr h]

lemma liveBacked_congr {suppressors suppressors' : List IndicatorObservation}
    (h : ∀ s, s ∈ suppressors' ↔ s ∈ suppressors) (id : String) :
    LiveBacked gate ctx suppressors' id ↔ LiveBacked gate ctx suppressors id := by
  simp only [LiveBacked, fires_congr h]

lemma confident_congr {suppressors suppressors' : List IndicatorObservation}
    (h : ∀ s, s ∈ suppressors' ↔ s ∈ suppressors) {id : String}
    (hid : Confident gate ctx suppressors id) : Confident gate ctx suppressors' id := by
  refine ⟨?_, hid.read⟩
  obtain ⟨io, hio, hfires⟩ := hid.live
  exact ⟨io, hio, (fires_congr h io).mpr hfires⟩

lemma level_of_gateSingle {io : IndicatorObservation}
    (h : (gateSingle gate io.matched io.confidence).1 = .TRUE) :
    io.matched = .OBSERVED ∧ ∃ level, io.confidence = some level ∧ gate ≤ level := by
  unfold gateSingle at h
  cases hmatched : io.matched with
  | OBSERVED =>
    refine ⟨rfl, ?_⟩
    cases hlevel : io.confidence with
    | none => simp [hmatched, hlevel] at h
    | some level =>
      simp only [hmatched, hlevel] at h
      split_ifs at h with hgate
      exact ⟨level, rfl, hgate⟩
  | _ => simp [hmatched] at h

/-- From the medium gate on, what makes an indicator TRUE is no weak read. -/
lemma liveBacked_of_gate (hgate : Level.MEDIUM ≤ gate) {suppressors : List IndicatorObservation}
    {id : String} (h : ∃ io ∈ ctx.observationsFor id, Fires gate ctx suppressors io) :
    LiveBacked gate ctx suppressors id := by
  obtain ⟨io, hio, hfires⟩ := h
  obtain ⟨-, level, hlevel, hle⟩ := level_of_gateSingle hfires.2.1
  exact ⟨io, hio, hfires, level, hlevel, hgate.trans hle⟩

lemma not_hidesWeakRead_of_gate (hgate : Level.MEDIUM ≤ gate) : ¬HidesWeakRead gate ctx := by
  rintro ⟨i, j, negativesOfI, negativesOfJ, -, -, hi, hweak, -⟩
  exact hweak (liveBacked_of_gate hgate hi.live)

/-- The representative level is at least medium exactly when some observed read is. -/
lemma medium_le_representative {ios : List IndicatorObservation} :
    (∃ level, representativeConfidence ios = some level ∧ Level.MEDIUM ≤ level) ↔
      ∃ io ∈ ios, io.matched = .OBSERVED ∧ ∃ level, io.confidence = some level ∧
        Level.MEDIUM ≤ level := by
  constructor
  · rintro ⟨level, hmax, hle⟩
    have hmem := List.max?_mem hmax
    obtain ⟨io, hio, hlevel⟩ := List.mem_filterMap.mp hmem
    obtain ⟨hio, hobserved⟩ := List.mem_filter.mp hio
    exact ⟨io, hio, by simpa using hobserved, level, hlevel, hle⟩
  · rintro ⟨io, hio, hobserved, level, hlevel, hle⟩
    have hmem : level ∈ (ios.filter (·.matched == .OBSERVED)).filterMap (·.confidence) :=
      List.mem_filterMap.mpr ⟨io, List.mem_filter.mpr ⟨hio, by simp [hobserved]⟩, hlevel⟩
    cases hmax : representativeConfidence ios with
    | none =>
      rw [representativeConfidence, List.max?_eq_none_iff] at hmax
      rw [hmax] at hmem
      cases hmem
    | some top =>
      exact ⟨top, rfl, hle.trans ((List.max?_eq_some_iff.mp hmax).2 level hmem)⟩

end Reads

/-! ### A decision with HIGH confidence -/

variable {rk : RuntimeKnowledge} {gate : Level} {ctx : Context}

/-- What the HIGH band asks of the governing result. -/
lemma detectionConfidence_eq_HIGH {r : RuleResult} {count : ℕ} :
    detectionConfidence r count = .HIGH ↔
      r.verdict? = some .SUPPORTED ∧ r.ambiguities = [] ∧
        Level.MEDIUM.rank ≤ (r.matchedPositiveIndicators.map (confidenceRank r)).min?.getD 0 ∧
        (3 ≤ count ∨ r.activeOverrides ≠ []) := by
  simp only [detectionConfidence]
  split_ifs with h
  · exact iff_of_true rfl h
  · exact iff_of_false (by decide) h
  · exact iff_of_false (by decide) h

lemma medium_le_confidenceRank {r : RuleResult}
    (h : Level.MEDIUM.rank ≤ (r.matchedPositiveIndicators.map (confidenceRank r)).min?.getD 0) :
    ∀ id ∈ r.matchedPositiveIndicators, Level.MEDIUM.rank ≤ confidenceRank r id := by
  intro id hid
  have hmem := List.mem_map_of_mem (f := confidenceRank r) hid
  cases hmin : (r.matchedPositiveIndicators.map (confidenceRank r)).min? with
  | none =>
    rw [List.min?_eq_none_iff] at hmin
    rw [hmin] at hmem
    cases hmem
  | some least =>
    rw [hmin] at h
    exact h.trans ((List.min?_eq_some_iff.mp hmin).2 _ hmem)

/-- A decision with HIGH confidence was fired by its candidates, none of them degraded. -/
lemma exists_fire {profile : EvaluationProfile} {support : Support} {wholeErrors : List Json}
    {results : List RuleResult} {d : DecisionResult}
    (h : aggregateChecked rk profile support wholeErrors results = .ok d)
    (hhigh : d.detectionConfidence = .HIGH) :
    ∃ cs g count, candidates rk results = .ok cs ∧ selectGoverning cs = some g ∧
      Aggregation.Fires rk support results cs g (results.any RuleResult.isDegraded) d ∧
      detectionConfidence g.result count = .HIGH := by
  rcases aggregateChecked_cases h with ⟨hquiet, -, -⟩ | ⟨hok, cs, g, hcs, hg, hfires⟩
  · rw [hquiet.confidence] at hhigh
    cases hhigh
  · simp only [aggregateChecked, if_neg (evaluable_iff.mp hok), hcs, hg, bind, Except.bind] at h
    refine ⟨cs, g, (Independence.provenIndependence (provenanceEntries rk cs)).count, hcs, hg,
      hfires, ?_⟩
    simp only [fire] at h
    split at h
    · cases h
    · obtain rfl := Except.ok.inj h
      change (if _ then Confidence.MEDIUM else detectionConfidence g.result _) = _ at hhigh
      split_ifs at hhigh
      exact hhigh

/-- A matched result of the two stages comes from the run of a published rule. -/
lemma exists_matchedRun {wp3 copies : List RuleResult} (hrules : evaluateRules rk gate ctx = .ok wp3)
    (hchecked : List.Forall₂ (Checked rk) (SuppressionExecutor.applyAll rk wp3) copies)
    {copy : RuleResult} (hcopy : copy ∈ copies) (heligible : copy.isEligibleMatched = true) :
    ∃ rule ∈ rk.rules, ∃ logic minClasses overrides required operandIds effective base res,
      CompositeRun rk gate ctx rule logic minClasses overrides required operandIds effective ∧
      (compositeResult rk gate ctx rule minClasses overrides required operandIds
        effective).evaluationState = .MATCHED ∧
      Checked rk (SuppressionExecutor.resolved (compositeResult rk gate ctx rule minClasses overrides
        required operandIds effective).canonical base res) copy := by
  obtain ⟨final, hfinal, hc⟩ := exists_left_of_forall₂ hchecked hcopy
  obtain ⟨r, hr, rfl⟩ := List.mem_map.mp hfinal
  obtain ⟨rule, hmem, hpublished, hrun⟩ := (mem_evaluateRules hrules r).mp hr
  simp only [RuleResult.isEligibleMatched, RuleResult.isComposite, Bool.and_eq_true, beq_iff_eq,
    hc.kind_eq, hc.state_eq] at heligible
  obtain ⟨⟨⟨hkind, hstate⟩, -⟩, -⟩ := heligible
  rw [(SuppressionExecutor.apply_same rk r).2.1] at hkind
  have hmatched := SuppressionExecutor.matched_of_apply hstate
  have hcore := SuppressionExecutor.applyCore_of_apply (r := r) (by rw [hstate]; decide)
  obtain ⟨base, blocked, res, -, hresolved⟩ :=
    SuppressionExecutor.applyCore_matched hkind hmatched hcore
  obtain ⟨logic, minClasses, overrides, required, operandIds, effective, run, rfl⟩ :=
    exists_compositeRun hrules hmem hr (ruleId_of_runIsolated hrun) hkind (by rw [hmatched]; decide)
  exact ⟨rule, hmem, logic, minClasses, overrides, required, operandIds, effective, base, res, run,
    hmatched, hresolved ▸ hc⟩

lemma find?_beq_self {ids : List String} {id : String} (h : id ∈ ids) :
    ids.find? ((fun e : String × Option Level => e.1 == id) ∘
      fun id => (id, representativeConfidence (ctx.observationsFor id))) = some id := by
  cases hfind : ids.find? ((fun e : String × Option Level => e.1 == id) ∘
      fun id => (id, representativeConfidence (ctx.observationsFor id))) with
  | none => simpa using List.find?_eq_none.mp hfind id h
  | some x => simpa using List.find?_some hfind

section Run

variable {rule : Rule} {logic : Json} {minClasses : ℤ} {overrides : List Override}
variable {required : Truth} {operandIds : List String} {effective : Option Json}

/-- The level of a matched indicator in a result is that of its most confident observed read. -/
lemma confident_of_rank {base : Severity} {res : SuppressionExecutor.Resolution} {copy : RuleResult}
    (hc : Checked rk (SuppressionExecutor.resolved (compositeResult rk gate ctx rule minClasses
      overrides required operandIds effective).canonical base res) copy) {id : String}
    (hid : id ∈ matchedPositive rk gate ctx rule overrides operandIds)
    (hrank : Level.MEDIUM.rank ≤ confidenceRank copy id) :
    Confident gate ctx (suppressorsFor rk gate ctx rule.categories overrides id) id := by
  obtain ⟨hoperand, hpos, io, hio, hfires⟩ := mem_matchedPositive.mp hid
  refine ⟨⟨io, hio, hfires⟩, medium_le_representative.mp ?_⟩
  have hinputs : copy.extractionConfidenceInputs =
      (((sortedUnique operandIds).filter rk.isPositive).filter (ctx.observationsFor · ≠ [])).map
        fun id => (id, representativeConfidence (ctx.observationsFor id)) := by
    rw [hc.copy_eq]
    exact compositeResult_same.confidence
  have hlisted : id ∈ ((sortedUnique operandIds).filter rk.isPositive).filter
      (ctx.observationsFor · ≠ []) := by
    simp only [List.mem_filter, mem_sortedUnique, decide_eq_true_eq]
    exact ⟨⟨hoperand, hpos⟩, List.ne_nil_of_mem hio⟩
  rw [confidenceRank, hinputs, List.find?_map, find?_beq_self hlisted] at hrank
  cases hlevel : representativeConfidence (ctx.observationsFor id) with
  | none =>
    simp only [Option.map_some, Option.bind_some, hlevel] at hrank
    exact absurd hrank (by decide)
  | some level =>
    simp only [Option.map_some, Option.bind_some, hlevel] at hrank
    exact ⟨level, rfl, hrank⟩

lemma mem_suppressorsOf {target n : String}
    (h : suppressorsOf rk gate ctx overrides target n ≠ []) (s : IndicatorObservation) :
    s ∈ suppressorsOf rk gate ctx overrides target n ↔ s ∈ activeOccurrences gate ctx n := by
  unfold suppressorsOf at h ⊢
  cases hneg : rk.negativeIndicator n with
  | none => simp [hneg] at h
  | some neg =>
    simp only [hneg] at h ⊢
    split_ifs at h ⊢
    · exact absurd rfl h
    · exact absurd rfl h
    · rw [List.mem_flatMap]
      constructor
      · rintro ⟨_, -, hs⟩
        exact hs
      · intro hs
        have hsome : neg.suppressesIndicators.filter (· == target) ≠ [] := by
          intro hnil
          rw [hnil] at h
          exact h rfl
        obtain ⟨x, hx⟩ := List.exists_mem_of_ne_nil _ hsome
        exact ⟨x, hx, hs⟩

/-- The suppressors of an indicator are the active reads of some negative indicators. -/
lemma exists_negatives (rk : RuntimeKnowledge) (gate : Level) (ctx : Context) (rule : Rule)
    (overrides : List Override) (target : String) : ∃ negatives : List String,
    (∀ n ∈ negatives, rk.isNegative n = true) ∧
    ∀ s, s ∈ negatives.flatMap (activeOccurrences gate ctx) ↔
      s ∈ suppressorsFor rk gate ctx rule.categories overrides target := by
  classical
  refine ⟨(matchedNegative rk gate ctx rule.categories).filter fun n =>
    decide (suppressorsOf rk gate ctx overrides target n ≠ []), fun n hn => ?_, fun s => ?_⟩
  · have hactive := (List.mem_filter.mp (List.mem_filter.mp hn).1).1
    exact (negativeTruth_eq_TRUE.mp (mem_activeNegatives.mp hactive)).1
  · simp only [suppressorsFor, List.mem_flatMap, List.mem_filter, decide_eq_true_eq]
    refine exists_congr fun n => ?_
    constructor
    · rintro ⟨⟨hn, hsome⟩, hs⟩
      exact ⟨hn, (mem_suppressorsOf hsome s).mpr hs⟩
    · rintro ⟨hn, hs⟩
      have hsome := List.ne_nil_of_mem hs
      exact ⟨⟨hn, hsome⟩, (mem_suppressorsOf hsome s).mp hs⟩

/-- An indicator that matched rests on a live read, or the data hides a weak one. -/
theorem liveBacked_of_matched {base : Severity} {res : SuppressionExecutor.Resolution}
    {copy : RuleResult} (hno : ¬HidesWeakRead gate ctx)
    (hc : Checked rk (SuppressionExecutor.resolved (compositeResult rk gate ctx rule minClasses
      overrides required operandIds effective).canonical base res) copy)
    (hranks : ∀ id ∈ copy.matchedPositiveIndicators, Level.MEDIUM.rank ≤ confidenceRank copy id)
    (hother : ∀ i ∈ matchedPositive rk gate ctx rule overrides operandIds,
      ∃ j ∈ matchedPositive rk gate ctx rule overrides operandIds, i ≠ j) :
    ∀ id ∈ copy.matchedPositiveIndicators,
      LiveBacked gate ctx (suppressorsFor rk gate ctx rule.categories overrides id) id := by
  have hmatched : ∀ id, id ∈ copy.matchedPositiveIndicators ↔
      id ∈ matchedPositive rk gate ctx rule overrides operandIds := by
    intro id
    rw [hc.mem_matched]
    show id ∈ sortedUnique _ ↔ _
    rw [mem_sortedUnique, compositeResult_same.matchedPositive]
    exact Iff.rfl
  have hconfident : ∀ id ∈ matchedPositive rk gate ctx rule overrides operandIds,
      Confident gate ctx (suppressorsFor rk gate ctx rule.categories overrides id) id :=
    fun id hid => confident_of_rank hc hid (hranks id ((hmatched id).mpr hid))
  intro i hi
  by_contra hweak
  rw [hmatched] at hi
  obtain ⟨j, hj, hne⟩ := hother i hi
  obtain ⟨negativesOfI, hnegI, hmemI⟩ := exists_negatives rk gate ctx rule overrides i
  obtain ⟨negativesOfJ, hnegJ, hmemJ⟩ := exists_negatives rk gate ctx rule overrides j
  refine hno ⟨i, j, negativesOfI, negativesOfJ, hne, ?_, confident_congr hmemI (hconfident i hi),
    fun hbacked => hweak ((liveBacked_congr hmemI i).mp hbacked),
    confident_congr hmemJ (hconfident j hj)⟩
  have hpositive : ∀ id ∈ matchedPositive rk gate ctx rule overrides operandIds,
      ∀ n, rk.isNegative n = true → n ≠ id := by
    rintro id hid n hn rfl
    have hpos := (mem_matchedPositive.mp hid).2.1
    rw [RuntimeKnowledge.not_isPositive_of_isNegative hn] at hpos
    cases hpos
  intro n hn
  have hnegative : rk.isNegative n = true := by
    rcases List.mem_append.mp hn with hn | hn
    · exact hnegI n hn
    · exact hnegJ n hn
  exact ⟨hpositive i hi n hnegative, hpositive j hj n hnegative⟩

lemma two_le_of_conforms {r : RuleResult} (h : conforms r = true) {n : ℤ}
    (hn : r.minEvidenceClassesRequired = some n) : 2 ≤ n := by
  simp only [conforms, Bool.and_eq_true, hn, Option.all_some, decide_eq_true_eq] at h
  obtain ⟨⟨⟨⟨⟨⟨⟨⟨⟨⟨⟨-, h⟩, -⟩, -⟩, -⟩, -⟩, -⟩, -⟩, -⟩, -⟩, -⟩, -⟩ := h
  exact h

/-- A match that conforms spans two evidence classes, so no matched indicator is alone. -/
lemma exists_other {base : Severity} {res : SuppressionExecutor.Resolution} {copy : RuleResult}
    (hmatched : (compositeResult rk gate ctx rule minClasses overrides required operandIds
      effective).evaluationState = .MATCHED)
    (hc : Checked rk (SuppressionExecutor.resolved (compositeResult rk gate ctx rule minClasses
      overrides required operandIds effective).canonical base res) copy) :
    ∀ i ∈ matchedPositive rk gate ctx rule overrides operandIds,
      ∃ j ∈ matchedPositive rk gate ctx rule overrides operandIds, i ≠ j := by
  intro i hi
  by_contra halone
  push Not at halone
  have hmin : copy.minEvidenceClassesRequired = some minClasses := by
    rw [hc.copy_eq]
    exact compositeResult_same.minClasses
  have htwo := two_le_of_conforms hc.conforms hmin
  have hdiverse := (compositeState_eq_MATCHED.mp
    (compositeResult_same.evaluationState.symm.trans hmatched)).2
  rw [decide_eq_true_eq] at hdiverse
  have hclasses : (matchedPositive rk gate ctx rule overrides operandIds).filterMap
      (fun id => nonEmpty? ((rk.indicator id).bind (·.evidenceClass))) ⊆
      (nonEmpty? ((rk.indicator i).bind (·.evidenceClass))).toList := by
    intro c hc
    obtain ⟨j, hj, hclass⟩ := List.mem_filterMap.mp hc
    rw [← halone j hj] at hclass
    exact Option.mem_toList.mpr hclass
  have hsingle : (sortedUnique (nonEmpty? ((rk.indicator i).bind (·.evidenceClass))).toList).length ≤
      1 := by
    cases nonEmpty? ((rk.indicator i).bind (·.evidenceClass)) with
    | none => simp
    | some c =>
      rw [Option.toList_some, sortedUnique_eq_of_sorted (List.nodup_singleton c) (by simp)]
      exact le_refl 1
  have hlength : (evidenceClasses rk (matchedPositive rk gate ctx rule overrides
      operandIds)).length ≤ 1 := (length_sortedUnique_le hclasses).trans hsingle
  omega

end Run

/-- The governing entry of a decision that fired is its governing candidate's result. -/
lemma exists_governing_entry {support : Support} {copies : List RuleResult} {cs : List Candidate}
    {g : Candidate} {degraded : Bool} {d : DecisionResult}
    (hn : (copies.map RuleResult.ruleId).Nodup) (hcs : candidates rk copies = .ok cs)
    (hg : selectGoverning cs = some g)
    (hfires : Aggregation.Fires rk support copies cs g degraded d) :
    ∃ entry ∈ d.ruleResults, entry.governing = true ∧ entry.result = g.result := by
  obtain ⟨hmem, heligible, -⟩ := (mem_candidates hcs g.result g.severity).mp
    ⟨g, mem_of_selectGoverning hg, rfl, rfl⟩
  have hflags := hfires.flags
  rw [filter_governing hn hmem heligible, List.map_singleton] at hflags
  obtain ⟨hentry, hgoverning⟩ := List.mem_filter.mp (hflags.mem_iff.mpr (List.mem_singleton_self _))
  exact ⟨_, hentry, hgoverning, rfl⟩

/-- Where the data hides no weak read, HIGH confidence rests on live reads. -/
theorem restsOnLiveReads_of_not_hidden {profile : EvaluationProfile} {inds obs : List Json}
    {status language script : String} {wholeErrors : List Json} {d : DecisionResult}
    (hctx : buildValidatedContext inds obs language script = .ok ctx)
    (h : evaluateDecision rk profile inds obs status language script wholeErrors = .ok d)
    (hno : ¬HidesWeakRead profile.extractionConfidenceGate ctx) :
    RestsOnLiveReads rk profile.extractionConfidenceGate ctx d := by
  intro hhigh
  obtain ⟨ctx', wp3, hctx', hrules, -, hagg⟩ := evaluateDecision_ok h
  obtain rfl := Except.ok.inj (hctx.symm.trans hctx')
  obtain ⟨support, copies, -, -, hcopies, hn, hd⟩ := aggregateDecision_inputs hagg
  have hchecked := materialise_ok hcopies
  rw [← map_ruleId_of_checked hchecked] at hn
  obtain ⟨cs, g, count, hcs, hg, hfires, hconfidence⟩ := exists_fire hd hhigh
  obtain ⟨hmem, heligible, -⟩ := (mem_candidates hcs g.result g.severity).mp
    ⟨g, mem_of_selectGoverning hg, rfl, rfl⟩
  obtain ⟨rule, hrule, logic, minClasses, overrides, required, operandIds, effective, base, res,
    run, hmatched, hc⟩ := exists_matchedRun hrules hchecked hmem heligible
  obtain ⟨entry, hentry, hgoverning, heq⟩ := exists_governing_entry hn hcs hg hfires
  have hid : g.result.ruleId = rule.id := hc.ruleId_eq.trans compositeResult_same.ruleId
  refine ⟨entry, hentry, hgoverning, rule, overrides, ?_, run.overrides_eq, ?_⟩
  · rw [heq, hid]
    exact RuntimeKnowledge.rule_of_mem hrule
  · rw [heq]
    exact liveBacked_of_matched hno hc
      (medium_le_confidenceRank (detectionConfidence_eq_HIGH.mp hconfidence).2.2.1)
      (exists_other hmatched hc)

end TrustLens.Runtime.LiveConfidence
