import TrustLens.Backend.KnowledgeSeam
import TrustLens.Lib.Anchored

/-!
# What the audit allowlist accepts

The validator matches its patterns, so an event passes exactly when it is allowed once the line
break that a text may end in is taken away.
-/

namespace TrustLens.Backend.AuditChain

open TrustLens.Ai Schema

/-- The words of a kind's grammar. -/
def Kind.words : Kind → List Char → Bool
  | category => headTail isUpper (fun c => isUpper c || isAsciiDigit c || c == '_') 0 63
  | uuid => isUuid
  | reference => headTail (fun c => isUpper c || isAsciiDigit c)
      (fun c => isUpper c || isAsciiDigit c || [':', '_', '-'].contains c) 0 79
  | sha256 => hexGroup 64
  | deployment => headTail (fun c => isLower c || isAsciiDigit c)
      (fun c => isLower c || isAsciiDigit c || c == '-') 0 62

/-- An event whose every text is a word of its grammar. -/
structure Exact (event : AuditEvent) : Prop where
  metadata : ∃ allowed, SAFE_METADATA.lookup event.eventType = some allowed ∧
    ∀ metadata ∈ event.safeMetadata, ∀ e ∈ metadata.1,
      ∃ kind s, allowed.lookup e.1 = some kind ∧ e.2 = .str s ∧ kind.words s.toList = true
  references : ∀ ref ∈ [event.actorPrincipalId, event.targetId, event.caseRecordId,
    event.evidenceItemId, event.evaluationId], ∀ r ∈ ref, isUuid r.toList = true
  digest : ∀ d ∈ event.bundleContentDigest, hexGroup 64 d.toList = true
  correlation : isUuid event.correlationId.toList = true

/-- The texts that the validator matches. -/
def texts (event : AuditEvent) : List String :=
  (event.safeMetadata.toList.flatMap fun metadata => metadata.1.filterMap fun e => e.2.str?) ++
    [event.actorPrincipalId, event.targetId, event.caseRecordId, event.evidenceItemId,
      event.evaluationId, event.bundleContentDigest, some event.correlationId].filterMap id

def chompValue : Json → Json
  | .str s => .str (chomp s)
  | j => j

/-- An event without the line breaks that its texts end in. -/
def chomped (event : AuditEvent) : AuditEvent :=
  { event with
    correlationId := chomp event.correlationId
    actorPrincipalId := event.actorPrincipalId.map chomp
    targetId := event.targetId.map chomp
    caseRecordId := event.caseRecordId.map chomp
    evidenceItemId := event.evidenceItemId.map chomp
    evaluationId := event.evaluationId.map chomp
    bundleContentDigest := event.bundleContentDigest.map chomp
    safeMetadata := event.safeMetadata.map fun metadata =>
      ⟨metadata.1.map fun e => (e.1, chompValue e.2), by
        rw [List.map_map]
        exact metadata.2⟩ }

/-! ### Grammars -/

lemma oneLine_hexGroup (n : ℕ) : OneLine (hexGroup n) := by
  intro cs h hmem
  rw [hexGroup, Bool.and_eq_true, List.all_eq_true] at h
  exact absurd (h.2 _ hmem) (by decide)

lemma oneLine_isUuid : OneLine isUuid := fun cs h => by
  unfold isUuid at h
  split at h
  · rename_i a b c d e hparts
    simp only [Bool.and_eq_true] at h
    rw [← cs.intercalate_splitOn '-', hparts]
    simp [oneLine_hexGroup _ _ h.1.1.1.1.1.1, oneLine_hexGroup _ _ h.1.1.1.1.1.2,
      oneLine_hexGroup _ _ h.1.1.1.1.2, oneLine_hexGroup _ _ h.1.1.2, oneLine_hexGroup _ _ h.2]
  · cases h

lemma Kind.oneLine_words (kind : Kind) : OneLine kind.words := by
  cases kind with
  | category => exact oneLine_headTail (by decide) (by decide)
  | uuid => exact oneLine_isUuid
  | reference => exact oneLine_headTail (by decide) (by decide)
  | sha256 => exact oneLine_hexGroup 64
  | deployment => exact oneLine_headTail (by decide) (by decide)

lemma Kind.allows_eq (kind : Kind) : kind.allows = anchored kind.words := by
  cases kind <;> rfl

/-! ### The validator -/

lemma permitted_iff {allowed : List (String × Kind)} {e : String × Json} :
    permitted allowed e = true ↔ ∃ kind s, allowed.lookup e.1 = some kind ∧
      chompValue e.2 = .str s ∧ kind.words s.toList = true := by
  obtain ⟨key, value⟩ := e
  unfold permitted
  cases hkind : allowed.lookup key with
  | none => simp
  | some kind =>
    cases value with
    | str s =>
      simp only [Option.some.injEq, chompValue, Json.str.injEq, exists_eq_left', exists_and_left]
      rw [kind.allows_eq, anchored_iff kind.oneLine_words]
    | null | bool | int | float | arr | obj => simp [chompValue]

lemma reference_iff (ref : Option String) :
    ref.all _UUID = true ↔ ∀ r ∈ ref.map chomp, isUuid r.toList = true := by
  cases ref with
  | none => simp
  | some r =>
    rw [Option.all_some, _UUID, anchored_iff oneLine_isUuid]
    simp

lemma validate_iff (event : AuditEvent) : validate event = true ↔ Exact (chomped event) := by
  have hmetadata : ∀ allowed, (event.safeMetadata.all fun metadata =>
      metadata.1.all (permitted allowed)) = true ↔
      ∀ metadata ∈ (chomped event).safeMetadata, ∀ e ∈ metadata.1, ∃ kind s,
        allowed.lookup e.1 = some kind ∧ e.2 = .str s ∧ kind.words s.toList = true := by
    intro allowed
    unfold chomped
    cases event.safeMetadata with
    | none => simp
    | some metadata =>
      simp only [Option.all_some, List.all_eq_true, permitted_iff, Option.map_some, Option.mem_some,
        forall_eq', List.forall_mem_map]
  have hreferences : ([event.actorPrincipalId, event.targetId, event.caseRecordId,
      event.evidenceItemId, event.evaluationId].all fun ref => ref.all _UUID) = true ↔
      ∀ ref ∈ [(chomped event).actorPrincipalId, (chomped event).targetId,
        (chomped event).caseRecordId, (chomped event).evidenceItemId,
        (chomped event).evaluationId], ∀ r ∈ ref, isUuid r.toList = true := by
    simp only [List.all_eq_true, List.forall_mem_cons, List.not_mem_nil, false_imp_iff, implies_true,
      reference_iff, chomped]
  have hdigest : event.bundleContentDigest.all _SHA256 = true ↔
      ∀ d ∈ (chomped event).bundleContentDigest, hexGroup 64 d.toList = true := by
    unfold chomped
    cases event.bundleContentDigest with
    | none => simp
    | some d =>
      rw [Option.all_some, _SHA256, anchored_iff (oneLine_hexGroup 64)]
      simp
  have hcorrelation : _UUID event.correlationId = true ↔
      isUuid (chomped event).correlationId.toList = true := by
    rw [_UUID, anchored_iff oneLine_isUuid]
    rfl
  unfold validate
  cases hallowed : SAFE_METADATA.lookup event.eventType with
  | none =>
    refine iff_of_false nofun fun h => ?_
    obtain ⟨allowed, hlookup, -⟩ := h.metadata
    rw [chomped, hallowed] at hlookup
    cases hlookup
  | some allowed =>
    simp only [Bool.and_eq_true]
    rw [hmetadata, hreferences, hdigest, hcorrelation]
    constructor
    · rintro ⟨⟨⟨hm, hr⟩, hd⟩, hc⟩
      exact ⟨⟨allowed, hallowed, hm⟩, hr, hd, hc⟩
    · rintro ⟨⟨allowed', hlookup, hm⟩, hr, hd, hc⟩
      cases hallowed.symm.trans hlookup
      exact ⟨⟨⟨hm, hr⟩, hd⟩, hc⟩

/-! ### The exact condition -/

lemma mem_texts {event : AuditEvent} {s : String} : s ∈ texts event ↔
    (∃ metadata ∈ event.safeMetadata, ∃ e ∈ metadata.1, e.2 = .str s) ∨
      some s ∈ [event.actorPrincipalId, event.targetId, event.caseRecordId,
        event.evidenceItemId, event.evaluationId, event.bundleContentDigest,
        some event.correlationId] := by
  have hstr : ∀ j : Json, j.str? = some s ↔ j = .str s := by
    intro j
    cases j <;> simp [Json.str?]
  rw [texts, List.mem_append]
  refine or_congr ?_ (by simp [List.mem_filterMap])
  simp only [List.mem_flatMap, Option.mem_toList, List.mem_filterMap, hstr, Option.mem_def]

/-- The texts of an exact event end in no line break. -/
lemma Exact.not_endsInLineFeed {event : AuditEvent} (h : Exact event) {s : String}
    (hs : s ∈ texts event) : ¬EndsInLineFeed s := by
  rcases mem_texts.mp hs with ⟨metadata, hmetadata, e, he, hes⟩ | hs
  · obtain ⟨allowed, -, hall⟩ := h.metadata
    obtain ⟨kind, t, -, het, hwords⟩ := hall metadata hmetadata e he
    cases hes.symm.trans het
    exact kind.oneLine_words.not_endsInLineFeed hwords
  · have hword : isUuid s.toList = true ∨ hexGroup 64 s.toList = true := by
      have href := h.references (some s)
      simp only [List.mem_cons, List.not_mem_nil, or_false] at hs href
      rcases hs with hs | hs | hs | hs | hs | hs | hs
      · exact .inl (href (.inl hs) s rfl)
      · exact .inl (href (.inr (.inl hs)) s rfl)
      · exact .inl (href (.inr (.inr (.inl hs))) s rfl)
      · exact .inl (href (.inr (.inr (.inr (.inl hs)))) s rfl)
      · exact .inl (href (.inr (.inr (.inr (.inr hs)))) s rfl)
      · exact .inr (h.digest s hs.symm)
      · exact .inl (Option.some.inj hs ▸ h.correlation)
    rcases hword with hword | hword
    · exact oneLine_isUuid.not_endsInLineFeed hword
    · exact (oneLine_hexGroup 64).not_endsInLineFeed hword

lemma chomped_eq {event : AuditEvent} (h : ∀ s ∈ texts event, ¬EndsInLineFeed s) :
    chomped event = event := by
  have hfield : ∀ field ∈ [event.actorPrincipalId, event.targetId, event.caseRecordId,
      event.evidenceItemId, event.evaluationId, event.bundleContentDigest,
      some event.correlationId], field.map chomp = field := by
    intro field hfield
    cases field with
    | none => rfl
    | some s => exact congrArg some (chomp_of_not_endsInLineFeed (h s (mem_texts.mpr (.inr hfield))))
  have hvalue : ∀ metadata ∈ event.safeMetadata, ∀ e ∈ metadata.1, chompValue e.2 = e.2 := by
    intro metadata hmetadata e he
    cases hv : e.2 with
    | str s =>
      have hs := h s (mem_texts.mpr (.inl ⟨metadata, hmetadata, e, he, hv⟩))
      exact congrArg Json.str (chomp_of_not_endsInLineFeed hs)
    | null | bool | int | float | arr | obj => rfl
  simp only [List.forall_mem_cons] at hfield
  obtain ⟨hactor, htarget, hcase, hevidence, hevaluation, hdigest, hcorrelation, -⟩ := hfield
  have hmetadata : (chomped event).safeMetadata = event.safeMetadata := by
    unfold chomped
    cases hm : event.safeMetadata with
    | none => rfl
    | some metadata =>
      refine congrArg some (Subtype.ext ?_)
      have hsame : ∀ e ∈ metadata.1, (e.1, chompValue e.2) = e := fun e he => by
        rw [hvalue metadata hm e he]
      exact (List.map_congr_left hsame).trans (List.map_id _)
  have hcorrelation : chomp event.correlationId = event.correlationId :=
    Option.some.inj hcorrelation
  unfold chomped at hmetadata ⊢
  simp only at hmetadata
  rw [hmetadata, hactor, htarget, hcase, hevidence, hevaluation, hdigest, hcorrelation]

/-- The words of `KEY_PATTERN`. -/
def keyWords (cs : List Char) : Bool :=
  16 ≤ cs.length && cs.length ≤ 255 && cs.all fun c =>
    isAlpha c || isAsciiDigit c || ['.', '_', '~', '-'].contains c

lemma oneLine_keyWords : OneLine keyWords := by
  intro cs h hmem
  rw [keyWords, Bool.and_eq_true, List.all_eq_true] at h
  exact absurd (h.2 _ hmem) (by decide)

/-- The validator accepts exactly the allowed events unless an event is allowed but for a line break
that one of its texts ends in; a refused event is not written. The format checks of a key and of a
digest err in the same way only. -/
theorem allowlist_exact_iff (event : AuditEvent) (key digest : String) :
    ((validate event = true ↔ Exact event) ↔
        ¬(Exact (chomped event) ∧ ∃ s ∈ texts event, EndsInLineFeed s)) ∧
      (validate event = false → ∀ lib chain id chainId now,
        append lib chain event id chainId now = .error .ValueError) ∧
      ((KnowledgeSeam.valid_key key = true ↔ keyWords key.toList = true) ↔
        ¬(keyWords (chomp key).toList = true ∧ EndsInLineFeed key)) ∧
      ((_SHA256 digest = true ↔ hexGroup 64 digest.toList = true) ↔
        ¬(hexGroup 64 (chomp digest).toList = true ∧ EndsInLineFeed digest)) := by
  refine ⟨?_, fun hrefused lib chain id chainId now => ?_, anchored_exact_iff oneLine_keyWords key,
    anchored_exact_iff (oneLine_hexGroup 64) digest⟩
  · rw [validate_iff]
    constructor
    · rintro hexact ⟨hchomped, s, hs, hend⟩
      exact (hexact.mp hchomped).not_endsInLineFeed hs hend
    · intro hno
      by_cases hend : ∃ s ∈ texts event, EndsInLineFeed s
      · obtain ⟨s, hs, hlast⟩ := hend
        exact iff_of_false (fun hchomped => hno ⟨hchomped, s, hs, hlast⟩)
          fun h => h.not_endsInLineFeed hs hlast
      · rw [chomped_eq fun s hs hlast => hend ⟨s, hs, hlast⟩]
  · rw [append, hrefused]
    rfl

/-- An activation whose reference ends in a line break is accepted. -/
theorem allowlist_line_break :
    ¬∀ event : AuditEvent, validate event = true ↔ Exact event := by
  intro h
  let event : AuditEvent :=
    { eventType := "KNOWLEDGE_ACTIVATION_REJECTED", outcome := "REJECTED", actorKind := "HUMAN"
      targetKind := "KNOWLEDGE_BUNDLE", correlationId := "00000000-0000-4000-8000-000000000001"
      actorPrincipalId := none, targetId := none
      safeMetadata := some ⟨[("governance_change_ref", .str "CHG-1\n")], by decide⟩
      occurredAt := none, caseRecordId := none, evidenceItemId := none, evaluationId := none
      bundleContentDigest := none }
  have hexact := (h event).mp (by decide +kernel)
  exact hexact.not_endsInLineFeed (mem_texts.mpr (.inl ⟨_, rfl, _, List.mem_cons_self, rfl⟩))
    (by decide)

end TrustLens.Backend.AuditChain
