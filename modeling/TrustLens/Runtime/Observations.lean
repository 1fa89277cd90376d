import TrustLens.Runtime.Condition

/-!
# The governed observation context

The evaluator reads indicator observations and the normalized observations they
reference. `buildValidatedContext` is the only way in: both contracts are checked
as JSON, then decoded, and the invariants between the two lists are enforced. A
`Context` carries those invariants, so later stages do not check them again.
-/

namespace TrustLens.Runtime

/-- `MATCHED_STATES`, which are also the `OBSERVATION_STATUSES`. -/
inductive Status where
  | OBSERVED
  | NOT_OBSERVED
  | UNKNOWN
  | AMBIGUOUS
  | NOT_APPLICABLE
deriving DecidableEq

/-- `CONFIDENCE_LEVELS` -/
inductive Level where
  | LOW
  | MEDIUM
  | HIGH
deriving DecidableEq

/-- The registry class an indicator observation carries. -/
inductive Polarity where
  | POSITIVE
  | NEGATIVE
deriving DecidableEq

inductive StructuralPolarity where
  | AFFIRMED
  | NEGATED
deriving DecidableEq

inductive Attribution where
  | FIRST_PARTY
  | REPORTED
  | QUOTED
  | HYPOTHETICAL
deriving DecidableEq

inductive Mood where
  | DIRECTIVE
  | DESCRIPTIVE
  | INTERROGATIVE
deriving DecidableEq

inductive Verdict where
  | LIVE
  | NON_LIVE
  | UNRESOLVED
deriving DecidableEq

namespace Level

def rank : Level → ℕ
  | LOW => 1
  | MEDIUM => 2
  | HIGH => 3

lemma rank_injective : Function.Injective rank := by
  intro a b h
  cases a <;> cases b <;> simp_all [rank]

instance : LinearOrder Level := LinearOrder.lift' rank rank_injective

def name : Level → String
  | LOW => "LOW"
  | MEDIUM => "MEDIUM"
  | HIGH => "HIGH"

def ofString? : String → Option Level
  | "LOW" => some LOW
  | "MEDIUM" => some MEDIUM
  | "HIGH" => some HIGH
  | _ => none

end Level

def Status.ofString? : String → Option Status
  | "OBSERVED" => some .OBSERVED
  | "NOT_OBSERVED" => some .NOT_OBSERVED
  | "UNKNOWN" => some .UNKNOWN
  | "AMBIGUOUS" => some .AMBIGUOUS
  | "NOT_APPLICABLE" => some .NOT_APPLICABLE
  | _ => none

def Polarity.ofString? : String → Option Polarity
  | "POSITIVE" => some .POSITIVE
  | "NEGATIVE" => some .NEGATIVE
  | _ => none

def StructuralPolarity.ofString? : String → Option StructuralPolarity
  | "AFFIRMED" => some .AFFIRMED
  | "NEGATED" => some .NEGATED
  | _ => none

def Attribution.ofString? : String → Option Attribution
  | "FIRST_PARTY" => some .FIRST_PARTY
  | "REPORTED" => some .REPORTED
  | "QUOTED" => some .QUOTED
  | "HYPOTHETICAL" => some .HYPOTHETICAL
  | _ => none

def Mood.ofString? : String → Option Mood
  | "DIRECTIVE" => some .DIRECTIVE
  | "DESCRIPTIVE" => some .DESCRIPTIVE
  | "INTERROGATIVE" => some .INTERROGATIVE
  | _ => none

def Status.name : Status → String
  | OBSERVED => "OBSERVED"
  | NOT_OBSERVED => "NOT_OBSERVED"
  | UNKNOWN => "UNKNOWN"
  | AMBIGUOUS => "AMBIGUOUS"
  | NOT_APPLICABLE => "NOT_APPLICABLE"

def Polarity.name : Polarity → String
  | POSITIVE => "POSITIVE"
  | NEGATIVE => "NEGATIVE"

def StructuralPolarity.name : StructuralPolarity → String
  | AFFIRMED => "AFFIRMED"
  | NEGATED => "NEGATED"

def Attribution.name : Attribution → String
  | FIRST_PARTY => "FIRST_PARTY"
  | REPORTED => "REPORTED"
  | QUOTED => "QUOTED"
  | HYPOTHETICAL => "HYPOTHETICAL"

def Mood.name : Mood → String
  | DIRECTIVE => "DIRECTIVE"
  | DESCRIPTIVE => "DESCRIPTIVE"
  | INTERROGATIVE => "INTERROGATIVE"

@[simp] lemma Level.ofString?_name (l : Level) : ofString? l.name = some l := by
  cases l <;> rfl

@[simp] lemma Status.ofString?_name (s : Status) : ofString? s.name = some s := by
  cases s <;> rfl

@[simp] lemma Polarity.ofString?_name (p : Polarity) : ofString? p.name = some p := by
  cases p <;> rfl

@[simp] lemma StructuralPolarity.ofString?_name (p : StructuralPolarity) :
    ofString? p.name = some p := by
  cases p <;> rfl

@[simp] lemma Attribution.ofString?_name (a : Attribution) : ofString? a.name = some a := by
  cases a <;> rfl

@[simp] lemma Mood.ofString?_name (m : Mood) : ofString? m.name = some m := by
  cases m <;> rfl

/-- One extractor assertion about one indicator occurrence. -/
structure IndicatorObservation where
  indicatorId : String
  matched : Status
  polarity : Option Polarity
  confidence : Option Level
  observationRefs : List String
  supportingSpans : List Json
  extractionMethod : Option String
  inputId : Option String
deriving DecidableEq

/-- The fields of a normalized observation that structural eligibility reads. -/
structure Observation where
  observationId : String
  status : Status
  sourceInputId : Option String
  polarity : StructuralPolarity
  attribution : Attribution
  mood : Mood
  observationType : Option String
deriving DecidableEq

/-! ### The two input contracts -/

namespace Contract

open Schema

/-- `$defs/id` -/
def id : Validator :=
  pattern (anchored (headTail (fun c => isAlpha c || isAsciiDigit c)
    (fun c => isAlpha c || isAsciiDigit c || "_.:-".toList.contains c) 1 127))

/-- The subtags after the primary language, each led by a hyphen. -/
def subtags : List Char → Bool
  | [] => true
  | cs =>
    (cs.splitOn '-').head? == some [] &&
      ((cs.splitOn '-').drop 1).all fun t => 2 ≤ t.length && t.length ≤ 8 && t.all isAlpha

/-- `^[a-z]{2,3}(-[A-Za-z]{2,8})*$` -/
def language : Validator :=
  pattern (anchored fun cs =>
    let primary := cs.takeWhile isLower
    2 ≤ primary.length && primary.length ≤ 3 && subtags (cs.dropWhile isLower))

/-- `^[A-Z][a-z]{3}$` -/
def script : Validator := pattern (anchored (headTail isUpper isLower 3 3))

/-- `^FAM-[A-Z0-9-]{2,48}$` -/
def familyRef : Validator :=
  pattern (anchored fun cs =>
    cs.take 4 == "FAM-".toList && 2 ≤ (cs.drop 4).length && (cs.drop 4).length ≤ 48 &&
      (cs.drop 4).all fun c => isUpper c || isAsciiDigit c || c == '-')

/-- `^(CH|FO|TM|SE|UA|PH)-\d{2}$`: the digits are any Unicode decimal digits. -/
def dimensionRef : Validator :=
  pattern (anchored fun cs =>
    ["CH-", "FO-", "TM-", "SE-", "UA-", "PH-"].any (fun p => cs.take 3 == p.toList) &&
      cs.length == 5 && (cs.drop 3).all PyText.isDigit)

def span : Validator :=
  object ["start", "end"] [("start", integerFrom 0), ("end", integerFrom 0)]

def confidence : Validator :=
  object ["level"]
    [("level", enum ["HIGH", "MEDIUM", "LOW"]),
     ("score", unitNumber),
     ("method", enum ["CATEGORICAL", "NUMERIC", "HYBRID"])]

def extractorTypes : List String :=
  ["DETERMINISTIC_PATTERN", "PARSER", "NER_MODEL", "CLASSIFIER", "LLM", "VISION", "OCR",
   "USER_SUPPLIED", "SYSTEM_METADATA"]

def extractorProvenance (types : List String) : Validator :=
  object ["extractor_id", "extractor_type", "extractor_version"]
    [("extractor_id", string),
     ("extractor_type", enum types),
     ("extractor_version", string),
     ("config_ref", string)]

def statuses : List String :=
  ["OBSERVED", "NOT_OBSERVED", "UNKNOWN", "AMBIGUOUS", "NOT_APPLICABLE"]

/-- `indicator-observation.schema.json` -/
def indicatorObservation : Validator :=
  object ["indicator_id", "polarity", "matched", "input_id", "provenance"]
    [("indicator_id", pattern Condition.indicatorId),
     ("indicator_version", string),
     ("polarity", enum ["POSITIVE", "NEGATIVE"]),
     ("matched", enum statuses),
     ("confidence", confidence),
     ("observation_refs", uniqueArray id 0),
     ("supporting_spans", array span 0),
     ("input_id", id),
     ("language", language),
     ("script", script),
     ("extraction_method", enum (extractorTypes ++ ["COMPOSED"])),
     ("family_ref", familyRef),
     ("review_required", boolean),
     ("provenance", extractorProvenance (extractorTypes ++ ["COMPOSED"]))]

/-- `observation.schema.json` -/
def observation : Validator :=
  object ["observation_id", "observation_type", "source_input_id", "status", "provenance"]
    [("observation_id", id),
     ("observation_type", enum
       ["ENTITY", "ACTION", "CLAIM", "REQUEST", "THREAT", "PROMISE", "IDENTITY_ASSERTION",
        "PAYMENT_CONTEXT", "DEVICE_ACTION", "LINK_ACTION", "AUTHENTICATION_ACTION",
        "TEMPORAL_PRESSURE", "RELATIONSHIP_CONTEXT"]),
     ("source_input_id", id),
     ("status", enum statuses),
     ("polarity", enum ["AFFIRMED", "NEGATED"]),
     ("attribution", enum ["FIRST_PARTY", "REPORTED", "QUOTED", "HYPOTHETICAL"]),
     ("mood", enum ["DIRECTIVE", "DESCRIPTIVE", "INTERROGATIVE"]),
     ("canonical_value", string),
     ("normalized_value", string),
     ("raw_span", string),
     ("offsets", span),
     ("confidence", confidence),
     ("language", language),
     ("script", script),
     ("actor", object []
       [("claimed_identity", string),
        ("verified", enum ["YES", "NO", "UNKNOWN"]),
        ("party_ref", enum ["ACTOR", "RECIPIENT", "THIRD_PARTY"])]),
     ("action", object [] [("type", string), ("dimension_ref", dimensionRef)]),
     ("target", object []
       [("amount", number),
        ("currency", string),
        ("recipient_label", string),
        ("credential_kind", enum
          ["OTP", "UPI_PIN", "CVV", "CARD_NUMBER", "PASSWORD", "LINKING_CODE", "OTHER"]),
        ("instrument", string)]),
     ("payment_direction", enum ["USER_PAYS", "USER_RECEIVES", "UNKNOWN_DIRECTION"]),
     ("pressure", object []
       [("kind", enum
          ["URGENCY", "DEADLINE", "SCARCITY", "THREAT", "ISOLATION", "SECRECY", "NONE"]),
        ("threat_of", string),
        ("dimension_ref", dimensionRef)]),
     ("pretext", object [] [("kind", string)]),
     ("url_ref", id),
     ("provenance", extractorProvenance extractorTypes),
     ("derived_from", array id 0)]

end Contract

/-! ### Rejections and decoding -/

inductive Record where
  | indicatorObservation
  | normalizedObservation
deriving DecidableEq

/-- Every way the boundary rejects its input; all are a `ValueError`. -/
inductive ContextError where
  /-- non-finite number is not valid JSON -/
  | nonFinite (source : Record)
  /-- the record must be an object -/
  | notAnObject (record : Record)
  /-- the record fails its schema -/
  | schema (record : Record)
  /-- duplicate normalized observation_id -/
  | duplicateObservation (id : String)
  /-- cross-input evidence forbidden: multiple input ids in one context -/
  | crossInput (ids : List String)
  /-- dangling ref rejected -/
  | danglingRef (indicator ref : String)
  /-- cross-input reference -/
  | crossInputRef (indicator ref : String)
  /-- contradictory governed pair: OBSERVED on a NOT_OBSERVED or NOT_APPLICABLE backing -/
  | contradictory (indicator ref : String)
deriving DecidableEq

/-- `Observation.from_dict`, with the defaults of the schema. -/
def Observation.fromDict (d : Json) : Option Observation := do
  let field (key : String) (dflt : String) : String := ((d.get? key).getD (.str dflt)).str?.getD ""
  return {
    observationId := ← (d.get "observation_id").str?
    status := ← Status.ofString? (field "status" "OBSERVED")
    sourceInputId := (d.get "source_input_id").str?
    polarity := ← StructuralPolarity.ofString? (field "polarity" "AFFIRMED")
    attribution := ← Attribution.ofString? (field "attribution" "FIRST_PARTY")
    mood := ← Mood.ofString? (field "mood" "DIRECTIVE")
    observationType := (d.get "observation_type").str? }

/-- `IndicatorObservation._decode`; a confidence object is reduced to its level. -/
def IndicatorObservation.decode (d : Json) : Option IndicatorObservation := do
  let conf := if (d.get "confidence").isObj then (d.get "confidence").get "level"
    else d.get "confidence"
  return {
    indicatorId := ← (if (d.get "indicator_id").truthy then d.get "indicator_id"
      else d.get "id").str?
    matched := ← Status.ofString? (← (d.get "matched").str?)
    polarity := (d.get "polarity").str? >>= Polarity.ofString?
    confidence := ← if conf = .null then some none
      else (conf.str? >>= Level.ofString?).map some
    observationRefs := (d.get "observation_refs").strings?.getD []
    supportingSpans := (d.get "supporting_spans").items
    extractionMethod := (d.get "extraction_method").str?
    inputId := (d.get "input_id").str? }

/-! ### Structural verdicts -/

/-- `observation_verdict` -/
def observationVerdict (o : Observation) : Verdict :=
  if o.status = .UNKNOWN ∨ o.status = .AMBIGUOUS then .UNRESOLVED
  else if o.status = .NOT_OBSERVED ∨ o.status = .NOT_APPLICABLE then .NON_LIVE
  else if o.polarity = .NEGATED ∨
      o.attribution ∈ [Attribution.REPORTED, .QUOTED, .HYPOTHETICAL] then .NON_LIVE
  else if o.polarity = .AFFIRMED ∧ o.attribution = .FIRST_PARTY ∧ o.mood ≠ .DESCRIPTIVE then .LIVE
  else .NON_LIVE

/-- `observations_by_id` -/
def observationById (observations : List Observation) (id : String) : Option Observation :=
  observations.find? (·.observationId == id)

/-- `structural_verdict`: all references must resolve and agree. -/
def structuralVerdict (observations : List Observation) (io : IndicatorObservation) : Verdict :=
  if io.observationRefs = [] then .UNRESOLVED
  else
    let resolved := io.observationRefs.filterMap (observationById observations)
    if resolved.length ≠ io.observationRefs.length then .UNRESOLVED
    else if ∀ o ∈ resolved, observationVerdict o = .LIVE then .LIVE
    else if ∀ o ∈ resolved, observationVerdict o = .NON_LIVE then .NON_LIVE
    else .UNRESOLVED

/-! ### The context -/

/-- A matched indicator rests on nothing that was not observed. -/
def Consistent (io : IndicatorObservation) (o : Observation) : Prop :=
  (∀ i s, io.inputId = some i → o.sourceInputId = some s → s = i) ∧
    (io.matched = .OBSERVED → o.status ≠ .NOT_OBSERVED ∧ o.status ≠ .NOT_APPLICABLE)

/-- `EvaluationObservationContext` -/
structure Context where
  indicatorObservations : List IndicatorObservation
  observations : List Observation
  contextInputId : Option String
  language : String
  script : String
  observations_nodup : (observations.map Observation.observationId).Nodup
  refs_resolve : ∀ io ∈ indicatorObservations, ∀ ref ∈ io.observationRefs,
    ∃ o, observationById observations ref = some o ∧ Consistent io o

namespace Context

variable (ctx : Context)

def observationsFor (id : String) : List IndicatorObservation :=
  ctx.indicatorObservations.filter (·.indicatorId == id)

def presentIndicatorIds : List String :=
  sortedUnique (ctx.indicatorObservations.map IndicatorObservation.indicatorId)

def verdict (io : IndicatorObservation) : Verdict := structuralVerdict ctx.observations io

variable {ctx}

@[simp] lemma mem_observationsFor {id : String} {io : IndicatorObservation} :
    io ∈ ctx.observationsFor id ↔ io ∈ ctx.indicatorObservations ∧ io.indicatorId = id := by
  simp [observationsFor]

lemma mem_presentIndicatorIds {id : String} :
    id ∈ ctx.presentIndicatorIds ↔ ctx.observationsFor id ≠ [] := by
  rw [presentIndicatorIds, mem_sortedUnique, List.mem_map]
  simp [observationsFor]

/-- The observation a reference of a context resolves to. -/
lemma exists_backing {io : IndicatorObservation} (hio : io ∈ ctx.indicatorObservations)
    {ref : String} (href : ref ∈ io.observationRefs) :
    ∃ o ∈ ctx.observations, o.observationId = ref ∧ Consistent io o := by
  obtain ⟨o, ho, hc⟩ := ctx.refs_resolve io hio ref href
  exact ⟨o, List.mem_of_find?_eq_some ho, by simpa using List.find?_some ho, hc⟩

end Context

/-! ### `build_validated_context` -/

/-- The observation loop; `seen` holds the ids read so far. -/
def decodeObservations (seen : List String) : List Json → Except ContextError (List Observation)
  | [] => .ok []
  | raw :: rest =>
    if raw.isObj = false then .error (.notAnObject .normalizedObservation)
    else if Contract.observation raw = false then .error (.schema .normalizedObservation)
    else
      match Observation.fromDict raw with
      | none => .error (.schema .normalizedObservation)
      | some o =>
        if o.observationId ∈ seen then .error (.duplicateObservation o.observationId)
        else
          match decodeObservations (o.observationId :: seen) rest with
          | .error e => .error e
          | .ok os => .ok (o :: os)

def decodeIndicators : List Json → Except ContextError (List IndicatorObservation)
  | [] => .ok []
  | raw :: rest =>
    if raw.isObj = false then .error (.notAnObject .indicatorObservation)
    else if Contract.indicatorObservation raw = false then .error (.schema .indicatorObservation)
    else
      match IndicatorObservation.decode raw with
      | none => .error (.schema .indicatorObservation)
      | some io =>
        match decodeIndicators rest with
        | .error e => .error e
        | .ok ios => .ok (io :: ios)

/-- What is wrong with one reference, in the order of the checks. -/
def refFault (observations : List Observation) (io : IndicatorObservation) (ref : String) :
    Option ContextError :=
  match observationById observations ref with
  | none => some (.danglingRef io.indicatorId ref)
  | some o =>
    if io.inputId.isSome ∧ o.sourceInputId.isSome ∧ o.sourceInputId ≠ io.inputId then
      some (.crossInputRef io.indicatorId ref)
    else if io.matched = .OBSERVED ∧ (o.status = .NOT_OBSERVED ∨ o.status = .NOT_APPLICABLE) then
      some (.contradictory io.indicatorId ref)
    else none

def refFaults (observations : List Observation) (ios : List IndicatorObservation) :
    List ContextError :=
  ios.flatMap fun io => io.observationRefs.filterMap (refFault observations io)

lemma observations_nodup_of_decode {seen : List String} {raws : List Json} {os : List Observation}
    (h : decodeObservations seen raws = .ok os) :
    (os.map Observation.observationId).Nodup ∧ ∀ o ∈ os, o.observationId ∉ seen := by
  induction raws generalizing seen os with
  | nil =>
    simp only [decodeObservations, Except.ok.injEq] at h
    subst h
    simp
  | cons raw rest ih =>
    simp only [decodeObservations] at h
    split_ifs at h
    split at h
    · simp at h
    · rename_i o _
      split_ifs at h with hseen
      split at h
      · simp at h
      · rename_i os' hrest
        simp only [Except.ok.injEq] at h
        subst h
        obtain ⟨hn, hd⟩ := ih hrest
        refine ⟨?_, ?_⟩
        · rw [List.map_cons, List.nodup_cons]
          refine ⟨?_, hn⟩
          intro hmem
          obtain ⟨o', ho', heq⟩ := List.mem_map.mp hmem
          exact hd o' ho' (heq ▸ List.mem_cons_self)
        · intro o' ho'
          rcases List.mem_cons.mp ho' with rfl | ho'
          · exact hseen
          · exact fun hs => hd o' ho' (List.mem_cons_of_mem _ hs)

lemma refFault_eq_none {observations : List Observation} {io : IndicatorObservation} {ref : String}
    (h : refFault observations io ref = none) :
    ∃ o, observationById observations ref = some o ∧ Consistent io o := by
  unfold refFault at h
  split at h
  · simp at h
  · rename_i o ho
    split_ifs at h with hinput hobs
    refine ⟨o, ho, ?_, ?_⟩
    · intro i s hi hs
      by_contra hne
      exact hinput ⟨by simp [hi], by simp [hs], by simp [hi, hs, hne]⟩
    · intro hm
      constructor <;> intro hst <;> exact hobs ⟨hm, by simp [hst]⟩

lemma refs_resolve_of_refFaults {observations : List Observation} {ios : List IndicatorObservation}
    (h : refFaults observations ios = []) :
    ∀ io ∈ ios, ∀ ref ∈ io.observationRefs,
      ∃ o, observationById observations ref = some o ∧ Consistent io o := by
  intro io hio ref href
  apply refFault_eq_none
  rw [refFaults, List.flatMap_eq_nil_iff] at h
  exact List.filterMap_eq_nil_iff.mp (h io hio) ref href

/-- `build_validated_context` -/
def buildValidatedContext (indicatorObservations observations : List Json)
    (language script : String) : Except ContextError Context :=
  if indicatorObservations.all Json.isFinite = false then .error (.nonFinite .indicatorObservation)
  else if observations.all Json.isFinite = false then .error (.nonFinite .normalizedObservation)
  else
    match hos : decodeObservations [] observations with
    | .error e => .error e
    | .ok os =>
      match decodeIndicators indicatorObservations with
      | .error e => .error e
      | .ok ios =>
        let allIds := sortedUnique
          (ios.filterMap IndicatorObservation.inputId ++ os.filterMap Observation.sourceInputId)
        if 1 < allIds.length then .error (.crossInput allIds)
        else
          match href : refFaults os ios with
          | e :: _ => .error e
          | [] => .ok {
              indicatorObservations := ios
              observations := os
              contextInputId := allIds.head?
              language := language
              script := script
              observations_nodup := (observations_nodup_of_decode hos).1
              refs_resolve := refs_resolve_of_refFaults href }

lemma observations_of_decode {seen : List String} {raws : List Json} {os : List Observation}
    (h : decodeObservations seen raws = .ok os) : os = raws.filterMap Observation.fromDict := by
  induction raws generalizing seen os with
  | nil =>
    simp only [decodeObservations, Except.ok.injEq] at h
    simp [← h]
  | cons raw rest ih =>
    simp only [decodeObservations] at h
    split_ifs at h
    split at h
    · simp at h
    · rename_i o ho
      split_ifs at h
      split at h
      · simp at h
      · rename_i os' hrest
        simp only [Except.ok.injEq] at h
        rw [List.filterMap_cons, ho, ← ih hrest, ← h]

lemma indicators_of_decode {raws : List Json} {ios : List IndicatorObservation}
    (h : decodeIndicators raws = .ok ios) : ios = raws.filterMap IndicatorObservation.decode := by
  induction raws generalizing ios with
  | nil =>
    simp only [decodeIndicators, Except.ok.injEq] at h
    simp [← h]
  | cons raw rest ih =>
    simp only [decodeIndicators] at h
    split_ifs at h
    split at h
    · simp at h
    · rename_i io hio
      split at h
      · simp at h
      · rename_i ios' hrest
        simp only [Except.ok.injEq] at h
        rw [List.filterMap_cons, hio, ← ih hrest, ← h]

/-- An accepted context holds the decoded records, in the order they were given. -/
theorem buildValidatedContext_ok {inds obs : List Json} {language script : String} {ctx : Context}
    (h : buildValidatedContext inds obs language script = .ok ctx) :
    ctx.indicatorObservations = inds.filterMap IndicatorObservation.decode ∧
      ctx.observations = obs.filterMap Observation.fromDict ∧
      ctx.language = language ∧ ctx.script = script := by
  unfold buildValidatedContext at h
  split_ifs at h
  split at h
  · simp at h
  · rename_i os hos
    split at h
    · simp at h
    · rename_i ios hios
      simp only at h
      split_ifs at h
      split at h
      · simp at h
      · simp only [Except.ok.injEq] at h
        subst h
        exact ⟨indicators_of_decode hios, observations_of_decode hos, rfl, rfl⟩

end TrustLens.Runtime
