import TrustLens.Backend.Recognition
import TrustLens.Runtime.Knowledge

/-!
# Governed extraction

`extractText` turns the submitted bytes into governed records: the envelope, the
normalized observations with their offsets, and the indicator observations that cite
them. Every record is checked against its contract, the active registries and the text
before it is returned.
-/

namespace TrustLens.Backend.Extraction

open TrustLens.Runtime (RuntimeKnowledge Level Status StructuralPolarity Attribution Mood Polarity
  buildValidatedContext)

/-! ### The envelope and link contracts -/

namespace Contract

open Schema TrustLens.Runtime.Contract

def languageTags : Validator := uniqueArray language 1

def scriptTags : Validator := uniqueArray script 1

/-- `^(CH-\d{2}|UNKNOWN)$` -/
def channel : Validator :=
  pattern (anchored fun cs =>
    cs == "UNKNOWN".toList ||
      (cs.take 3 == "CH-".toList && cs.length == 5 && (cs.drop 3).all PyText.isDigit))

def party : Validator :=
  object []
    [("display_name", string),
     ("handle", string),
     ("claimed_identity", string),
     ("is_known_contact", enum ["YES", "NO", "UNKNOWN"])]

def primitive : Validator :=
  object ["value"] [("value", string), ("normalized_value", string), ("span", span)]

/-- `url-observation.schema.json` -/
def urlObservation : Validator :=
  object ["url_id", "raw_url", "structural"]
    [("url_id", id),
     ("raw_url", string),
     ("normalized_url", string),
     ("span", span),
     ("structural", object ["flags"]
       [("scheme", string),
        ("hostname", string),
        ("registered_domain", string),
        ("subdomain", string),
        ("path", string),
        ("flags", object []
          [("shortened", boolean),
           ("obfuscated", boolean),
           ("punycode", boolean),
           ("ip_literal", boolean)])]),
     ("claimed_brand", string),
     ("assessments", object []
       [("domain_matches_claimed_brand", enum ["MATCH", "MISMATCH", "UNKNOWN"]),
        ("allowlist_result", enum ["ALLOWLISTED", "NOT_ALLOWLISTED", "NOT_EVALUATED"]),
        ("reputation_result", enum
          ["MALICIOUS", "SUSPICIOUS", "CLEAN", "UNKNOWN", "NOT_EVALUATED"])]),
     ("provenance", extractorProvenance extractorTypes)]

def extractedPrimitives : Validator :=
  object []
    [("urls", array urlObservation 0),
     ("phone_numbers", array primitive 0),
     ("email_addresses", array primitive 0),
     ("upi_ids", array primitive 0),
     ("payment_handles", array primitive 0),
     ("amounts", array
       (object ["value"] [("value", number), ("currency", string), ("span", span)]) 0),
     ("codes", array primitive 0)]

def privacy : Validator :=
  object []
    [("redaction", array
       (object ["class", "method"]
         [("class", enum
           ["PHONE", "EMAIL", "UPI_ID", "CARD_PAN", "OTP", "NAME", "ACCOUNT_NUMBER", "OTHER_PII"]),
          ("span", span),
          ("method", enum ["MASKED", "HASHED", "DROPPED"])]) 0),
     ("minimization_profile", string)]

def inputTypes : List String :=
  ["TEXT", "SMS", "CHAT_MESSAGE", "EMAIL", "URL", "OCR_TEXT", "SCREENSHOT_DERIVED_TEXT",
   "DOCUMENT_TEXT", "USER_NARRATIVE"]

/-- `input-envelope.schema.json` -/
def inputEnvelope : Validator :=
  object ["envelope_version", "input_id", "input_type", "content", "provenance"]
    [("envelope_version", enum ["1.0.0"]),
     ("input_id", id),
     ("input_type", enum inputTypes),
     ("source_channel", object ["value"] [("value", channel)]),
     ("content", object ["language", "script"]
       [("raw_text", string),
        ("normalized_text", string),
        ("language", languageTags),
        ("script", scriptTags),
        ("language_detection", object []
          [("method", enum ["DECLARED", "HEURISTIC", "CLASSIFIER", "UNKNOWN"]),
           ("confidence", enum ["HIGH", "MEDIUM", "LOW", "UNKNOWN"])])]),
     ("timestamp", string),
     ("actor", party),
     ("recipient", party),
     ("extracted_primitives", extractedPrimitives),
     ("attachments", array
       (object ["attachment_id", "media_type"]
         [("attachment_id", id),
          ("media_type", string),
          ("role", enum ["QR_IMAGE", "SCREENSHOT", "DOCUMENT", "OTHER"]),
          ("derived_text_input_id", id)]) 0),
     ("thread", object []
       [("thread_id", id), ("position", integerFrom 0), ("prior_input_ids", array id 0)]),
     ("user_supplied_context", object []
       [("relationship_to_content", enum
          ["RECEIVED", "SENT", "REPORTING_ON_BEHALF", "FORWARDED", "UNKNOWN"]),
        ("note", string)]),
     ("provenance", object ["received_via", "pipeline_stage"]
       [("received_via", enum ["USER_SUBMISSION", "API", "BATCH_IMPORT", "TEST_FIXTURE"]),
        ("pipeline_stage", enum ["INGESTED"]),
        ("normalizer", object ["id", "version"] [("id", string), ("version", string)]),
        ("synthetic", boolean)]),
     ("privacy", privacy)]

end Contract

/-! ### Knowledge, requests and faults -/

/-- The active bundle, with what only the extractor reads of it. -/
structure ActiveKnowledge extends RuntimeKnowledge where
  /-- each family with its indicator outputs -/
  families : List (String × List String)
  /-- the polarity an indicator record states; an absent one counts as POSITIVE -/
  indicatorPolarity : List (String × String)
  /-- the status a negative indicator states; an absent one counts as ACTIVE -/
  negativeStatus : List (String × String)

namespace ActiveKnowledge

variable (K : ActiveKnowledge)

def indicatorsForFamily (family : String) : List String :=
  ((K.families.find? (·.1 == family)).map Prod.snd).getD []

/-- `_family_of`: a later family overwrites an earlier one. -/
def familyOf (indicator : String) : Option String :=
  (K.families.reverse.find? fun f => f.2.contains indicator).map Prod.fst

def stated (values : List (String × String)) (key dflt : String) : String :=
  ((values.find? (·.1 == key)).map Prod.snd).getD dflt

end ActiveKnowledge

/-- What `extract_text` is called with. -/
structure Submission where
  data : ByteArray
  inputId : String
  inputType : String
  relationship : Option String := none
  synthetic : Bool := true
  receivedVia : String := "USER_SUBMISSION"
  source : Option Json := none

inductive Artefact where
  | envelope
  | observation
  | indicatorObservation
  | url
deriving DecidableEq

inductive ExtractionFault where
  | unavailable (category : String)
  | refused (category : String)
  /-- an `ExtractionContractError`: a record its schema rejects -/
  | rejected (artefact : Artefact)
  /-- an observation that is not grounded in the submitted text -/
  | ungrounded (observationId : String)
  /-- a positive indicator outside the active registry partition -/
  | notInPartition (indicatorId : String)
  /-- an indicator that is no output of its family -/
  | notAnOutput (indicatorId : String)
  /-- a negative indicator that is not ACTIVE -/
  | notActive (indicatorId : String)
  | verdictShapedKey (path : String)
  /-- governed validation rejected the extraction -/
  | context
  /-- an `IndexError` of the origin table -/
  | indexError
deriving DecidableEq

structure GovernedInput where
  inputId : String
  envelope : Json
  observations : List Json
  indicatorObservations : List Json
  inputSupportStatus : String
  language : List String
  script : List String
  wholeEvaluationErrors : List Json
  supportGaps : List String
  normalizationNotes : List String
  knowledgeContentDigest : String
  source : Option Json

/-! ### Observations -/

def ObsType.name : ObsType → String
  | ENTITY => "ENTITY"
  | CLAIM => "CLAIM"
  | THREAT => "THREAT"
  | IDENTITY_ASSERTION => "IDENTITY_ASSERTION"
  | PAYMENT_CONTEXT => "PAYMENT_CONTEXT"
  | DEVICE_ACTION => "DEVICE_ACTION"
  | LINK_ACTION => "LINK_ACTION"
  | AUTHENTICATION_ACTION => "AUTHENTICATION_ACTION"
  | TEMPORAL_PRESSURE => "TEMPORAL_PRESSURE"
  | RELATIONSHIP_CONTEXT => "RELATIONSHIP_CONTEXT"

def spanJson (start stop : ℕ) : Json := .obj [("start", .int start), ("end", .int stop)]

/-- An entry for a value that is not empty. -/
def entry (key : String) (fields : List (String × Json)) : List (String × Json) :=
  if fields.isEmpty then [] else [(key, .obj fields)]

def Frame.entries (frame : Frame) : List (String × Json) :=
  entry "actor" frame.actor ++ entry "action" frame.action ++ entry "target" frame.target ++
    entry "pressure" frame.pressure ++ entry "pretext" frame.pretext ++
    frame.paymentDirection.toList.map fun d => ("payment_direction", text d)

def Structure.entries (s : Structure) : List (String × Json) :=
  [("polarity", text s.polarity.name), ("attribution", text s.attribution.name),
   ("mood", text s.mood.name)]

section

variable (U : Unicode) (P : Pack)

/-- `PROVENANCE` -/
def provenance : Json :=
  .obj [("extractor_id", text "trustlens-deterministic-extractor"),
    ("extractor_type", text "DETERMINISTIC_PATTERN"), ("extractor_version", text "1.0.0"),
    ("config_ref", text P.configRef)]

/-- The observation a finding becomes. -/
def Finding.observation (inputId oid : String) (raw : Text) (f : Finding) : Json :=
  .obj ([("observation_id", text oid), ("observation_type", text f.obsType.name),
      ("source_input_id", text inputId), ("status", text f.status.name),
      ("provenance", provenance P), ("canonical_value", text f.canonical),
      ("raw_span", text (String.ofList raw)), ("offsets", spanJson f.start f.stop),
      ("confidence", .obj
        [("level", text (if f.status = .AMBIGUOUS then "MEDIUM" else "HIGH")),
         ("method", text "CATEGORICAL")])] ++
    (f.struct.toList.flatMap Structure.entries) ++ f.frame.entries ++
    f.urlRef.toList.map fun u => ("url_ref", text u))

/-- A finding with its position in the order of recognition and its id. -/
structure Placed where
  finding : Finding
  position : ℕ
  oid : String
deriving DecidableEq

/-- The order of the observations: by start, end, type and canonical value. -/
def Finding.Precedes (a b : Finding) : Prop :=
  a.start < b.start ∨ (a.start = b.start ∧ (a.stop < b.stop ∨ (a.stop = b.stop ∧
    (a.obsType.name < b.obsType.name ∨ (a.obsType.name = b.obsType.name ∧
      a.canonical ≤ b.canonical)))))

instance (a b : Finding) : Decidable (a.Precedes b) :=
  inferInstanceAs (Decidable (_ ∨ _))

def observationId (inputId : String) (n : ℕ) : String := inputId ++ ":o" ++ toString n

/-- Findings in text order, numbered from one. -/
def place (inputId : String) (findings : List Finding) : List Placed :=
  ((findings.zipIdx.insertionSort fun a b => a.1.Precedes b.1).zipIdx 1).map fun e =>
    ⟨e.1.1, e.1.2, observationId inputId e.2⟩

/-- `[ids[r] for r in entry[3]]` -/
def citedIds (placed : List Placed) (positions : List ℕ) : List String :=
  positions.filterMap fun n => (placed.find? (·.position == n)).map Placed.oid

/-- The ids an emission of a placed finding refers to. -/
def refsOf (placed : List Placed) (p : Placed) (e : Emission) : List String :=
  match e.cites with
  | some positions => citedIds placed positions
  | none => [p.oid]

def supportingSpans (placed : List Placed) (refs : List String) : List (ℕ × ℕ) :=
  ((placed.filter fun p => refs.contains p.oid).map fun p => p.finding.span).dedup.insertionSort
    fun a b => a.1 < b.1 ∨ (a.1 = b.1 ∧ a.2 ≤ b.2)

/-- The indicator observation an emission becomes. -/
def Emission.observation (K : ActiveKnowledge) (inputId : String) (lang : LanguageAssessment)
    (placed : List Placed) (p : Placed) (e : Emission) : Json :=
  let refs := refsOf placed p e
  let polarity : Polarity := if K.isPositive e.indicatorId then .POSITIVE else .NEGATIVE
  .obj ([("indicator_id", text e.indicatorId), ("polarity", text polarity.name),
      ("matched", text "OBSERVED"), ("input_id", text inputId),
      ("confidence", .obj [("level", text e.confidence.name), ("method", text "CATEGORICAL")]),
      ("observation_refs", .arr (refs.map text)),
      ("supporting_spans", .arr
        ((supportingSpans placed refs).map fun s => spanJson s.1 s.2)),
      ("language", text lang.language), ("script", text (lang.script.headD "")),
      ("extraction_method", text (if 1 < refs.length then "COMPOSED" else "DETERMINISTIC_PATTERN")),
      ("provenance", provenance P), ("review_required", .bool e.review)] ++
    if K.isPositive e.indicatorId then
      [("family_ref", ((K.familyOf e.indicatorId).map text).getD .null)]
    else [])

/-- An indicator observation with its sorting key. -/
def Emission.keyed (K : ActiveKnowledge) (inputId : String) (lang : LanguageAssessment)
    (placed : List Placed) (p : Placed) (e : Emission) : (String × String) × Json :=
  (((refsOf placed p e).headD "", e.indicatorId), e.observation P K inputId lang placed p)

/-- The indicator observations, ordered by first reference and id. -/
def indicatorsOf (K : ActiveKnowledge) (inputId : String) (lang : LanguageAssessment)
    (placed : List Placed) : List Json :=
  ((placed.flatMap fun p => p.finding.indicators.map (Emission.keyed P K inputId lang placed p)
    ).insertionSort fun a b =>
      a.1.1 < b.1.1 ∨ (a.1.1 = b.1.1 ∧ a.1.2 ≤ b.1.2)).map Prod.snd

/-- `raw[origin[start][0]:origin[end - 1][1]]` -/
def rawOf (raw : Text) (origins : List Origin) (start stop : ℕ) : Except ExtractionFault Text :=
  match origins[start]?, if stop = 0 then origins.getLast? else origins[stop - 1]? with
  | some a, some b => .ok (slice raw a.start b.stop)
  | _, _ => .error .indexError

def observationsOf (inputId : String) (raw : Text) (origins : List Origin)
    (placed : List Placed) : Except ExtractionFault (List Json) :=
  placed.mapM fun p => do
    let span ← rawOf raw origins p.finding.start p.finding.stop
    return p.finding.observation P inputId p.oid span

/-! ### Links and primitives -/

/-- `_url_observation` -/
def urlObservation (urlId : String) (link raw : Text) (start stop : ℕ) : Json :=
  let parts := urlParts U P link
  let tail := P.dropTracking (if parts.path.isEmpty then [] else '/' :: parts.path)
  let trimmed := (tail.reverse.dropWhile fun c => c == '?' || c == '&').reverse
  let normalized := ((parts.scheme.map fun s => (s ++ "://").toList).getD []) ++
    U.lower parts.authority ++ trimmed
  .obj [("url_id", text urlId), ("raw_url", text (String.ofList raw)),
    ("normalized_url", text (String.ofList normalized)), ("span", spanJson start stop),
    ("structural", .obj
      ([("hostname", text (String.ofList parts.hostname)),
        ("registered_domain", text (String.ofList parts.registered)),
        ("flags", .obj
          [("shortened", .bool parts.shortened), ("obfuscated", .bool parts.obfuscated),
           ("punycode", .bool parts.punycode), ("ip_literal", .bool parts.ipLiteral)])] ++
        (parts.scheme.toList.map fun s => ("scheme", text s)) ++
        (if parts.subdomain.isEmpty then []
          else [("subdomain", text (String.ofList parts.subdomain))]) ++
        if parts.path.isEmpty then []
          else [("path", text (String.ofList ('/' :: parts.path)))]))]

def urlObservations (msg : Message) (inputId : String) (raw : Text) (origins : List Origin) :
    Except ExtractionFault (List Json) :=
  msg.urlSpans.zipIdx.mapM fun e => do
    let span ← rawOf raw origins e.1.1 e.1.2
    return urlObservation U P (inputId ++ ":u" ++ toString (e.2 + 1))
      (slice msg.text e.1.1 e.1.2) span e.1.1 e.1.2

def amountPrimitive (normalized : Text) (m : Match) : Json :=
  let value := PyFloat.ofNumeral (((m.group? normalized "1").getD []).filter (· != ','))
  .obj [("value", value.toJson), ("currency", text "INR"), ("span", spanJson m.start m.stop)]

def primitive (value : Text) (m : Match) : Json :=
  .obj [("value", text (String.ofList value)), ("span", spanJson m.start m.stop)]

def group (key : String) (items : List Json) : List (String × Json) :=
  if items.isEmpty then [] else [(key, .arr items)]

/-- `_primitives`; a code is masked. -/
def primitives (normalized : Text) (urls : List Json) : List (String × Json) :=
  let codes := (P.findAll .digitCode normalized).filter fun m =>
    !P.occursIn .amountAtEnd (slice normalized (m.start - 8) m.stop)
  let matched (p : Pattern) : List Json :=
    (P.findAll p normalized).map fun m => primitive (m.text normalized) m
  group "urls" urls ++
    group "amounts" ((P.findAll .amount normalized).map (amountPrimitive normalized)) ++
    group "codes" (codes.map fun m => primitive (List.replicate (m.stop - m.start) '#') m) ++
    group "phone_numbers" (matched .phone) ++ group "upi_ids" (matched .upiHandle)

/-! ### Checks -/

def forbiddenKeys : List String :=
  ["verdict", "risk", "risk_score", "risk_level", "severity", "is_scam", "scam", "scam_verdict",
   "finding", "decision", "label", "classification", "malicious", "outcome"]

mutual
/-- `_forbidden`: the paths of the keys that look like a verdict. -/
def forbidden (path : String) : Json → List String
  | .obj es => forbiddenEntries path es
  | .arr js => forbiddenItems path 0 js
  | _ => []

def forbiddenEntries (path : String) : List (String × Json) → List String
  | [] => []
  | (k, v) :: rest =>
    (if forbiddenKeys.contains k then [path ++ "." ++ k] else []) ++
      (if k ≠ "confidence" then forbidden (path ++ "." ++ k) v else []) ++
      forbiddenEntries path rest

def forbiddenItems (path : String) (i : ℕ) : List Json → List String
  | [] => []
  | v :: rest => forbidden (path ++ "[" ++ toString i ++ "]") v ++ forbiddenItems path (i + 1) rest
end

def checkSchema (artefact : Artefact) (v : Schema.Validator) (item : Json) :
    Except ExtractionFault Unit :=
  if v item then .ok () else .error (.rejected artefact)

/-- Each observation lies in the text and quotes it. -/
def checkGrounded (normalized raw : Text) (origins : List Origin) (p : Placed) :
    Except ExtractionFault Unit :=
  if p.finding.start < p.finding.stop ∧ p.finding.stop ≤ normalized.length then do
    let _ ← rawOf raw origins p.finding.start p.finding.stop
    return ()
  else .error (.ungrounded p.oid)

/-- Each indicator belongs to the partition of the registry it was emitted for. -/
def checkRegistered (K : ActiveKnowledge) (id : String) : Except ExtractionFault Unit :=
  if K.isPositive id then
    if ActiveKnowledge.stated K.indicatorPolarity id "POSITIVE" ≠ "POSITIVE" then
      .error (.notInPartition id)
    else
      match K.familyOf id with
      | none => .error (.notInPartition id)
      | some family =>
        if family = "" then .error (.notInPartition id)
        else if (K.indicatorsForFamily family).contains id then .ok () else .error (.notAnOutput id)
  else if K.isNegative id && ActiveKnowledge.stated K.negativeStatus id "ACTIVE" == "ACTIVE" then
    .ok ()
  else .error (.notActive id)

/-- `_validate_artifacts` -/
def validateArtifacts (K : ActiveKnowledge) (normalized raw : Text) (origins : List Origin)
    (placed : List Placed) (observations indicators urls : List Json) :
    Except ExtractionFault Unit := do
  observations.forM (checkSchema .observation Runtime.Contract.observation)
  indicators.forM (checkSchema .indicatorObservation Runtime.Contract.indicatorObservation)
  urls.forM (checkSchema .url Contract.urlObservation)
  placed.forM (checkGrounded normalized raw origins)
  placed.forM fun p => p.finding.indicators.forM fun e => checkRegistered K e.indicatorId

/-! ### `extract_text` -/

def maxTextBytes : ℕ := 64 * 1024

def channelOf : String → String
  | "SMS" => "CH-01"
  | "CHAT_MESSAGE" => "CH-02"
  | "EMAIL" => "CH-03"
  | "URL" => "CH-07"
  | _ => "UNKNOWN"

/-- `[A-Za-z0-9][A-Za-z0-9_.:-]{1,100}` -/
def isInputId (s : String) : Bool :=
  Schema.headTail (fun c => Schema.isAlpha c || Schema.isAsciiDigit c)
    (fun c => Schema.isAlpha c || Schema.isAsciiDigit c || "_.:-".toList.contains c) 1 100 s.toList

/-- The envelope around a content and its primitives. -/
def envelopeOf (s : Submission) (content primitives : List (String × Json)) : Json :=
  .obj ([("envelope_version", text "1.0.0"), ("input_id", text s.inputId),
      ("input_type", text s.inputType),
      ("source_channel", .obj [("value", text (channelOf s.inputType))]),
      ("content", .obj content),
      ("provenance", .obj
        [("received_via", text s.receivedVia), ("pipeline_stage", text "INGESTED"),
         ("normalizer", .obj [("id", text "trustlens-text-normalizer"), ("version", text "1.0.0")]),
         ("synthetic", .bool s.synthetic)])] ++
    entry "extracted_primitives" primitives ++
    ((s.relationship.filter (· ≠ "")).toList.map fun r =>
      ("user_supplied_context", .obj [("relationship_to_content", text r)])))

def detection (method confidence : String) : Json :=
  .obj [("method", text method), ("confidence", text confidence)]

/-- `_error_input` -/
def errorInput (K : ActiveKnowledge) (s : Submission) (code message : String) :
    Except ExtractionFault GovernedInput := do
  let envelope := envelopeOf s
    [("language", .arr [text "und"]), ("script", .arr [text "Zzzz"]),
      ("language_detection", detection "UNKNOWN" "UNKNOWN")] []
  checkSchema .envelope Contract.inputEnvelope envelope
  return {
    inputId := s.inputId
    envelope := envelope
    observations := []
    indicatorObservations := []
    inputSupportStatus := "ERROR"
    language := ["und"]
    script := ["Zzzz"]
    wholeEvaluationErrors := [.obj [("scope", text "WHOLE_EVALUATION"),
      ("stage", text "EXTRACTION_MALFORMED"), ("code", text code), ("message", text message)]]
    supportGaps := []
    normalizationNotes := []
    knowledgeContentDigest := K.contentDigest
    source := s.source }

/-- The notes on what normalization changed. -/
def notesOf (raw normalized : Text) (assessment : LanguageAssessment) : List String :=
  (if normalized ≠ raw then ["UNICODE_NORMALIZED_OR_WHITESPACE_COLLAPSED"] else []) ++
    (if raw.any (invisible U) then ["INVISIBLE_FORMAT_CHARACTERS_REMOVED"] else []) ++
    if assessment.confusablesFolded then ["MIXED_SCRIPT_CONFUSABLES_FOLDED_FOR_MATCHING"] else []

/-- The support status of a decoded text. -/
def supportStatus (normalized : Text) (assessment : LanguageAssessment) (indicators : List Json)
    (gaps : List String) : String :=
  if normalized.any U.isAlpha = false then "INSUFFICIENT_INFORMATION"
  else if assessment.tooShort then "INSUFFICIENT_INFORMATION"
  else if assessment.supported = false then "UNSUPPORTED"
  else if assessment.words < minWords ∧ indicators = [] then "INSUFFICIENT_INFORMATION"
  else if gaps ≠ [] then "PARTIALLY_SUPPORTED"
  else "SUPPORTED"

/-- What is read of a decoded text before anything is checked. -/
structure Reading where
  origins : List Origin
  normalized : Text
  assessment : LanguageAssessment
  msg : Message

def readingOf (s : Submission) (raw : Text) : Reading :=
  let origins := normalize U raw
  let normalized := origins.map Origin.char
  let assessment := assessLanguage U P normalized
  { origins := origins
    normalized := normalized
    assessment := assessment
    msg := Message.of U P normalized assessment.matchText s.inputType s.relationship }

namespace Reading

variable (r : Reading)

/-- The findings of a text: none where the language is not supported. -/
def findings (inputId : String) : List Finding :=
  if r.assessment.supported then findAll U P r.msg inputId else []

def placed (inputId : String) : List Placed := place inputId (r.findings U P inputId)

def gaps : List String := if r.assessment.supported then gapsOf P r.msg else []

def urls (inputId : String) (raw : Text) : Except ExtractionFault (List Json) :=
  if r.assessment.supported then urlObservations U P r.msg inputId raw r.origins else .ok []

end Reading

/-- The governed input a reading becomes. -/
def governed (K : ActiveKnowledge) (s : Submission) (raw : Text) (r : Reading)
    (urls observations : List Json) : GovernedInput :=
  let indicators := indicatorsOf P K s.inputId r.assessment (r.placed U P s.inputId)
  { inputId := s.inputId
    envelope := envelopeOf s
      [("raw_text", text (String.ofList raw)),
        ("normalized_text", text (String.ofList r.normalized)),
        ("language", .arr [text r.assessment.language]),
        ("script", .arr (r.assessment.script.map text)),
        ("language_detection", detection "HEURISTIC" r.assessment.confidence)]
      (primitives P r.normalized urls)
    observations := observations
    indicatorObservations := indicators
    inputSupportStatus := supportStatus U r.normalized r.assessment indicators (r.gaps P)
    language := [r.assessment.language]
    script := r.assessment.script
    wholeEvaluationErrors := []
    supportGaps := r.gaps P
    normalizationNotes := notesOf U raw r.normalized r.assessment
    knowledgeContentDigest := K.contentDigest
    source := s.source }

/-- No artefact carries a key that looks like a verdict. -/
def checkKeys (g : GovernedInput) : Except ExtractionFault Unit :=
  match forbidden "$" g.envelope ++ forbidden "$" (.arr g.observations) ++
      forbidden "$" (.arr g.indicatorObservations) with
  | path :: _ => .error (.verdictShapedKey path)
  | [] => .ok ()

/-- The evaluator's own validation boundary, for what is evaluable. -/
def checkContext (g : GovernedInput) : Except ExtractionFault Unit :=
  if g.inputSupportStatus = "SUPPORTED" ∨ g.inputSupportStatus = "PARTIALLY_SUPPORTED" then
    match buildValidatedContext g.indicatorObservations g.observations (g.language.headD "")
        (g.script.headD "") with
    | .error _ => .error .context
    | .ok _ => .ok ()
  else .ok ()

/-- `extract_text` from the normalization on. -/
def extractDecoded (K : ActiveKnowledge) (s : Submission) (raw : Text) :
    Except ExtractionFault GovernedInput := do
  let r := readingOf U P s raw
  let urls ← r.urls U P s.inputId raw
  let observations ← observationsOf P s.inputId raw r.origins (r.placed U P s.inputId)
  let g := governed U P K s raw r urls observations
  checkSchema .envelope Contract.inputEnvelope g.envelope
  validateArtifacts K r.normalized raw r.origins (r.placed U P s.inputId) g.observations
    g.indicatorObservations urls
  checkKeys g
  checkContext g
  return g

/-- `data.decode("utf-8")` without a leading byte order mark. -/
def decode (data : ByteArray) : Option Text :=
  (String.fromUTF8? data).map fun s =>
    match s.toList with
    | c :: rest => if c = Char.ofNat 0xfeff then rest else c :: rest
    | [] => []

/-- `extract_text` -/
def extractText (knowledge : Option ActiveKnowledge) (s : Submission) :
    Except ExtractionFault GovernedInput :=
  match knowledge with
  | none => .error (.unavailable "KNOWLEDGE_NOT_READY")
  | some K =>
    if ActiveKnowledge.stated K.componentVersions "extraction_schemas" "" ≠ "1.0.0" then
      .error (.unavailable "EXTRACTION_SCHEMA_INCOMPATIBLE")
    else if Contract.inputTypes.contains s.inputType = false then
      .error (.refused "UNSUPPORTED_INPUT_TYPE")
    else if isInputId s.inputId = false then .error (.refused "INVALID_INPUT_ID")
    else if maxTextBytes < s.data.size then
      errorInput K s "INPUT_TOO_LARGE" "Input exceeds the 64 KiB text bound."
    else
      match decode s.data with
      | none => errorInput K s "INVALID_UTF8" "Input is not valid UTF-8 text."
      | some raw =>
        if raw.any (malformedControl U) then
          errorInput K s "CONTROL_CHARACTERS" "Input contains control characters."
        else extractDecoded U P K s raw

end

end TrustLens.Backend.Extraction
