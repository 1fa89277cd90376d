import Mathlib.Data.List.Sort
import TrustLens.Lib.PyText
import TrustLens.Runtime.Observations

/-!
# The submitted message

What the extractor reads before it recognises anything: the normalized text with the
origin of every character, the language it assesses, and the quotes, clauses and
links of the message, from which the polarity, the attribution and the mood of an
occurrence are read off. Pattern matching and the Unicode tables are parameters.
-/

namespace TrustLens.Backend.Extraction

open TrustLens.Runtime (StructuralPolarity Attribution Mood)

abbrev Text := List Char

def slice (text : Text) (start stop : ℕ) : Text := (text.drop start).take (stop - start)

lemma mem_slice {text : Text} {a b x : ℕ} {c : Char} (hc : text[x]? = some c) (ha : a ≤ x)
    (hb : x < b) : c ∈ slice text a b := by
  refine List.mem_of_getElem? (i := x - a) ?_
  rw [slice, List.getElem?_take_of_lt (by omega), List.getElem?_drop]
  rwa [Nat.add_sub_cancel' ha]

/-- The patterns of the pack the extractor searches for, and those written where they are used. -/
inductive Pattern where
  | credentialRequest | credentialPronoun | otpDelivered | otpMention
  | upiPin | directionReceive | directionPay
  | immediatePayment | paymentDemand | upfrontFee | explicitNoFee
  | jobContext | jobGuarantee | unsolicitedOffer | claimedRelative | scarcity
  | paymentContext | depositForEarnings | withdrawalBlocked | taskEarning | offPlatform
  | investment | parcel | newNumber
  | accountBlock | suspension | serviceSubject | arrest | legalAccusation
  | secrecy | isolation | discouragesVerification | urgency | urgencyContextual | deadline
  | kyc | verificationPretext | verifyAtLink | verificationContext
  | benignCue | itSupport | itSupportTask
  | screenShare | apkInstall | accessibility | ussdDial | deviceLinking | walletConnect
  | qrMention | qrScan | attachment | returnGuarantee | bankClaim | authorityClaim
  | educational | officialChannel | url | bareDomain
  | negation | contrast | negationExempt | conditionalCoercion | reportedFrame
  | hypotheticalFrame | firstPersonPlural | directivePrefix | discourseMarker
  | clauseSplit | sentenceSplit
  -- written inline
  | amount | codeWord | codeQualifier | refundWord | ifYou | quotation | word | scheme
  | digitCode | amountAtEnd | phone | upiHandle
deriving DecidableEq

/-- A match, with the bounds of the groups that took part in it. -/
structure Match where
  start : ℕ
  stop : ℕ
  groups : List (String × ℕ × ℕ) := []
deriving DecidableEq

/-- `m.group(name)`, a slice of the text that was searched. -/
def Match.group? (m : Match) (text : Text) (name : String) : Option Text :=
  (m.groups.find? (·.1 == name)).map fun g => slice text g.2.1 g.2.2

def Match.text (m : Match) (text : Text) : Text := slice text m.start m.stop

/-- The Unicode character database. -/
structure Unicode where
  category : Char → String
  name : Char → String
  isAlpha : Char → Bool
  nfkc : Text → Text
  lower : Text → Text

/-- The versioned pattern pack: the compiled patterns and the word lists. -/
structure Pack where
  /-- `finditer(text, pos, endpos)` -/
  finditer : Pattern → Text → ℕ → ℕ → List Match
  /-- `match(text)`: whether the pattern matches at the start -/
  matchesAtStart : Pattern → Text → Bool
  /-- the substitution that drops the tracking parameters of a path -/
  dropTracking : Text → Text
  tlds : List String
  shorteners : List String
  secondLevel : List String
  enWords : List Text
  hiWords : List Text
  euWords : List Text
  confusables : List (Char × Char)
  configRef : String

namespace Pack

variable (P : Pack)

def findAll (p : Pattern) (text : Text) : List Match := P.finditer p text 0 text.length

/-- `search(text)`: the first match. -/
def search (p : Pattern) (text : Text) : Option Match := (P.findAll p text).head?

def searchIn (p : Pattern) (text : Text) (pos endpos : ℕ) : Option Match :=
  (P.finditer p text pos endpos).head?

def occursIn (p : Pattern) (text : Text) : Bool := (P.search p text).isSome

/-- `sub("", text, count=1)` -/
def removeFirst (p : Pattern) (text : Text) : Text :=
  match P.search p text with
  | some m => text.take m.start ++ text.drop m.stop
  | none => text

def fold (c : Char) : Option Char := (P.confusables.find? (·.1 == c)).map Prod.snd

end Pack

/-! ### Normalization -/

section Normalize

variable (U : Unicode)

/-- `_invisible` -/
def invisible (c : Char) : Bool := U.category c == "Cf"

/-- `_malformed_control` -/
def malformedControl (c : Char) : Bool := U.category c == "Cc" && !PyText.isSpace c

def combining (c : Char) : Bool := (U.category c).startsWith "M"

def isLineBreak (c : Char) : Bool :=
  c == '\n' || c == '\r' || c == Char.ofNat 0x2028 || c == Char.ofNat 0x2029 ||
    c == Char.ofNat 0x0b || c == Char.ofNat 0x0c || c == Char.ofNat 0x85

/-- A normalized character and the range of submitted characters it came from. -/
structure Origin where
  char : Char
  start : ℕ
  stop : ℕ
deriving DecidableEq

/-- The loop of `normalize` at position `i`, `skip` characters of which are already read. -/
def normalizeFrom : (i skip : ℕ) → (pending : Option Origin) → (started : Bool) → Text →
    List Origin
  | _, _, _, _, [] => []
  | i, skip + 1, pending, started, _ :: rest => normalizeFrom (i + 1) skip pending started rest
  | i, 0, pending, started, c :: rest =>
    if PyText.isSpace c then
      let run := c :: rest.takeWhile fun d => PyText.isSpace d || invisible U d
      let gap : Origin := ⟨if run.any isLineBreak then '\n' else ' ', i, i + run.length⟩
      normalizeFrom (i + 1) (run.length - 1) (if started then some gap else pending) started rest
    else if invisible U c then normalizeFrom (i + 1) 0 pending started rest
    else
      let cluster := c :: rest.takeWhile (combining U)
      let piece := (U.nfkc cluster).map fun d => ⟨d, i, i + cluster.length⟩
      let out := pending.toList ++ piece
      out ++ normalizeFrom (i + 1) (cluster.length - 1) none (started || !out.isEmpty) rest

/-- `normalize` -/
def normalize (raw : Text) : List Origin := normalizeFrom U 0 0 none false raw

def scriptPrefixes : List (String × String) :=
  [("LATIN", "Latn"), ("CYRILLIC", "Cyrl"), ("GREEK", "Grek"), ("DEVANAGARI", "Deva"),
   ("TAMIL", "Taml"), ("BENGALI", "Beng"), ("TELUGU", "Telu"), ("KANNADA", "Knda"),
   ("MALAYALAM", "Mlym"), ("GUJARATI", "Gujr"), ("GURMUKHI", "Guru"), ("ORIYA", "Orya"),
   ("ARABIC", "Arab"), ("HEBREW", "Hebr"), ("THAI", "Thai"), ("HANGUL", "Hang"),
   ("HIRAGANA", "Hira"), ("KATAKANA", "Kana"), ("CJK", "Hani")]

/-- `_script_of` -/
def scriptOf (c : Char) : Option String :=
  if U.isAlpha c then
    some (((scriptPrefixes.find? fun e => (U.name c).startsWith e.1).map Prod.snd).getD "Zzzz")
  else none

end Normalize

structure LanguageAssessment where
  language : String
  script : List String
  confidence : String
  supported : Bool
  words : ℕ
  confusablesFolded : Bool
  matchText : Text
  tooShort : Bool := false
deriving DecidableEq

/-- `MIN_WORDS` -/
def minWords : ℕ := 3

/-- `assess_language`: only English in Latin script is supported. -/
def assessLanguage (U : Unicode) (P : Pack) (normalized : Text) : LanguageAssessment :=
  let lookalikes := normalized.filter fun c => (P.fold c).isSome
  let codes := (normalized.filter fun c => (P.fold c).isNone).filterMap (scriptOf U)
  let latin := codes.count "Latn"
  let fold := !lookalikes.isEmpty && codes.all (· == "Latn") && 0 < latin &&
    10 * lookalikes.length ≤ 3 * (latin + lookalikes.length)
  let matchText := if fold then normalized.map fun c => (P.fold c).getD c else normalized
  let allCodes := if fold then codes else codes ++ lookalikes.filterMap (scriptOf U)
  let tokens := let lower := U.lower matchText; (P.findAll .word lower).map (Match.text · lower)
  let ranked := allCodes.dedup.insertionSort fun a b =>
    allCodes.count b < allCodes.count a ∨ (allCodes.count a = allCodes.count b ∧ a ≤ b)
  let scripts := if ranked = [] then ["Zyyy"] else ranked
  let base : LanguageAssessment := ⟨"und", ["Latn"], "LOW", false, tokens.length, fold, matchText, false⟩
  if allCodes.any (· != "Latn") || latin == 0 then
    { base with script := scripts, confusablesFolded := false }
  else
    let en := tokens.countP P.enWords.contains
    let hi := tokens.countP P.hiWords.contains
    let eu := tokens.countP P.euWords.contains
    if 2 ≤ hi ∧ en ≤ hi * 2 then { base with language := "hi" }
    else if 2 ≤ eu ∧ en < eu then base
    else if tokens ≠ [] ∧ (3 ≤ en ∨ tokens.length ≤ 4 * en) then
      { base with
        language := "en"
        confidence := if 2 * tokens.length ≤ 5 * en ∧ fold = false then "HIGH" else "MEDIUM"
        supported := true }
    else { base with tooShort := tokens.length < minWords && hi < 2 && eu < 2 }

/-! ### Clause structure -/

structure Clause where
  start : ℕ
  stop : ℕ
  sentenceStart : ℕ
  sentenceStop : ℕ
  interrogative : Bool
deriving DecidableEq

/-- Polarity, attribution and mood of an occurrence. -/
structure Structure where
  polarity : StructuralPolarity
  attribution : Attribution
  mood : Mood
deriving DecidableEq

/-- `s.polarity == "AFFIRMED" and s.attribution == "FIRST_PARTY"` -/
def Structure.live (s : Structure) : Bool :=
  s.polarity == .AFFIRMED && s.attribution == .FIRST_PARTY

/-- One normalized message: the matching view, quotes, clauses and links. -/
structure Message where
  text : Text
  view : Text
  lower : Text
  narrative : Bool
  quotes : List (ℕ × ℕ)
  clauses : List Clause
  urlSpans : List (ℕ × ℕ)

/-- `any(s <= pos < e for s, e in spans)` -/
def covers (spans : List (ℕ × ℕ)) (pos : ℕ) : Bool :=
  spans.any fun s => s.1 ≤ pos && pos < s.2

/-- The end of a span once trailing characters of a set are left out. -/
def trimEnd (text : Text) (drop : List Char) (start stop : ℕ) : ℕ :=
  stop - (((slice text start stop).reverse).takeWhile drop.contains).length

section Parts

variable (P : Pack)

/-- `_quotes`: a message that is one quotation is the message itself. -/
def quotesOf (view : Text) : List (ℕ × ℕ) :=
  (P.findAll .quotation view).filterMap fun m =>
    let outside := view.take m.start ++ view.drop m.stop
    if outside.all " .!?,;:-\n".toList.contains then none
    else (m.groups.head?).map Prod.snd

/-- The loop of `_split`: cuts at the matches outside quotes, and the pieces between them. -/
def splitAt (quotes : List (ℕ × ℕ)) (start stop : ℕ) : (pos : ℕ) → List Match → List (ℕ × ℕ)
  | pos, [] => [(pos, stop)]
  | pos, m :: rest =>
    if covers quotes m.start || m.start == start then splitAt quotes start stop pos rest
    else (pos, m.start) :: splitAt quotes start stop m.stop rest

/-- `_split` -/
def split (view : Text) (quotes : List (ℕ × ℕ)) (p : Pattern) (start stop : ℕ) : List (ℕ × ℕ) :=
  (splitAt quotes start stop start (P.finditer p view start stop)).filter fun s =>
    (slice view s.1 s.2).any fun c => !PyText.isSpace c

/-- `_clauses` -/
def clausesOf (view : Text) (quotes : List (ℕ × ℕ)) : List Clause :=
  (split P view quotes .sentenceSplit 0 view.length).flatMap fun s =>
    let sentence := ((slice view s.1 s.2).reverse.dropWhile PyText.isSpace).dropWhile
      "\"'”)] ".toList.contains
    (split P view quotes .clauseSplit s.1 s.2).map fun c =>
      ⟨c.1, c.2, s.1, s.2, sentence.head? == some '?'⟩

/-- The candidates that keep a character and do not start inside an accepted one. -/
def acceptSpans (view : Text) (accepted : List (ℕ × ℕ)) : List (ℕ × ℕ) → List (ℕ × ℕ)
  | [] => accepted
  | (start, stop) :: rest =>
    let trimmed := trimEnd view ".,;:!?)'\"".toList start stop
    if start < trimmed ∧ covers accepted start = false then
      acceptSpans view (accepted ++ [(start, trimmed)]) rest
    else acceptSpans view accepted rest

/-- The bare domains that no earlier candidate covers. -/
def domainSpans (U : Unicode) (view : Text) (candidates : List (ℕ × ℕ)) : List Match → List (ℕ × ℕ)
  | [] => candidates
  | m :: rest =>
    let tld := String.ofList (U.lower ((m.group? view "tld").getD []))
    if P.tlds.contains tld && !covers candidates m.start then
      domainSpans U view (candidates ++ [(m.start, m.stop)]) rest
    else domainSpans U view candidates rest

/-- `_url_spans` -/
def urlSpansOf (U : Unicode) (view : Text) : List (ℕ × ℕ) :=
  let urls := (P.findAll .url view).map fun m => (m.start, m.stop)
  let candidates := domainSpans P U view urls (P.findAll .bareDomain view)
  acceptSpans view [] (candidates.insertionSort fun a b => a.1 < b.1 ∨ (a.1 = b.1 ∧ a.2 ≤ b.2))

end Parts

/-- `Message.__init__` -/
def Message.of (U : Unicode) (P : Pack) (normalized matchText : Text) (inputType : String)
    (relationship : Option String) : Message where
  text := normalized
  view := matchText
  lower := U.lower matchText
  narrative := inputType == "USER_NARRATIVE" || relationship == some "REPORTING_ON_BEHALF"
  quotes := quotesOf P matchText
  clauses := clausesOf P matchText (quotesOf P matchText)
  urlSpans := urlSpansOf P U matchText

/-- `len(text.split())` -/
def wordCount (inWord : Bool) : Text → ℕ
  | [] => 0
  | c :: rest =>
    if PyText.isSpace c then wordCount false rest
    else (if inWord then 0 else 1) + wordCount true rest

namespace Message

variable (P : Pack) (msg : Message)

def inUrl (pos : ℕ) : Bool := covers msg.urlSpans pos

def inQuote (pos : ℕ) : Bool := covers msg.quotes pos

/-- `clause_at` -/
def clauseAt (pos : ℕ) : Clause :=
  match msg.clauses.find? fun c => c.start ≤ pos && pos < c.stop with
  | some c => c
  | none => (msg.clauses.getLast?).getD ⟨0, msg.view.length, 0, msg.view.length, false⟩

/-- `prefix`: the clause before a position, without its leading discourse marker. -/
def clausePrefix (pos : ℕ) : Text :=
  let start := msg.quotes.foldl
    (fun start q => if q.1 ≤ pos ∧ pos < q.2 then max start q.1 else start) (msg.clauseAt pos).start
  P.removeFirst .discourseMarker (slice msg.lower start pos)

/-- `sentence_before` -/
def sentenceBefore (pos : ℕ) : Text := slice msg.lower (msg.clauseAt pos).sentenceStart pos

/-- Whether the last negation of the clause governs the occurrence. -/
def negated (before : Text) (request : Bool) : Bool :=
  match (P.findAll .negation before).getLast? with
  | none => false
  | some m =>
    let after := before.drop m.stop
    !P.occursIn .negationExempt before && !P.occursIn .conditionalCoercion before &&
      !P.occursIn .ifYou (before.take m.start) && !P.occursIn .contrast after &&
      wordCount false after ≤ (if request then 6 else 2)

def attributionAt (before : Text) (pos : ℕ) : Attribution :=
  if msg.inQuote pos then .QUOTED
  else if P.occursIn .hypotheticalFrame (before ++ slice msg.lower pos (pos + 24)) then .HYPOTHETICAL
  else if P.occursIn .reportedFrame (msg.sentenceBefore pos) || msg.narrative then .REPORTED
  else .FIRST_PARTY

def moodAt (before : Text) (pos : ℕ) (request : Bool) (attribution : Attribution) : Mood :=
  if attribution ≠ .FIRST_PARTY then .DESCRIPTIVE
  else if (msg.clauseAt pos).interrogative then .INTERROGATIVE
  else if !request || P.matchesAtStart .directivePrefix before ||
    P.occursIn .conditionalCoercion before then .DIRECTIVE
  else .DESCRIPTIVE

/-- `structure`: polarity, attribution and mood of the occurrence at a position. -/
def structureAt (pos : ℕ) (request : Bool) : Structure :=
  let before := msg.clausePrefix P pos
  let attribution := msg.attributionAt P before pos
  { polarity := if negated P before request then .NEGATED else .AFFIRMED
    attribution := attribution
    mood := msg.moodAt P before pos request attribution }

/-- `_find`: the matches outside links. -/
def find (p : Pattern) : List Match :=
  (P.findAll p msg.view).filter fun m => !msg.inUrl m.start

end Message

end TrustLens.Backend.Extraction
