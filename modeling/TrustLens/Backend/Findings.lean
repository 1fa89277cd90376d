import TrustLens.Backend.Message
import TrustLens.Lib.Double

/-!
# The recognisers

Each recogniser turns the matches of a pattern into findings: a typed occurrence with
its structure, and the indicators the occurrence projects. The order of the findings
is the order in which the extractor appends them.
-/

namespace TrustLens.Backend.Extraction

open TrustLens.Runtime (Level Status StructuralPolarity Attribution Mood)

inductive ObsType where
  | ENTITY
  | CLAIM
  | THREAT
  | IDENTITY_ASSERTION
  | PAYMENT_CONTEXT
  | DEVICE_ACTION
  | LINK_ACTION
  | AUTHENTICATION_ACTION
  | TEMPORAL_PRESSURE
  | RELATIONSHIP_CONTEXT
deriving DecidableEq

/-- The frame of an occurrence; an empty object is left out of the observation. -/
structure Frame where
  actor : List (String × Json) := []
  action : List (String × Json) := []
  target : List (String × Json) := []
  pressure : List (String × Json) := []
  pretext : List (String × Json) := []
  paymentDirection : Option String := none
deriving DecidableEq

/-- An indicator a finding projects; a composed one cites the findings at some positions. -/
structure Emission where
  indicatorId : String
  confidence : Level
  review : Bool
  cites : Option (List ℕ)
deriving DecidableEq

structure Finding where
  obsType : ObsType
  canonical : String
  start : ℕ
  stop : ℕ
  /-- none: a claim or a fact, to which the schema defaults apply -/
  struct : Option Structure
  frame : Frame := {}
  status : Status := .OBSERVED
  indicators : List Emission := []
  risky : Bool := false
  urlRef : Option String := none
deriving DecidableEq

namespace Finding

/-- `live_first_party` -/
def live (f : Finding) : Bool :=
  match f.struct with
  | none => true
  | some s => s.live

def emitReviewed (f : Finding) (id : String) (confidence : Level) (review : Bool) : Finding :=
  if f.indicators.all (·.indicatorId != id) then
    { f with indicators := f.indicators ++ [⟨id, confidence, review, none⟩] }
  else f

/-- `emit` -/
def emit (f : Finding) (id : String) (confidence : Level) : Finding :=
  f.emitReviewed id confidence false

/-- An emission under a condition. -/
def emitIf (f : Finding) (condition : Bool) (id : String) (confidence : Level) : Finding :=
  if condition then f.emit id confidence else f

end Finding

/-- A request that is described, not made, is read with less confidence. -/
def requestLevel (s : Structure) : Level := if s.mood = .DESCRIPTIVE then .MEDIUM else .HIGH

def text (s : String) : Json := .str s

section

variable (P : Pack)

/-- `_amount` -/
def amount (matchText : Text) : List (String × Json) :=
  match P.search .amount matchText with
  | none => []
  | some m =>
    let value := PyFloat.ofNumeral (((m.group? matchText "1").getD []).filter (· != ','))
    [("amount", value.toJson), ("currency", text "INR")]

variable (msg : Message)

/-- `_claim_structure`: claims carry structure only when it departs from the defaults. -/
def claimStructure (pos : ℕ) : Option Structure :=
  let s := msg.structureAt P pos false
  if s.live then none else some { s with mood := .DESCRIPTIVE }

/-- Whether a group took part in a match with some text. -/
def hasGroup (view : Text) (m : Match) (name : String) : Bool :=
  (m.group? view name).any fun t => !t.isEmpty

/-! ### Credentials -/

inductive CredentialKind where
  | OTP
  | CVV
  | CARD_NUMBER
  | PASSWORD
deriving DecidableEq

def CredentialKind.name : CredentialKind → String
  | OTP => "OTP"
  | CVV => "CVV"
  | CARD_NUMBER => "CARD_NUMBER"
  | PASSWORD => "PASSWORD"

def CredentialKind.canonical : CredentialKind → String
  | OTP => "REQUEST_DISCLOSE_OTP"
  | CVV => "REQUEST_DISCLOSE_CVV"
  | CARD_NUMBER => "REQUEST_DISCLOSE_CARD"
  | PASSWORD => "VERIFICATION_CAPTURE"

/-- The indicator a live request for the credential projects. -/
def CredentialKind.indicator (verificationContext : Bool) : CredentialKind → Option String
  | OTP => some "CREDENTIAL_REQUEST_OTP"
  | CVV => some "CREDENTIAL_REQUEST_CVV"
  | CARD_NUMBER => some "CREDENTIAL_REQUEST_CARD"
  | PASSWORD => if verificationContext then some "VERIFICATION_PROMPT" else none

def credentialKind (m : Match) : CredentialKind :=
  if hasGroup msg.view m "otp" then .OTP
  else if hasGroup msg.view m "cvv" then .CVV
  else if hasGroup msg.view m "card" then .CARD_NUMBER
  else .PASSWORD

/-- `_credential` -/
def credential (start stop : ℕ) (kind : CredentialKind) (verificationContext : Bool) : Finding :=
  let s := msg.structureAt P start true
  let f : Finding :=
    { obsType := .AUTHENTICATION_ACTION
      canonical := kind.canonical
      start := start
      stop := stop
      struct := some s
      frame :=
        { action := [("type", text "DISCLOSE_CREDENTIAL"), ("dimension_ref", text "UA-01")]
          target := [("credential_kind", text kind.name)] }
      risky := s.polarity ≠ .NEGATED }
  if s.polarity = .NEGATED then
    let f := f.emit "NEGATED_CREDENTIAL_REQUEST" .HIGH
    if P.occursIn .firstPersonPlural (msg.clausePrefix P start) then
      (f.emit "EDUCATIONAL_CONTENT" .HIGH).emit "SUPPORT_NEVER_ASKS" .HIGH
    else f.emit "SELF_PROTECTIVE_WARNING" .HIGH
  else if s.attribution = .FIRST_PARTY then
    match kind.indicator verificationContext with
    | some id => f.emit id (if s.mood = .DIRECTIVE then .HIGH else .MEDIUM)
    | none => f
  else f

/-- The credential requests whose code is not just any code. -/
def credentialRequests : List Match :=
  (msg.find P .credentialRequest).filter fun m =>
    let matched := m.text msg.view
    !(credentialKind msg m == .OTP && P.occursIn .codeWord matched &&
      !P.occursIn .codeQualifier matched)

/-- `_credential_findings` -/
def credentialFindings : List Finding :=
  let otpContext := P.occursIn .otpMention msg.view
  let verificationContext := P.occursIn .verificationContext msg.view
  let requests := credentialRequests P msg
  let taken := requests.map fun m => (m.start, m.stop)
  let pronouns := (msg.find P .credentialPronoun).filter fun m =>
    !covers taken m.start && (msg.structureAt P m.start true).polarity == .NEGATED && otpContext
  (requests.map fun m => credential P msg m.start m.stop (credentialKind msg m) verificationContext) ++
    pronouns.map fun m => credential P msg m.start m.stop .OTP verificationContext

/-! ### Payments -/

/-- The payment direction a sentence states after a position. -/
structure Direction where
  receive : Option Match
  pay : Option Match

/-- The two direction patterns, searched in the rest of the sentence. -/
def directionAfter (stop : ℕ) : Direction :=
  let sentenceStop := (msg.clauseAt (stop - 1)).sentenceStop
  ⟨P.searchIn .directionReceive msg.view stop sentenceStop,
    P.searchIn .directionPay msg.view stop sentenceStop⟩

/-- The match that states that the user receives, when it comes first. -/
def Direction.receiving (d : Direction) : Option Match :=
  match d.receive, d.pay with
  | some r, some p => if r.start < p.start then some r else none
  | some r, none => some r
  | none, _ => none

def merchantTarget (d : Match) : List (String × Json) :=
  amount P (d.text msg.view) ++ [("recipient_label", text "MERCHANT")]

/-- The findings of one UPI PIN prompt. -/
def upiPinFindings (m : Match) : List Finding :=
  let s := msg.structureAt P m.start true
  let direction := directionAfter P msg m.stop
  let pin (label : String) (target : List (String × Json)) : Finding :=
    Finding.emitIf
      { obsType := .AUTHENTICATION_ACTION
        canonical := "ENTER_UPI_PIN"
        start := m.start
        stop := m.stop
        struct := some s
        frame :=
          { action := [("type", text "ENTER_UPI_PIN"), ("dimension_ref", text "UA-02")]
            target := ("credential_kind", text "UPI_PIN") :: target
            paymentDirection := some label }
        risky := true } s.live "UPI_PIN_PROMPT" (requestLevel s)
  match direction.receiving, direction.pay with
  | some r, _ =>
    let framing : Finding :=
      { obsType := .PAYMENT_CONTEXT
        canonical := "RECEIVE_MONEY"
        start := r.start
        stop := r.stop
        struct := some s
        frame :=
          { target := amount P (r.text msg.view)
            pretext := if P.occursIn .refundWord msg.view then [("kind", text "REFUND")] else []
            paymentDirection := some "USER_RECEIVES" }
        risky := true }
    [pin "USER_RECEIVES" [], framing.emitIf s.live "RECEIVE_FRAMING" .HIGH]
  | none, some p =>
    let merchant := hasGroup msg.view p "merchant"
    let outbound : Finding :=
      { obsType := .PAYMENT_CONTEXT
        canonical := if merchant then "PAY_MERCHANT" else "PAY_OUTBOUND"
        start := p.start
        stop := p.stop
        struct := some s
        frame :=
          { target := if merchant then merchantTarget P msg p else amount P (p.text msg.view)
            paymentDirection := some "USER_PAYS" } }
    [pin "USER_PAYS" (if merchant then [("recipient_label", text "MERCHANT")] else []),
      outbound.emitIf (merchant && s.live) "PAY_MERCHANT_DIRECTION" .HIGH]
  | none, none => [pin "UNKNOWN_DIRECTION" []]

def immediatePayment (threatPresent : Bool) (m : Match) : Finding :=
  let s := msg.structureAt P m.start true
  Finding.emitIf
    { obsType := .PAYMENT_CONTEXT
      canonical := "IMMEDIATE_PAYMENT"
      start := m.start
      stop := m.stop
      struct := some s
      frame :=
        { action := [("type", text "MAKE_PAYMENT"), ("dimension_ref", text "UA-03")]
          target := amount P (m.text msg.view) }
      risky := true } s.live (if threatPresent then "IMMEDIATE_PAYMENT_DEMAND" else "PAYMENT_DEMAND")
    (requestLevel s)

def demand (canonical indicator : String) (m : Match) : Finding :=
  let s := msg.structureAt P m.start true
  Finding.emitIf
    { obsType := .PAYMENT_CONTEXT
      canonical := canonical
      start := m.start
      stop := m.stop
      struct := some s
      frame :=
        { action := [("type", text "MAKE_PAYMENT"), ("dimension_ref", text "UA-03")]
          target := amount P (m.text msg.view)
          paymentDirection := some "USER_PAYS" }
      risky := true } (s.live && s.mood != .DESCRIPTIVE) indicator .MEDIUM

/-- The demands that start outside everything covered so far. -/
def demandsFrom (covered : List (ℕ × ℕ)) : List (String × String × Match) → List Finding
  | [] => []
  | (canonical, indicator, m) :: rest =>
    if covers covered m.start then demandsFrom covered rest
    else demand P msg canonical indicator m :: demandsFrom (covered ++ [(m.start, m.stop)]) rest

def paymentContext (qrPresent : Bool) (m : Match) : Finding :=
  let f : Finding :=
    { obsType := .PAYMENT_CONTEXT
      canonical := "PAYMENT_CONTEXT"
      start := m.start
      stop := m.stop
      struct := claimStructure P msg m.start
      frame := { paymentDirection := if qrPresent then some "UNKNOWN_DIRECTION" else none }
      risky := true
      status := if qrPresent then .AMBIGUOUS else .OBSERVED }
  if f.live then f.emitReviewed "PAYMENT_CONTEXT" (if qrPresent then .LOW else .MEDIUM) qrPresent
  else f

def depositForEarnings (m : Match) : Finding :=
  let s := msg.structureAt P m.start true
  Finding.emitIf
    { obsType := .PAYMENT_CONTEXT
      canonical := "DEPOSIT_FOR_EARNINGS"
      start := m.start
      stop := m.stop
      struct := some s
      frame := { target := amount P (m.text msg.view), paymentDirection := some "USER_PAYS" }
      risky := true } s.live "DEPOSIT_FOR_EARNINGS" .MEDIUM

/-- `_payment_findings` -/
def paymentFindings (qrPresent threatPresent : Bool) : List Finding :=
  let immediate := (msg.find P .immediatePayment).map (immediatePayment P msg threatPresent)
  let demands := ((msg.find P .upfrontFee).map fun m => ("UPFRONT_FEE", "UPFRONT_FEE_DEMAND", m)) ++
    (msg.find P .paymentDemand).map fun m => ("PAYMENT_DEMAND", "PAYMENT_DEMAND", m)
  (msg.find P .upiPin).flatMap (upiPinFindings P msg) ++ immediate ++
    demandsFrom P msg (immediate.map fun f => (f.start, f.stop)) demands ++
    (msg.find P .paymentContext).map (paymentContext P msg qrPresent) ++
    (msg.find P .depositForEarnings).map (depositForEarnings P msg)

/-! ### One indicator a match -/

/-- The values a call of `_simple` passes. -/
structure Site where
  pattern : Pattern
  obsType : ObsType
  canonical : String
  indicator : String
  confidence : Level
  frame : Frame := {}
  request : Bool := false

/-- The finding `_simple` makes of one match: a request must not be descriptive. -/
def Site.finding (site : Site) (m : Match) : Finding :=
  let struct := if site.request then some (msg.structureAt P m.start true)
    else claimStructure P msg m.start
  let f : Finding :=
    { obsType := site.obsType
      canonical := site.canonical
      start := m.start
      stop := m.stop
      struct := struct
      frame := site.frame
      risky := true }
  let mood := (struct.map Structure.mood).getD .DIRECTIVE
  f.emitIf (f.live && (!site.request || mood != .DESCRIPTIVE)) site.indicator
    (if !site.request || mood == .DIRECTIVE then site.confidence else .MEDIUM)

/-- `_simple` -/
def Site.findings (site : Site) (skip : List (ℕ × ℕ)) : List Finding :=
  ((msg.find P site.pattern).filter fun m => !covers skip m.start).map (site.finding P msg)

/-- A claim that projects its indicators when it is live and first party. -/
def claim (obsType : ObsType) (canonical : String) (pos start stop : ℕ) (frame : Frame)
    (risky : Bool) : Finding where
  obsType := obsType
  canonical := canonical
  start := start
  stop := stop
  struct := claimStructure P msg pos
  frame := frame
  risky := risky

def claimAt (obsType : ObsType) (canonical : String) (m : Match) (frame : Frame) (risky : Bool) :
    Finding :=
  claim P msg obsType canonical m.start m.start m.stop frame risky

end
end TrustLens.Backend.Extraction
