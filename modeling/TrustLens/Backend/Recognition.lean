import TrustLens.Backend.Findings

/-!
# The recognisers of a message

`findAll` runs the recognisers in the order of the extractor: requests and threats,
payments, pressure, pretexts, technical actions and their cover, codes to scan, links,
identity claims and safety language. What a later recogniser reads of the earlier ones
is passed on as the findings made so far.
-/

namespace TrustLens.Backend.Extraction

open TrustLens.Runtime (Level Status StructuralPolarity Attribution Mood)

variable (U : Unicode) (P : Pack) (msg : Message)

def Finding.span (f : Finding) : ℕ × ℕ := (f.start, f.stop)

/-- `f.indicators` read as a condition. -/
def Finding.projects (f : Finding) : Bool := !f.indicators.isEmpty

/-! ### Requests and threats -/

def otpDelivered (m : Match) : Finding :=
  let f : Finding :=
    { obsType := .AUTHENTICATION_ACTION
      canonical := "OTP_DELIVERED"
      start := m.start
      stop := m.stop
      struct := some ((claimStructure P msg m.start).getD ⟨.AFFIRMED, .FIRST_PARTY, .DESCRIPTIVE⟩)
      frame :=
        { target := [("credential_kind", text "OTP")], paymentDirection := some "UNKNOWN_DIRECTION" } }
  f.emitIf f.live "OTP_DELIVERED_NOT_REQUESTED" .HIGH

def threatSite (pattern : Pattern) (canonical indicator threatOf : String)
    (dimension : List (String × Json)) : Site where
  pattern := pattern
  obsType := .THREAT
  canonical := canonical
  indicator := indicator
  confidence := .HIGH
  frame := { pressure := [("kind", text "THREAT"), ("threat_of", text threatOf)] ++ dimension }

/-- The stated consequences. -/
def threatFindings : List Finding :=
  let block := (threatSite .accountBlock "ACCOUNT_BLOCK" "ACCOUNT_BLOCK_THREAT" "ACCOUNT_BLOCK"
    []).findings P msg []
  let suspension :=
    if P.occursIn .serviceSubject msg.view then
      (threatSite .suspension "THREAT_SERVICE_SUSPENSION" "SUSPENSION_THREAT" "SERVICE_SUSPENSION"
        [("dimension_ref", text "SE-03")]).findings P msg (block.map Finding.span)
    else []
  block ++ suspension ++
    (threatSite .arrest "THREAT_ARREST" "ARREST_THREAT" "ARREST" []).findings P msg [] ++
    (threatSite .legalAccusation "LEGAL_ACCUSATION" "LEGAL_ACCUSATION" "LEGAL_ACTION"
      []).findings P msg [] ++
    (threatSite .withdrawalBlocked "WITHDRAWAL_BLOCKED" "WITHDRAWAL_BLOCKED_PRETEXT"
      "FINANCIAL_LOSS" []).findings P msg []

/-! ### Pressure -/

def pressureSite (pattern : Pattern) (canonical indicator : String) (confidence : Level)
    (pressure : List (String × Json)) : Site where
  pattern := pattern
  obsType := .TEMPORAL_PRESSURE
  canonical := canonical
  indicator := indicator
  confidence := confidence
  frame := { pressure := pressure }

def sentenceOf (f : Finding) : ℕ := (msg.clauseAt f.start).sentenceStart

/-- Deadlines and urgency; a time word is pressure only beside a live threat or request. -/
def urgencyFindings (out : List Finding) : List Finding :=
  let urgency := [("kind", text "URGENCY"), ("dimension_ref", text "SE-02")]
  let deadlines := (pressureSite .deadline "URGENCY_DEADLINE" "URGENCY_DEADLINE" .HIGH
    [("kind", text "DEADLINE"), ("dimension_ref", text "SE-02")]).findings P msg []
  let explicit := (pressureSite .urgency "URGENCY" "URGENCY" .HIGH urgency).findings P msg
    (deadlines.map Finding.span)
  let pressured := ((out ++ deadlines ++ explicit).filter fun f => f.risky && f.projects).map
    (sentenceOf msg)
  let contextual := (pressureSite .urgencyContextual "URGENCY" "URGENCY" .MEDIUM urgency).findings
    P msg (deadlines.map Finding.span)
  deadlines ++ explicit ++ contextual.map fun f =>
    if pressured.contains (sentenceOf msg f) then f else { f with indicators := [] }

/-- Secrecy, isolation and discouraged verification. -/
def coercionFindings : List Finding :=
  (pressureSite .secrecy "SECRECY_REQUEST" "SECRECY_REQUEST" .HIGH
      [("kind", text "SECRECY")]).findings P msg [] ++
    (pressureSite .isolation "ISOLATION" "ISOLATION_FROM_FAMILY_OR_LAWYER" .HIGH
      [("kind", text "ISOLATION")]).findings P msg [] ++
    Site.findings P msg
      { pattern := .discouragesVerification
        obsType := .CLAIM
        canonical := "DISCOURAGES_VERIFICATION"
        indicator := "DISCOURAGES_VERIFICATION"
        confidence := .HIGH } []

def coercionIndicator : String → Option String
  | "SECRECY_REQUEST" => some "SECRECY_REQUEST"
  | "ISOLATION" => some "ISOLATION_FROM_FAMILY_OR_LAWYER"
  | "DISCOURAGES_VERIFICATION" => some "DISCOURAGES_VERIFICATION"
  | _ => none

/-- Negation-shaped coercion stays affirmed. -/
def affirmCoercion (f : Finding) : Finding :=
  match coercionIndicator f.canonical, f.struct with
  | some indicator, some s =>
    if s.polarity = .NEGATED then
      let struct := if s.attribution = .FIRST_PARTY then none
        else some ⟨.AFFIRMED, s.attribution, .DESCRIPTIVE⟩
      let f := { f with struct := struct }
      f.emitIf f.live indicator .HIGH
    else f
  | _, _ => f

/-! ### Pretexts -/

/-- The clause of the first mention stands for the pretext. -/
def kycFinding (m : Match) : Finding :=
  let clause := msg.clauseAt m.start
  let start := clause.start +
    ((slice msg.view clause.start clause.stop).takeWhile PyText.isSpace).length
  let f := claim P msg .CLAIM "KYC_PRETEXT" m.start start
    (trimEnd msg.view ".!?, ".toList start clause.stop) { pretext := [("kind", text "KYC_UPDATE")] }
    true
  f.emitIf f.live "KYC_PRETEXT" .HIGH

/-- A claim that projects one indicator when it is live. -/
def plainClaim (obsType : ObsType) (canonical indicator : String) (confidence : Level)
    (frame : Frame) (risky : Bool) (m : Match) : Finding :=
  let f := claimAt P msg obsType canonical m frame risky
  f.emitIf f.live indicator confidence

def pretext (kind : String) : Frame := { pretext := [("kind", text kind)] }

def pretextSite (pattern : Pattern) (canonical : String) (confidence : Level) (kind : String) :
    Site where
  pattern := pattern
  obsType := .CLAIM
  canonical := canonical
  indicator := canonical
  confidence := confidence
  frame := pretext kind

/-- `float(text) >= bound` -/
def atLeast (bound : ℚ) : PyFloat → Bool
  | .finite q => bound ≤ q
  | .inf => true
  | _ => false

def returnGuarantee (m : Match) : Finding :=
  let f := plainClaim P msg .CLAIM "RETURN_GUARANTEE" "RETURN_GUARANTEE" .HIGH
    (pretext "INVESTMENT") true m
  let percent := (m.group? msg.view "pct").getD []
  f.emitIf (f.live && !percent.isEmpty && atLeast 20 (PyFloat.ofNumeral percent))
    "HIGH_RETURN_MENTION" .MEDIUM

/-- What the message claims to be about. -/
def pretextFindings : List Finding :=
  ((msg.find P .kyc).take 1).map (kycFinding P msg) ++
    (pretextSite .verificationPretext "VERIFICATION_PRETEXT" .HIGH "VERIFICATION").findings P msg [] ++
    (pretextSite .taskEarning "TASK_EARNING_LURE" .HIGH "JOB_OFFER").findings P msg [] ++
    Site.findings P msg
      { pattern := .offPlatform
        obsType := .LINK_ACTION
        canonical := "OFF_PLATFORM_HANDOFF"
        indicator := "OFF_PLATFORM_HANDOFF"
        confidence := .MEDIUM
        request := true } [] ++
    (pretextSite .jobGuarantee "JOB_GUARANTEE" .HIGH "JOB_OFFER").findings P msg [] ++
    (pretextSite .unsolicitedOffer "UNSOLICITED_OFFER" .MEDIUM "PRIZE").findings P msg [] ++
    (pressureSite .scarcity "SCARCITY" "SCARCITY_PRESSURE" .HIGH
      [("kind", text "SCARCITY")]).findings P msg [] ++
    ((msg.find P .jobContext).take 1).map
      (plainClaim P msg .CLAIM "JOB_CONTEXT" "JOB_CONTEXT" .MEDIUM (pretext "JOB_OFFER") true) ++
    (msg.find P .explicitNoFee).map
      (plainClaim P msg .CLAIM "EXPLICIT_NO_FEE" "EXPLICIT_NO_FEE" .HIGH {} false) ++
    (pretextSite .investment "INVESTMENT_SOLICITATION" .MEDIUM "INVESTMENT").findings P msg [] ++
    ((msg.find P .parcel).take 1).map
      (plainClaim P msg .CLAIM "PARCEL_PRETEXT" "PARCEL_PRETEXT" .MEDIUM
        (pretext "PARCEL_DELIVERY") true) ++
    (msg.find P .returnGuarantee).map (returnGuarantee P msg)

/-! ### Technical actions -/

def remoteApps : List (String × String) :=
  [("anydesk", "AnyDesk"), ("teamviewer", "TeamViewer"), ("airdroid", "AirDroid"),
   ("quicksupport", "QuickSupport"), ("rustdesk", "RustDesk"), ("ultraviewer", "UltraViewer"),
   ("ammyy", "Ammyy"), ("supremo", "Supremo"), ("splashtop", "Splashtop")]

def screenShare (m : Match) : Finding :=
  let s := msg.structureAt P m.start true
  let named := (m.group? msg.view "1").getD []
  let app := String.ofList (U.lower (named.filter fun c => !PyText.isSpace c))
  let instrument := ((remoteApps.find? (·.1 == app)).map Prod.snd).getD (String.ofList named)
  Finding.emitIf
    { obsType := .DEVICE_ACTION
      canonical := "INSTALL_SCREEN_SHARE_APP"
      start := m.start
      stop := m.stop
      struct := some s
      frame :=
        { action := [("type", text "INSTALL_APP"), ("dimension_ref", text "UA-05")]
          target := [("instrument", text instrument)] }
      risky := true } s.live "SCREEN_SHARE_APP_REQUEST" (requestLevel s)

def deviceSite (pattern : Pattern) (canonical indicator : String) (action target : List (String × Json)) :
    Site where
  pattern := pattern
  obsType := .DEVICE_ACTION
  canonical := canonical
  indicator := indicator
  confidence := .HIGH
  frame := { action := action, target := target }
  request := true

/-- The technical actions that a support context may cover. -/
def technicalFindings : List Finding :=
  (msg.find P .screenShare).map (screenShare U P msg) ++
    (deviceSite .apkInstall "INSTALL_APK" "APK_INSTALL_REQUEST"
      [("type", text "INSTALL_APP")] []).findings P msg [] ++
    (deviceSite .accessibility "GRANT_ACCESSIBILITY" "ACCESSIBILITY_PERMISSION_REQUEST"
      [("type", text "GRANT_PERMISSION")] [("instrument", text "Accessibility")]).findings P msg [] ++
    (deviceSite .deviceLinking "SHARE_LINKING_CODE" "DEVICE_LINKING_CODE_REQUEST"
      [("type", text "LINK_DEVICE")] [("credential_kind", text "LINKING_CODE")]).findings P msg [] ++
    (deviceSite .walletConnect "CONNECT_WALLET" "WALLET_CONNECT_REQUEST"
      [("type", text "CONNECT_WALLET"), ("dimension_ref", text "UA-08")] []).findings P msg []

def ussdFindings : List Finding :=
  (deviceSite .ussdDial "DIAL_CODE" "USSD_CODE_DIAL_REQUEST"
    [("type", text "DIAL_CODE")] []).findings P msg []

def itSupportFinding (sensitiveRequest : Bool) (m : Match) : Finding :=
  let clause := msg.clauseAt m.start
  let f := claim P msg .RELATIONSHIP_CONTEXT "IT_SUPPORT" m.start clause.sentenceStart
    (trimEnd msg.view ".!? ".toList clause.sentenceStart clause.sentenceStop)
    (pretext "TECHNICAL_SUPPORT") false
  let f := f.emitIf f.live "BENIGN_PRETEXT_FOR_TECHNICAL_ACTION" .MEDIUM
  f.emitIf (f.live && !sensitiveRequest) "IT_SUPPORT_CONTEXT" .HIGH

def benignCover (liveTechnical : Bool) (m : Match) : Finding :=
  let clause := msg.clauseAt m.start
  let f := claim P msg .CLAIM "BENIGN_COVER" m.start clause.start
    (trimEnd msg.view ".!?, ".toList clause.start clause.stop) (pretext "TECHNICAL_SUPPORT") true
  f.emitIf (f.live && liveTechnical) "BENIGN_PRETEXT_FOR_TECHNICAL_ACTION" .MEDIUM

/-- The support context or the benign cover of a technical action. -/
def coverFindings (technical : List Finding) (sensitiveRequest : Bool) : List Finding :=
  let support := if P.occursIn .itSupportTask msg.view then msg.find P .itSupport else []
  if technical = [] then []
  else if support ≠ [] then (support.take 1).map (itSupportFinding P msg sensitiveRequest)
  else ((msg.find P .benignCue).take 1).map (benignCover P msg (technical.any Finding.projects))

/-! ### Codes to scan, and links -/

/-- A scan request whose direction is stated. -/
def scanRequest (m : Match) : Option Finding :=
  let s := msg.structureAt P m.start true
  let direction := directionAfter P msg m.stop
  let scan (label : String) (target : List (String × Json)) : Finding :=
    Finding.emitIf
      { obsType := .PAYMENT_CONTEXT
        canonical := "SCAN_QR"
        start := m.start
        stop := m.stop
        struct := some s
        frame :=
          { action := [("type", text "SCAN_QR")], target := target, paymentDirection := some label }
        risky := true } s.live "QR_SCAN_REQUEST" .MEDIUM
  match direction.receive, direction.pay with
  | some _, _ => some ((scan "USER_RECEIVES" []).emitIf s.live "RECEIVE_FRAMING" .HIGH)
  | none, some p =>
    let merchant := hasGroup msg.view p "merchant" && s.live
    some ((scan "USER_PAYS" (if merchant then merchantTarget P msg p else [])).emitIf merchant
      "PAY_MERCHANT_DIRECTION" .HIGH)
  | none, none => none

/-- A code that is mentioned and attached, or to be scanned. -/
def qrMarker : Option Match :=
  let attachment := msg.find P .attachment
  let mention := msg.find P .qrMention
  if !mention.isEmpty && (!attachment.isEmpty || !(msg.find P .qrScan).isEmpty) then
    attachment.head?.or mention.head?
  else none

def qrFindings : List Finding :=
  match qrMarker P msg with
  | none => []
  | some m =>
    { obsType := .ENTITY
      canonical := "QR_PRESENT"
      start := m.start
      stop := m.stop
      struct := none
      indicators := [⟨"QR_PRESENT", .MEDIUM, false, none⟩] } ::
      (msg.find P .qrScan).filterMap (scanRequest P msg)

/-- What the parser reads of a link. -/
structure UrlParts where
  scheme : Option String
  authority : Text
  path : Text
  hostname : Text
  registered : Text
  subdomain : Text
  shortened : Bool
  obfuscated : Bool
  punycode : Bool
  ipLiteral : Bool

def dotted (labels : List Text) : Text := (labels.intersperse ['.']).flatten

def lastLabels (n : ℕ) (labels : List Text) : List Text := labels.drop (labels.length - n)

/-- Four runs of one to three digits. -/
def isIpLiteral (host : Text) : Bool :=
  let runs := host.splitOn '.'
  runs.length == 4 && runs.all fun r => 1 ≤ r.length && r.length ≤ 3 && r.all PyText.isDigit

/-- The structural part of `_url_observation`. -/
def urlParts (link : Text) : UrlParts :=
  let scheme := (P.finditer .scheme link 0 link.length).head?
  let rest := match scheme with
    | some m => link.drop m.stop
    | none => link
  let authority := rest.takeWhile (· != '/')
  let path := (rest.dropWhile (· != '/')).drop 1
  let address := ((authority.splitOn '@').getLast?).getD []
  let host := ((U.lower (address.takeWhile (· != ':'))).reverse.dropWhile (· == '.')).reverse
  let labels := (host.splitOn '.').filter fun l => !l.isEmpty
  let two := dotted (lastLabels 2 labels)
  let registered := if P.secondLevel.contains (String.ofList two) && 3 ≤ labels.length
    then dotted (lastLabels 3 labels) else two
  { scheme := scheme.map fun m =>
      String.ofList (U.lower ((m.group? link "1").getD []))
    authority := authority
    path := path
    hostname := host
    registered := registered
    subdomain := if !registered.isEmpty && ('.' :: registered).isSuffixOf host
      then host.take (host.length - registered.length - 1) else []
    shortened := P.shorteners.contains (String.ofList registered) ||
      P.shorteners.contains (String.ofList host)
    obfuscated := authority.contains '@' || authority.contains '%' || 5 < labels.length
    punycode := PyText.isInfix "xn--" (String.ofList host)
    ipLiteral := isIpLiteral host }

/-- The finding of one link; a parsed link is a fact. -/
def linkFinding (inputId : String) (n : ℕ) (span : ℕ × ℕ) : Finding :=
  let verifyAt := P.occursIn .verifyAtLink (slice msg.lower (msg.clauseAt span.1).start span.1)
  let f := claim P msg .LINK_ACTION (if verifyAt then "FAKE_VERIFICATION_SITE" else "LINK_PRESENT")
    span.1 span.1 span.2 (if verifyAt then pretext "VERIFICATION" else {}) true
  let f := { f with urlRef := some (inputId ++ ":u" ++ toString (n + 1)) }
  let f := f.emitIf (f.live && verifyAt) "FAKE_VERIFICATION_SITE" .HIGH
  let f := f.emitIf f.live "LINK_PRESENT" .HIGH
  f.emitIf (f.live && (urlParts U P (slice msg.text span.1 span.2)).shortened) "SHORTENED_URL" .HIGH

/-- `_url_findings` -/
def linkFindings (inputId : String) : List Finding :=
  msg.urlSpans.zipIdx.map fun e => linkFinding U P msg inputId e.2 e.1

/-! ### Identity and safety language -/

def actor (identity : String) : Frame :=
  { actor := [("claimed_identity", text identity), ("verified", text "UNKNOWN")] }

/-- A claim of office, which projects only beside a reason to heed it. -/
def officeClaim (canonical identity indicator : String) (heeded : Bool) (m : Match) : Finding :=
  let f := claimAt P msg .IDENTITY_ASSERTION canonical m (actor identity) false
  f.emitIf (f.live && heeded) indicator .MEDIUM

def identityFindings (liveDirective threatPresent : Bool) : List Finding :=
  (msg.find P .claimedRelative).map
      (plainClaim P msg .IDENTITY_ASSERTION "CLAIMED_RELATIVE" "CLAIMED_RELATIVE" .MEDIUM
        (actor "RELATIVE") true) ++
    (msg.find P .newNumber).map
      (plainClaim P msg .IDENTITY_ASSERTION "NEW_NUMBER" "NEW_NUMBER_CLAIM" .MEDIUM
        (actor "KNOWN_CONTACT") true) ++
    (msg.find P .bankClaim).map
      (officeClaim P msg "CLAIM_BANK" "AUTHORITY_BANK" "AUTHORITY_IMPERSONATION_BANK"
        liveDirective) ++
    (msg.find P .authorityClaim).map
      (officeClaim P msg "CLAIM_AUTHORITY" "AUTHORITY_LAW_ENFORCEMENT" "AUTHORITY_IMPERSONATION"
        (liveDirective || threatPresent))

def educationalFinding (m : Match) : Finding :=
  Finding.emit
    { obsType := .CLAIM
      canonical := "EDUCATIONAL_WARNING"
      start := m.start
      stop := m.stop
      struct := some ⟨.AFFIRMED, .HYPOTHETICAL, .DESCRIPTIVE⟩ } "EDUCATIONAL_CONTENT" .HIGH

def safetyFindings : List Finding :=
  ((msg.find P .educational).take 1).map educationalFinding ++
    (msg.find P .officialChannel).map fun m =>
      claimAt P msg .CLAIM "OFFICIAL_CHANNEL_REDIRECT" m {} false

/-- A risky occurrence that is reported or quoted, not denied. -/
def Finding.reported (f : Finding) : Bool :=
  match f.struct with
  | some s => f.risky && (s.attribution == .REPORTED || s.attribution == .QUOTED) &&
      s.polarity == .AFFIRMED
  | none => false

/-- The positions of the reported occurrences. -/
def reportedPositions (out : List Finding) : List ℕ :=
  (out.zipIdx.filter fun e => e.1.reported).map Prod.snd

def narrate (cites : List ℕ) (f : Finding) : Finding :=
  { f with indicators := f.indicators ++ [⟨"REPORTED_SCAM_NARRATIVE", .HIGH, false, some cites⟩] }

/-- The first reported occurrence stands for all of them. -/
def reportNarrative (out : List Finding) : List Finding :=
  match reportedPositions out with
  | [] => out
  | first :: rest => out.modify first (narrate (first :: rest))

/-! ### The whole message -/

/-- The findings up to the technical actions. -/
def requestFindings : List Finding :=
  credentialFindings P msg ++ (msg.find P .otpDelivered).map (otpDelivered P msg) ++
    threatFindings P msg ++
    paymentFindings P msg (qrMarker P msg).isSome ((threatFindings P msg).any Finding.live)

def pressureFindings : List Finding :=
  let out := requestFindings P msg
  (out ++ urgencyFindings P msg out ++ coercionFindings P msg).map affirmCoercion

def actionFindings : List Finding :=
  let technical := technicalFindings U P msg
  let out := pressureFindings P msg ++ pretextFindings P msg ++ technical ++ ussdFindings P msg
  let sensitive := out.any fun f => f.projects && f.risky &&
    (f.obsType == .AUTHENTICATION_ACTION || f.obsType == .PAYMENT_CONTEXT)
  out ++ coverFindings P msg technical sensitive ++ qrFindings P msg

/-- Whether a live occurrence asks for something sensitive. -/
def liveDirective (out : List Finding) : Bool :=
  out.any fun f => f.projects && f.risky &&
    [ObsType.AUTHENTICATION_ACTION, .PAYMENT_CONTEXT, .DEVICE_ACTION, .LINK_ACTION].contains
      f.obsType && f.struct.any (·.mood != .DESCRIPTIVE)

/-- `_find_all` -/
def findAll (inputId : String) : List Finding :=
  let out := actionFindings U P msg ++ linkFindings U P msg inputId
  reportNarrative (out ++
    identityFindings P msg (liveDirective out) ((threatFindings P msg).any Finding.live) ++
    safetyFindings P msg)

/-- The support gaps of a message. -/
def gapsOf : List String :=
  if (msg.find P .attachment).isEmpty then [] else ["REFERENCED_ATTACHMENT_NOT_EVALUATED"]

end TrustLens.Backend.Extraction
