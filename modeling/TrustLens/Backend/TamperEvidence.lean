import TrustLens.Backend.AuditChain
import TrustLens.Lib.HashChain

/-!
# Tamper evidence of the audit chain

Rows read back verify against the head their appends left, and a head is verified by one
list of rows only: the hash of a row determines every field of it.
-/

namespace TrustLens.Backend.AuditChain

open TrustLens.Ai Json

/-- How the libraries and the columns behave. -/
structure Library.Faithful (lib : Library) : Prop where
  number : FaithfulNumbers lib.number
  /-- a text that denotes an instant is kept as that instant -/
  timestamptz : ∀ t, lib.timestamptz (lib.instant t) = some t
  /-- a UUID in standard form is given back in it -/
  uuid : ∀ s, isUuid s.toList = true → lib.uuid s = some s
  /-- and nothing may follow it -/
  uuid_newline : ∀ s, s.toList.getLast? = some '\n' → lib.uuid s = none
  /-- a document of strings is given back, its members in some order -/
  jsonb : ∀ (d : Dict) j, (∀ e ∈ d.1, ∃ s, e.2 = .str s) → lib.jsonb (.obj d.1) = some j →
    sortKeys j = sortKeys (.obj d.1)

/-- Rows that differ at most in the order of their metadata's members. -/
def SameRow (r r' : Row) : Prop :=
  { r with safeMetadata := .null } = { r' with safeMetadata := .null } ∧
    sortKeys r.safeMetadata = sortKeys r'.safeMetadata

variable {lib : Library}

/-! ### The hash of a row -/

lemma sortKeys_optional {a b : Option String} (h : sortKeys (optional a) = sortKeys (optional b)) :
    a = b := by
  cases a with
  | none => cases b with
    | none => rfl
    | some b => cases h
  | some a => cases b with
    | none => cases h
    | some b => exact congrArg some (Json.str.inj h)

lemma members_nodup (r : Row) : (r.members.map Prod.fst).Nodup := by
  simp only [Row.members, List.map_cons, List.map_nil]
  decide

/-- The body of a row determines each of the fields it is made of. -/
lemma sameRow_of_body {r r' : Row} (hhash : r.eventHash = r'.eventHash)
    (h : sortKeys r.body = sortKeys r'.body) : SameRow r r' := by
  have hvalues : r.members.map (fun e => sortKeys e.2) = r'.members.map fun e => sortKeys e.2 :=
    values_eq_of_sortKeys rfl (members_nodup r) h
  simp only [Row.members, List.map_cons, List.map_nil, List.cons.injEq, sortKeys, Json.str.injEq,
    Json.int.injEq, and_true] at hvalues
  obtain ⟨hid, hchain, hsequence, hversion, htype, hoccurred, hrecorded, hactor, hkind, houtcome,
    htargetKind, htarget, hcase, hevaluation, hevidence, hbundle, hcorrelation, hmetadata,
    hprevious⟩ := hvalues
  refine ⟨?_, hmetadata⟩
  rw [hid, hchain, hsequence, hversion, htype, hoccurred, hrecorded, sortKeys_optional hactor,
    hkind, houtcome, htargetKind, sortKeys_optional htarget, sortKeys_optional hcase,
    sortKeys_optional hevaluation, sortKeys_optional hevidence, sortKeys_optional hbundle,
    hcorrelation, hprevious, hhash]

lemma event_hash_some {r : Row} {hash : String} (h : event_hash lib r = some hash) :
    ∃ text, canonicalJson lib.number r.body = some text ∧
      lib.sha256 (text.toList ++ r.previousEventHash.toList) = hash := by
  obtain ⟨text, htext, h⟩ := Option.bind_eq_some_iff.mp h
  split_ifs at h
  exact ⟨text, htext, Option.some_injective _ h⟩

/-- Rows that have one hash are the same. -/
lemma sameRow_of_event_hash (hf : lib.Faithful) (hsha : Function.Injective lib.sha256) {r r' : Row}
    (h : event_hash lib r = some r.eventHash) (h' : event_hash lib r' = some r'.eventHash)
    (heq : r.eventHash = r'.eventHash) :
    SameRow r r' ∧ r.previousEventHash = r'.previousEventHash := by
  obtain ⟨text, htext, hhash⟩ := event_hash_some h
  obtain ⟨text', htext', hhash'⟩ := event_hash_some h'
  obtain ⟨hadm, rfl⟩ := canonicalJson_eq_some.mp htext
  obtain ⟨hadm', rfl⟩ := canonicalJson_eq_some.mp htext'
  have hdata := hsha (hhash.trans (heq.trans hhash'.symm))
  -- the object ends where its text does, so the two parts of the data come apart
  obtain ⟨hbody, hprevious⟩ := sortKeys_eq_of_dumps_append hf.number
    (isFinite_of_plain r.body hadm.isPlain) (isFinite_of_plain r'.body hadm'.isPlain) hdata
  exact ⟨sameRow_of_body heq hbody, String.toList_injective hprevious⟩

lemma event_hash_congr {r r' : Row} (hbody : sortKeys r.body = sortKeys r'.body)
    (hprevious : r.previousEventHash = r'.previousEventHash) :
    event_hash lib r = event_hash lib r' := by
  rw [event_hash, event_hash, canonicalJson_congr hbody, hprevious]

/-! ### What a verification shows -/

lemma verifyFrom_ok {previous finish : String} {expected : ℤ} {rows : List Row}
    (h : verifyFrom lib previous expected rows = .ok finish) :
    Chained Row.previousEventHash Row.eventHash previous rows finish ∧
      ∀ r ∈ rows, event_hash lib r = some r.eventHash := by
  induction rows generalizing previous expected with
  | nil =>
    rw [verifyFrom, Except.ok.injEq] at h
    exact ⟨h, fun r hr => absurd hr List.not_mem_nil⟩
  | cons row rows ih =>
    rw [verifyFrom] at h
    split_ifs at h with hlink
    rw [not_or, not_not, not_not] at hlink
    split at h
    · cases h
    · rename_i hash hhash
      split_ifs at h with heq
      obtain ⟨hchain, hrows⟩ := ih h
      exact ⟨⟨hlink.2, hchain⟩, List.forall_mem_cons.mpr ⟨heq ▸ hhash, hrows⟩⟩

lemma verifyFrom_snoc {previous finish : String} {expected : ℤ} {rows : List Row} {row : Row}
    (h : verifyFrom lib previous expected rows = .ok finish)
    (hsequence : row.chainSequence = expected + rows.length)
    (hprevious : row.previousEventHash = finish)
    (hhash : event_hash lib row = some row.eventHash) :
    verifyFrom lib previous expected (rows ++ [row]) = .ok row.eventHash := by
  induction rows generalizing previous expected with
  | nil =>
    rw [verifyFrom, Except.ok.injEq] at h
    have hexpected : row.chainSequence = expected := by simpa using hsequence
    simp [verifyFrom, hexpected, hprevious, h, hhash]
  | cons first rows ih =>
    rw [verifyFrom] at h
    rw [List.cons_append, verifyFrom]
    split_ifs at h ⊢ with hlink
    split at h
    · cases h
    · split_ifs at h ⊢ with heq
      refine ih h ?_
      rw [hsequence, List.length_cons]
      omega

lemma verify_rows_ok {rows : List Row} {head : Option (ℤ × String)} {n : ℕ}
    (h : verify_rows lib rows head = .ok n) :
    ∃ finish, verifyFrom lib GENESIS_HASH 1 rows = .ok finish ∧ n = rows.length ∧
      head = some ((rows.length : ℤ), finish) := by
  unfold verify_rows at h
  split at h
  · cases h
  · rename_i finish hfrom
    split_ifs at h with hhead
    exact ⟨finish, hfrom, (Except.ok.inj h).symm, hhead⟩

/-- One head is verified by one list of rows. -/
lemma verified_rows_same (hf : lib.Faithful) (hsha : Function.Injective lib.sha256)
    {rows rows' : List Row} {head : Option (ℤ × String)} {n n' : ℕ}
    (h : verify_rows lib rows head = .ok n) (h' : verify_rows lib rows' head = .ok n') :
    List.Forall₂ SameRow rows rows' := by
  obtain ⟨finish, hfrom, -, hhead⟩ := verify_rows_ok h
  obtain ⟨finish', hfrom', -, hhead'⟩ := verify_rows_ok h'
  rw [hhead, Option.some.injEq, Prod.mk.injEq] at hhead'
  obtain ⟨hcount, rfl⟩ := hhead'
  have hlen : rows.length = rows'.length := by omega
  obtain ⟨hchain, hrows⟩ := verifyFrom_ok hfrom
  obtain ⟨hchain', hrows'⟩ := verifyFrom_ok hfrom'
  have hhash : ∀ r ∈ rows, ∀ r' ∈ rows', r.eventHash = r'.eventHash →
      SameRow r r' ∧ r.previousEventHash = r'.previousEventHash := fun r hr r' hr' heq =>
    sameRow_of_event_hash hf hsha (hrows r hr) (hrows' r' hr') heq
  exact (Chained.determined hhash hchain hchain' hlen).2

/-! ### What the columns keep -/

lemma uuid_kept (hf : lib.Faithful) {s t : String} (hs : _UUID s = true)
    (h : lib.uuid s = some t) : t = s := by
  simp only [_UUID, Schema.anchored, Bool.or_eq_true, Bool.and_eq_true, beq_iff_eq] at hs
  rcases hs with hs | ⟨hs, -⟩
  · rw [hf.uuid s hs] at h
    exact (Option.some_injective _ h).symm
  · rw [hf.uuid_newline s hs] at h
    cases h

lemma reference_kept (hf : lib.Faithful) {ref kept : Option String} (href : ref.all _UUID = true)
    (h : nullable lib.uuid ref = some kept) : kept = ref := by
  cases ref with
  | none => exact (Option.some_injective _ h).symm
  | some s =>
    obtain ⟨t, ht, rfl⟩ := Option.map_eq_some_iff.mp h
    rw [uuid_kept hf href ht]

/-- The metadata a new row may hold: none, or an object of strings. -/
def Recordable (j : Json) : Prop := j = .null ∨ ∃ d : Dict, j = .obj d.1 ∧ ∀ e ∈ d.1, ∃ s, e.2 = .str s

lemma metadata_kept (hf : lib.Faithful) {j : Json} {kept : Option Json} (hj : Recordable j)
    (h : nullable lib.jsonb (if j = .null then none else some j) = some kept) :
    sortKeys (kept.getD .null) = sortKeys j := by
  rcases hj with rfl | ⟨d, rfl, hd⟩
  · rw [if_pos rfl] at h
    cases h
    rfl
  · rw [if_neg nofun] at h
    obtain ⟨j', hj', rfl⟩ := Option.map_eq_some_iff.mp h
    exact hf.jsonb d j' hd hj'

lemma recordable_newRow {event : AuditEvent} {id chainId : String} {now : Time}
    {head : ℤ × String} (h : validate event = true) :
    Recordable (newRow lib event id chainId now head).safeMetadata := by
  unfold validate at h
  split at h
  · cases h
  · rename_i allowed _
    simp only [Bool.and_eq_true] at h
    have hall := h.1.1.1
    simp only [newRow]
    split
    · exact .inl rfl
    · exact .inl rfl
    · rename_i d _ hmetadata
      rw [hmetadata, Option.all_some, List.all_eq_true] at hall
      refine .inr ⟨d, rfl, fun e he => ?_⟩
      have hpermitted := hall e he
      unfold permitted at hpermitted
      split at hpermitted
      · rename_i s _ hs
        exact ⟨s, hs⟩
      · cases hpermitted

lemma body_of_sameRow {r r' : Row} (h : SameRow r r') : sortKeys r.body = sortKeys r'.body := by
  obtain ⟨hfields, hmetadata⟩ := h
  cases r
  cases r'
  simp only [Row.mk.injEq] at hfields
  simp only [Row.body, Row.members, sortKeys, sortMembers, hfields, hmetadata]

lemma references_valid {event : AuditEvent} (h : validate event = true) :
    event.actorPrincipalId.all _UUID = true ∧ event.targetId.all _UUID = true ∧
      event.caseRecordId.all _UUID = true ∧ event.evidenceItemId.all _UUID = true ∧
      event.evaluationId.all _UUID = true := by
  unfold validate at h
  split at h
  · cases h
  · simp only [Bool.and_eq_true, List.all_cons, List.all_nil] at h
    exact ⟨h.1.1.2.1, h.1.1.2.2.1, h.1.1.2.2.2.1, h.1.1.2.2.2.2.1, h.1.1.2.2.2.2.2.1⟩

lemma instant_kept (hf : lib.Faithful) {t t' : Time}
    (h : lib.timestamptz (lib.instant t) = some t') : t' = t := by
  rw [hf.timestamptz t] at h
  exact (Option.some_injective _ h).symm

/-- A stored row reads back as the row that was written. -/
lemma sameRow_of_store (hf : lib.Faithful) {event : AuditEvent} {id : Uuid} {chainId hash : String}
    {now : Time} {head : ℤ × String} (hvalid : validate event = true) {s : Stored}
    (h : store lib { newRow lib event id.1 chainId now head with eventHash := hash } = some s) :
    SameRow (s.row lib) { newRow lib event id.1 chainId now head with eventHash := hash } := by
  have hrecordable : Recordable (newRow lib event id.1 chainId now head).safeMetadata :=
    recordable_newRow hvalid
  obtain ⟨hactor, htarget, hcase, hevidence, hevaluation⟩ := references_valid hvalid
  simp only [store, Option.bind_eq_bind, Option.bind_eq_some_iff, Option.some.injEq] at h
  obtain ⟨i, hi, o, ho, r, hr, a, ha, t, ht, c, hc, v, hv, e, he, m, hm, rfl⟩ := h
  have hi' : i = id.1 := Option.some_injective _ (hi.symm.trans (hf.uuid id.1 id.2))
  have ho' := instant_kept hf ho
  have hr' := instant_kept hf hr
  have ha' := reference_kept hf hactor ha
  have ht' := reference_kept hf htarget ht
  have hc' := reference_kept hf hcase hc
  have hv' := reference_kept hf hevaluation hv
  have he' := reference_kept hf hevidence he
  subst hi' ho' hr' ha' ht' hc' hv' he'
  exact ⟨rfl, metadata_kept hf hrecordable hm⟩

/-! ### Runs -/

lemma append_ok {c c' : Chain} {event : AuditEvent} {id chainId : String} {now : Time} {row : Row}
    (h : append lib c event id chainId now = .ok (c', row)) :
    ∃ hash s, validate event = true ∧ chainId = CHAIN_ID ∧
      let unhashed := newRow lib event id chainId now (c.lastChainSequence, c.lastEventHash)
      event_hash lib unhashed = some hash ∧ row = { unhashed with eventHash := hash } ∧
      store lib row = some s ∧ c' = ⟨c.events ++ [s], row.chainSequence, row.eventHash⟩ := by
  unfold append Chain.head at h
  split at h
  · cases h
  · rename_i hvalid
    by_cases hchain : chainId = CHAIN_ID
    · simp only [hchain, if_true] at h
      split at h
      · cases h
      · rename_i hash hhash
        split at h
        · cases h
        · rename_i s hs
          split_ifs at h
          cases h
          exact ⟨hash, s, by simpa using hvalid, hchain, by rw [hchain]; exact ⟨hhash, rfl, hs, rfl⟩⟩
    · rw [if_neg hchain] at h
      cases h

lemma append_eq {c : Chain} {event : AuditEvent} {id : String} {now : Time} {hash : String}
    {s : Stored} (hvalid : validate event = true)
    (hhash : event_hash lib
      (newRow lib event id CHAIN_ID now (c.lastChainSequence, c.lastEventHash)) = some hash)
    (hs : store lib { newRow lib event id CHAIN_ID now (c.lastChainSequence, c.lastEventHash) with
      eventHash := hash } = some s) (hok : constraintsHold c.events s = true) :
    append lib c event id CHAIN_ID now = .ok (⟨c.events ++ [s], c.lastChainSequence + 1, hash⟩,
      { newRow lib event id CHAIN_ID now (c.lastChainSequence, c.lastEventHash) with
        eventHash := hash }) := by
  simp only [append, hvalid, Chain.head, if_true, hhash, hs, hok, Bool.not_true,
    Bool.false_eq_true, if_false]
  rfl

lemma step_of_append {c c' : Chain} {a : Append} {row : Row}
    (h : append lib c a.event a.id.1 a.chainId a.now = .ok (c', row)) :
    (system lib).step c a = some (c', .ok row) := by
  simp only [system, h]

/-- The rows read back verify against the head. -/
structure Verified (lib : Library) (c : Chain) : Prop where
  chain : verifyFrom lib GENESIS_HASH 1 (stored_rows lib c CHAIN_ID) = .ok c.lastEventHash
  count : c.lastChainSequence = (stored_rows lib c CHAIN_ID).length

lemma Verified.append (hf : lib.Faithful) {c c' : Chain} {event : AuditEvent} {id : Uuid}
    {chainId : String} {now : Time} {row : Row} (hc : Verified lib c)
    (h : append lib c event id.1 chainId now = .ok (c', row)) : Verified lib c' := by
  obtain ⟨hash, s, hvalid, rfl, hhash, rfl, hs, rfl⟩ := append_ok h
  have hsame := sameRow_of_store hf hvalid hs
  have hchainId : s.chainId = CHAIN_ID := congrArg Row.chainId hsame.1
  have hsequence : (s.row lib).chainSequence = c.lastChainSequence + 1 :=
    congrArg Row.chainSequence hsame.1
  have hprevious : (s.row lib).previousEventHash = c.lastEventHash :=
    congrArg Row.previousEventHash hsame.1
  have heventHash : (s.row lib).eventHash = hash := congrArg Row.eventHash hsame.1
  have hrows : stored_rows lib ⟨c.events ++ [s], c.lastChainSequence + 1, hash⟩ CHAIN_ID =
      stored_rows lib c CHAIN_ID ++ [s.row lib] := by
    simp [stored_rows, hchainId]
  -- the hash was taken of the row before it had one, which is the same data
  have hbody : sortKeys (s.row lib).body =
      sortKeys (newRow lib event id.1 CHAIN_ID now (c.lastChainSequence, c.lastEventHash)).body :=
    (body_of_sameRow hsame).trans rfl
  have hrehash : event_hash lib (s.row lib) = some (s.row lib).eventHash := by
    rw [heventHash, ← hhash]
    exact event_hash_congr hbody hprevious
  show Verified lib ⟨c.events ++ [s], c.lastChainSequence + 1, hash⟩
  constructor
  · have hsnoc := verifyFrom_snoc hc.chain (by rw [hsequence, hc.count, add_comm]) hprevious hrehash
    rw [hrows, hsnoc, heventHash]
  · rw [hrows, List.length_append, List.length_singleton, hc.count]
    rfl

/-- The rows of every reachable chain verify against its head. -/
lemma reachable_verified (hf : lib.Faithful) {c : Chain}
    (h : (system lib).Reachable System.anyStep c) : Verified lib c := by
  refine h.invariant (P := Verified lib) ⟨rfl, rfl⟩ fun c a c' out hc _ hstep => ?_
  simp only [system] at hstep
  split at hstep
  · rename_i c'' row happend
    cases hstep
    exact hc.append hf happend
  · cases hstep
    exact hc

/-- Every run of appends leaves rows that verify, all of them, against the recorded head; and
a head is verified by one list of rows only, up to the order of members in their metadata, so
that every other list fails against it. -/
theorem audit_chain_tamper_evident (hf : lib.Faithful) (hsha : Function.Injective lib.sha256) :
    (∀ c, (system lib).Reachable System.anyStep c →
      verify_rows lib (stored_rows lib c CHAIN_ID) (c.head CHAIN_ID) =
        .ok (stored_rows lib c CHAIN_ID).length) ∧
    (∀ rows rows' head n n', verify_rows lib rows head = .ok n →
      verify_rows lib rows' head = .ok n' → List.Forall₂ SameRow rows rows') ∧
    ∀ rows rows' head n, verify_rows lib rows head = .ok n → ¬List.Forall₂ SameRow rows rows' →
      ∃ e, verify_rows lib rows' head = .error e := by
  refine ⟨fun c hc => ?_, fun rows rows' head n n' h h' => verified_rows_same hf hsha h h', ?_⟩
  · obtain ⟨hchain, hcount⟩ := reachable_verified hf hc
    simp only [verify_rows, hchain, Chain.head, if_true, hcount]
  · intro rows rows' head n h hdiff
    cases h' : verify_rows lib rows' head with
    | error e => exact ⟨e, rfl⟩
    | ok n' => exact absurd (verified_rows_same hf hsha h h') hdiff

/-! ### One event -/

section Sample

lemma newline_not_mem_of_isUuid {cs : List Char} (h : isUuid cs = true) : '\n' ∉ cs := by
  have hgroup : ∀ {n : ℕ} {g : List Char}, hexGroup n g = true → '\n' ∉ g := by
    intro n g hg hmem
    simp only [hexGroup, Bool.and_eq_true, List.all_eq_true] at hg
    exact absurd (hg.2 _ hmem) (by decide)
  unfold isUuid at h
  split at h
  · rename_i a b c d e hparts
    simp only [Bool.and_eq_true] at h
    rw [← cs.intercalate_splitOn '-', hparts]
    simp [hgroup h.1.1.1.1.1.1, hgroup h.1.1.1.1.1.2, hgroup h.1.1.1.1.2, hgroup h.1.1.2,
      hgroup h.2]
  · cases h

/-- Libraries whose hash is injective and is SHA-256 on one given text. -/
def hashing (text : List Char) (digest : String) : Library where
  number := exactText
  sha256 data := if data = text then digest else String.ofList ('z' :: data)
  instant t := String.ofList ("1970-01-01T00:00:00.000000Z".toList ++ List.replicate t '0')
  timestamptz s := some (s.toList.length - 27)
  uuid s := if isUuid s.toList then some s else none
  jsonb j := some j

lemma hashing_text (text : List Char) (digest : String) :
    (hashing text digest).sha256 text = digest := if_pos rfl

lemma newRow_hashing {text text' : List Char} {digest digest' : String} {event : AuditEvent}
    {id chainId : String} {now : Time} {head : ℤ × String} :
    newRow (hashing text digest) event id chainId now head =
      newRow (hashing text' digest') event id chainId now head := rfl

lemma hashing_faithful (text : List Char) (digest : String) : (hashing text digest).Faithful where
  number := exactText_faithful
  timestamptz t := by simp [hashing]
  uuid s hs := if_pos hs
  uuid_newline s hs := if_neg fun h =>
    newline_not_mem_of_isUuid h (List.mem_of_getLast? hs)
  jsonb d j _ h := by
    cases h
    rfl

lemma hashing_injective {text : List Char} {digest : String} (hd : digest.toList.head? ≠ some 'z') :
    Function.Injective (hashing text digest).sha256 := by
  have hother : ∀ data : List Char, digest ≠ String.ofList ('z' :: data) := by
    rintro data rfl
    exact hd (by simp)
  intro x y h
  simp only [hashing] at h
  split_ifs at h with hx hy hy
  · rw [hx, hy]
  · exact absurd h (hother y)
  · exact absurd h.symm (hother x)
  · exact List.tail_eq_of_cons_eq (String.ofList_injective h)

def sampleEvent : AuditEvent where
  eventType := "CASE_CREATED"
  outcome := "SUCCEEDED"
  actorKind := "HUMAN"
  targetKind := "CASE"
  correlationId := "00000000-0000-4000-8000-000000000002"
  actorPrincipalId := none
  targetId := none
  safeMetadata := none
  occurredAt := none
  caseRecordId := none
  evidenceItemId := none
  evaluationId := none
  bundleContentDigest := none

def sampleAppend : Append where
  event := sampleEvent
  id := ⟨"00000000-0000-4000-8000-000000000001", by decide +kernel⟩
  chainId := CHAIN_ID
  now := 0

/-- The row of the event, as it is hashed. -/
def sampleRow : Row := newRow (hashing [] "") sampleEvent sampleAppend.id.1 CHAIN_ID 0 (0, GENESIS_HASH)

def sampleText : List Char := (dumps exactText sampleRow.body).toList ++ GENESIS_HASH.toList

def sampleHash : String := "193fa22f71712dc723bcbff9f83d1097567522c7a1b527192280970c17cc8887"

def sampleLibrary : Library := hashing sampleText sampleHash

def sampleStored : Stored where
  auditEventId := sampleAppend.id.1
  chainId := CHAIN_ID
  chainSequence := 1
  eventSchemaVersion := "1"
  eventType := "CASE_CREATED"
  occurredAt := 0
  recordedAt := 0
  actorPrincipalId := none
  actorKind := "HUMAN"
  outcome := "SUCCEEDED"
  targetKind := "CASE"
  targetId := none
  caseRecordId := none
  evaluationId := none
  evidenceItemId := none
  bundleContentDigest := none
  correlationId := "00000000-0000-4000-8000-000000000002"
  safeMetadata := none
  previousEventHash := GENESIS_HASH
  eventHash := sampleHash

lemma event_hash_sampleRow : event_hash sampleLibrary sampleRow = some sampleHash := by
  have hadm : Admissible exactText sampleRow.body :=
    ⟨by decide +kernel, by decide +kernel, by decide +kernel, by decide +kernel, by decide +kernel⟩
  have htext : canonicalJson sampleLibrary.number sampleRow.body =
      some (dumps exactText sampleRow.body) := canonicalJson_eq_some.mpr ⟨hadm, rfl⟩
  have hascii : sampleRow.previousEventHash.toList.all (·.toNat < 128) = true := by decide +kernel
  have hprevious : sampleRow.previousEventHash = GENESIS_HASH := rfl
  rw [event_hash, htext, Option.bind_some, if_pos hascii, hprevious, ← sampleText]
  exact congrArg some (hashing_text sampleText sampleHash)

lemma store_sampleRow :
    store sampleLibrary { sampleRow with eventHash := sampleHash } = some sampleStored := by
  decide +kernel

lemma newRow_sample :
    newRow sampleLibrary sampleEvent sampleAppend.id.1 CHAIN_ID 0
      (genesis.lastChainSequence, genesis.lastEventHash) = sampleRow :=
  newRow_hashing

theorem audit_chain_tamper_evident_oneEvent :
    ∃ c, (system sampleLibrary).Reachable System.anyStep c ∧ c.events = [sampleStored] ∧
      verify_rows sampleLibrary (stored_rows sampleLibrary c CHAIN_ID) (c.head CHAIN_ID) = .ok 1 := by
  have happend := @append_eq sampleLibrary genesis sampleEvent sampleAppend.id.1 0 sampleHash
    sampleStored (by decide +kernel) (by rw [newRow_sample]; exact event_hash_sampleRow)
    (by rw [newRow_sample]; exact store_sampleRow) (by decide +kernel)
  have hreach : (system sampleLibrary).Reachable System.anyStep _ :=
    (System.Steps.refl genesis).tail (M := system sampleLibrary) (a := sampleAppend) trivial
      (step_of_append happend)
  have hfaithful : sampleLibrary.Faithful := hashing_faithful sampleText sampleHash
  have hverify := (audit_chain_tamper_evident hfaithful (hashing_injective (by decide +kernel))).1 _
    hreach
  exact ⟨_, hreach, rfl, hverify⟩

end Sample

end TrustLens.Backend.AuditChain
