import TrustLens.Backend.EvidenceIntake
import TrustLens.Lib.Except

/-!
# Fencing of evidence writes

What each transaction of a PUT or finalize request can change, and what holds in every
state that any interleaving reaches.
-/

namespace TrustLens.Backend.EvidenceIntake

/-! ## What a transaction can do -/

lemma updateItem_ok {db db' : Db} {p : Item → Bool} {f : Item → Item} {updated : Bool}
    (h : db.updateItem p f = .ok (db', updated)) :
    (db' = db ∧ updated = false) ∨ ∃ item, db.item = some item ∧ p item = true ∧
      db' = { db with item := some (f item) } ∧ updated = true := by
  unfold Db.updateItem at h
  split at h
  · obtain ⟨rfl, rfl⟩ := Prod.mk.inj (Except.ok.inj h)
    exact .inl ⟨rfl, rfl⟩
  · rename_i item hi
    split_ifs at h with hp hg
    · obtain ⟨rfl, rfl⟩ := Prod.mk.inj (Except.ok.inj h)
      exact .inr ⟨item, hi, hp, rfl, rfl⟩
    · obtain ⟨rfl, rfl⟩ := Prod.mk.inj (Except.ok.inj h)
      exact .inl ⟨rfl, rfl⟩

lemma updateOperation_ok {db db' : Db} {p : Operation → Bool} {f : Operation → Operation}
    {updated : Bool} (h : db.updateOperation p f = .ok (db', updated)) :
    (db' = db ∧ updated = false ∧ p db.operation = false) ∨ (p db.operation = true ∧
      db' = { db with operation := f db.operation } ∧ updated = true) := by
  unfold Db.updateOperation at h
  split_ifs at h with hp hg
  · obtain ⟨rfl, rfl⟩ := Prod.mk.inj (Except.ok.inj h)
    exact .inr ⟨hp, rfl, rfl⟩
  · obtain ⟨rfl, rfl⟩ := Prod.mk.inj (Except.ok.inj h)
    exact .inl ⟨rfl, rfl, eq_false_of_ne_true hp⟩

/-- An unconditional move of the item. -/
lemma moveItem_ok {db db' : Db} {state : ContentState} {updated : Bool}
    (h : db.moveItem state = .ok (db', updated)) :
    db'.operation = db.operation ∧ db'.intent = db.intent ∧
      db'.item = db.item.map fun item => { item with contentState := state } := by
  unfold Db.moveItem Db.updateItem at h
  split at h
  · rename_i hi
    obtain ⟨rfl, rfl⟩ := Prod.mk.inj (Except.ok.inj h)
    exact ⟨rfl, rfl, by simp [hi]⟩
  · rename_i item hi
    simp only [if_true] at h
    split_ifs at h
    obtain ⟨rfl, rfl⟩ := Prod.mk.inj (Except.ok.inj h)
    exact ⟨rfl, rfl, by simp [hi]⟩

lemma failItem_ok {db db' : Db} {terminal moved : Bool}
    (h : db.failItem terminal = .ok (db', moved)) :
    db'.operation = db.operation ∧ db'.intent = db.intent ∧
      db'.item = db.item.map fun item =>
        { item with contentState := if terminal then .FAILED_TERMINAL else .FAILED_RETRYABLE } := by
  unfold Db.failItem at h
  obtain ⟨⟨db₁, moved₁⟩, h₁, h⟩ := bind_ok h
  obtain ⟨ho, hn, hi⟩ := moveItem_ok h₁
  cases terminal with
  | true =>
    obtain ⟨ho', hn', hi'⟩ := moveItem_ok h
    refine ⟨ho'.trans ho, hn'.trans hn, ?_⟩
    rw [hi', hi, Option.map_map]
    rfl
  | false =>
    obtain ⟨rfl, rfl⟩ := Prod.mk.inj (Except.ok.inj h)
    exact ⟨ho, hn, hi⟩

/-- The same item otherwise: digest and length stay, and a locator once it is set. -/
structure Item.Kept (old new : Item) : Prop where
  sha256 : new.contentSha256 = old.contentSha256
  length : new.byteLength = old.byteLength
  locator : ∀ l, old.ecsLocator = some l → new.ecsLocator = some l

/-- Everything a transaction can do to the item and its operation. -/
inductive Change (db : Db) (now : Time) : Option ℕ → Db → Prop where
  | same (n : Option ℕ) (db' : Db) (hi : db'.item = db.item) (ho : db'.operation = db.operation) :
      Change db now n db'
  | began (db' : Db) (item : Item) (hw : db.operation.state.writable = true)
      (hfree : db.operation.state = .RECEIVED ∨ db.operation.waiting now = false)
      (hmax : db.operation.state = .CONTENT_PENDING → db.operation.attemptCount < MAX_WRITE_ATTEMPTS)
      (ho : db'.operation = db.operation.begun now) (hi : db'.item = some item)
      (hs : item.contentState = .CONTENT_PENDING)
      (hk : ∀ old, db.item = some old → old.Kept item) : Change db now none db'
  | terminated (db' : Db) (hs : db.operation.state = .CONTENT_PENDING)
      (hw : db.operation.waiting now = false)
      (ho : db'.operation = db.operation.recorded .FAILED_TERMINAL none
        (some .CONTENT_STORE_UNAVAILABLE) none now)
      (hi : db'.item = db.item.map fun item => { item with contentState := .FAILED_TERMINAL }) :
      Change db now none db'
  | stored (n : ℕ) (db' : Db) (locator : Locator) (old : Item)
      (hh : db.operation.heldBy n = true)
      (ho : db'.operation = db.operation.recorded .CONTENT_STORED (some locator) none none now)
      (hold : db.item = some old) (hl : old.ecsLocator = none)
      (hi : db'.item = some { old with contentState := .CONTENT_STORED, ecsLocator := some locator }) :
      Change db now (some n) db'
  | failed (n : ℕ) (db' : Db) (state : ContentState) (backoff : Option ℕ)
      (hh : db.operation.heldBy n = true)
      (hs : state = .FAILED_TERMINAL ∨ state = .FAILED_RETRYABLE ∧ n < MAX_WRITE_ATTEMPTS)
      (ho : db'.operation = db.operation.recorded state none (some .CONTENT_STORE_UNAVAILABLE)
        backoff now)
      (hi : db'.item = db.item.map fun item => { item with contentState := state }) :
      Change db now (some n) db'
  | released (n : ℕ) (db' : Db) (hh : db.operation.heldBy n = true)
      (ho : db'.operation = { db.operation with nextAttemptNotBefore := some now })
      (hi : db'.item = db.item) : Change db now (some n) db'

lemma terminate_ok {db db' : Db} {now : Time} {moved : Bool}
    (hs : db.operation.state = .CONTENT_PENDING)
    (h : db.terminate db.operation.attemptCount now = .ok (db', moved)) :
    db'.operation = db.operation.recorded .FAILED_TERMINAL none
        (some .CONTENT_STORE_UNAVAILABLE) none now ∧
      db'.item = db.item.map fun item => { item with contentState := .FAILED_TERMINAL } := by
  unfold Db.terminate at h
  obtain ⟨⟨db₁, held⟩, h₁, h⟩ := bind_ok h
  obtain ⟨ho, -, hi⟩ := failItem_ok h
  rcases updateOperation_ok h₁ with ⟨-, -, hn⟩ | ⟨-, rfl, -⟩
  · exact absurd hn (by simp [Operation.heldBy, hs])
  · exact ⟨ho, hi⟩

/-- What a PUT learns of its attempt. -/
def Numbered (db db' : Db) (out : Option ℕ) : Prop :=
  ∀ n, out = some n → n = db.operation.attemptCount + 1 ∧ db'.operation.attemptCount = n

lemma beginAttempt_ok {db db' : Db} {now : Time} {out : Option ℕ}
    (h : db.beginAttempt now = .ok (db', out)) :
    Change db now none db' ∧ Numbered db db' out ∧
      (db.operation.state = .RECEIVED → out.isSome = true) := by
  unfold Db.beginAttempt at h
  split_ifs at h with hwait hmax
  · obtain ⟨rfl, rfl⟩ := Prod.mk.inj (Except.ok.inj h)
    refine ⟨.same _ _ rfl rfl, nofun, fun hs => absurd hwait (by simp [hs])⟩
  · obtain ⟨⟨db₁, moved⟩, h₁, h⟩ := bind_ok h
    obtain ⟨rfl, rfl⟩ := Prod.mk.inj (Except.ok.inj h)
    simp only [Bool.and_eq_true, beq_iff_eq] at hmax
    obtain ⟨ho, hi⟩ := terminate_ok hmax.1 h₁
    refine ⟨.terminated _ hmax.1 ?_ ho hi, nofun, fun hs => ?_⟩
    · simpa [hmax.1] using hwait
    · exact absurd (hs.symm.trans hmax.1) (by decide)
  · obtain ⟨⟨db₁, advanced⟩, h₁, h⟩ := bind_ok h
    rcases updateOperation_ok h₁ with ⟨rfl, rfl, -⟩ | ⟨hp, rfl, rfl⟩
    · exact absurd h (by simp)
    · simp only [if_true] at h
      obtain ⟨⟨db₂, moved⟩, h₂, h⟩ := bind_ok h
      rcases updateItem_ok h₂ with ⟨rfl, rfl⟩ | ⟨item, hitem, -, rfl, rfl⟩
      · exact absurd h (by simp)
      · obtain ⟨rfl, rfl⟩ := Prod.mk.inj (Except.ok.inj h)
        simp only [Bool.and_eq_true] at hp
        refine ⟨.began _ { item with contentState := .CONTENT_PENDING } hp.2 ?_ ?_ rfl rfl rfl ?_,
          ?_, fun _ => rfl⟩
        · cases hst : db.operation.state <;> simp_all [ContentState.writable]
        · intro hst
          simpa [hst] using hmax
        · intro old hold
          obtain rfl := Option.some.inj (hitem.symm.trans hold)
          exact ⟨rfl, rfl, fun l hl => hl⟩
        · intro n hn
          obtain rfl := Option.some.inj hn
          exact ⟨rfl, rfl⟩

variable {sha256 : Bytes → String}

lemma change_refuse (db : Db) (now : Time) (category : Rejection) :
    Change db now none (db.refuse category) := by
  unfold Db.refuse
  split_ifs
  · exact .same _ _ rfl rfl
  · exact .same _ _ rfl rfl

lemma putFirst_ok {db db' : Db} {r : PutRequest} {now : Time} {out : Option ℕ}
    (hn : db.item = none) (hs : db.operation.state = .RECEIVED)
    (h : putFirst sha256 db r now = .ok (db', out)) :
    Change db now none db' ∧ Numbered db db' out := by
  unfold putFirst at h
  split_ifs at h
  · obtain ⟨rfl, rfl⟩ := Prod.mk.inj (Except.ok.inj h)
    exact ⟨.same _ _ rfl rfl, nofun⟩
  · obtain ⟨rfl, rfl⟩ := Prod.mk.inj (Except.ok.inj h)
    exact ⟨.same _ _ rfl rfl, nofun⟩
  · obtain ⟨rfl, rfl⟩ := Prod.mk.inj (Except.ok.inj h)
    exact ⟨.same _ _ rfl rfl, nofun⟩
  · obtain ⟨hc, hnum, hsome⟩ := beginAttempt_ok h
    refine ⟨?_, hnum⟩
    obtain ⟨n, rfl⟩ := Option.isSome_iff_exists.mp (hsome hs)
    cases hc with
    | same _ _ hi ho =>
      obtain ⟨h1, h2⟩ := hnum n rfl
      rw [ho] at h2
      exact absurd (h2.trans h1) (Nat.ne_of_lt (Nat.lt_succ_self _))
    | began _ item hw hfree hmax ho hi hpend hk =>
      exact .began _ item hw hfree hmax ho hi hpend fun old hold => absurd (hn.symm.trans hold) nofun
    | terminated _ hp => exact absurd (hs.symm.trans hp) (by decide)

lemma putTx_ok {db db' : Db} {r : PutRequest} {now : Time} {out : Option ℕ}
    (hn : db.item = none → db.operation.state = .RECEIVED)
    (h : putTx sha256 db r now = .ok (db', out)) :
    Change db now none db' ∧ Numbered db db' out := by
  unfold putTx at h
  split_ifs at h
  · obtain ⟨rfl, rfl⟩ := Prod.mk.inj (Except.ok.inj h)
    exact ⟨change_refuse _ _ _, nofun⟩
  · obtain ⟨rfl, rfl⟩ := Prod.mk.inj (Except.ok.inj h)
    exact ⟨change_refuse _ _ _, nofun⟩
  · split at h
    · unfold putAgain at h
      split_ifs at h
      · obtain ⟨rfl, rfl⟩ := Prod.mk.inj (Except.ok.inj h)
        exact ⟨.same _ _ rfl rfl, nofun⟩
      · obtain ⟨rfl, rfl⟩ := Prod.mk.inj (Except.ok.inj h)
        exact ⟨.same _ _ rfl rfl, nofun⟩
      · obtain ⟨hc, hnum, -⟩ := beginAttempt_ok h
        exact ⟨hc, hnum⟩
    · exact putFirst_ok ‹_› (hn ‹_›) h

lemma recordTx_ok {db db' : Db} {n : ℕ} {locator : Locator} {now : Time} {held : Bool}
    (h : recordTx db n locator now = .ok (db', held)) : Change db now (some n) db' := by
  unfold recordTx at h
  obtain ⟨⟨db₁, held₁⟩, h₁, h⟩ := bind_ok h
  rcases updateOperation_ok h₁ with ⟨rfl, rfl, -⟩ | ⟨hh, rfl, rfl⟩
  · obtain ⟨rfl, rfl⟩ := Prod.mk.inj (Except.ok.inj h)
    exact .same _ _ rfl rfl
  · simp only [if_true] at h
    obtain ⟨⟨db₂, moved⟩, h₂, h⟩ := bind_ok h
    rcases updateItem_ok h₂ with ⟨rfl, rfl⟩ | ⟨item, hitem, hp, rfl, rfl⟩
    · exact absurd h (by simp)
    · obtain ⟨rfl, rfl⟩ := Prod.mk.inj (Except.ok.inj h)
      simp only [Bool.and_eq_true, Option.isNone_iff_eq_none] at hp
      exact .stored n _ locator item hh rfl hitem hp.2 rfl

lemma writeFailedTx_ok {db db' : Db} {n : ℕ} {now : Time} {held : Bool}
    (h : writeFailedTx db n now = .ok (db', held)) : Change db now (some n) db' := by
  unfold writeFailedTx at h
  split_ifs at h with hmax
  · obtain ⟨⟨db₁, held₁⟩, h₁, h⟩ := bind_ok h
    rcases updateOperation_ok h₁ with ⟨rfl, rfl, -⟩ | ⟨hh, rfl, rfl⟩
    · obtain ⟨rfl, rfl⟩ := Prod.mk.inj (Except.ok.inj h)
      exact .same _ _ rfl rfl
    · obtain ⟨ho, -, hi⟩ := failItem_ok h
      exact .failed n _ .FAILED_TERMINAL none hh (.inl rfl) ho hi
  · obtain ⟨⟨db₁, held₁⟩, h₁, h⟩ := bind_ok h
    rcases updateOperation_ok h₁ with ⟨rfl, rfl, -⟩ | ⟨hh, rfl, rfl⟩
    · obtain ⟨rfl, rfl⟩ := Prod.mk.inj (Except.ok.inj h)
      exact .same _ _ rfl rfl
    · obtain ⟨ho, -, hi⟩ := failItem_ok h
      exact .failed n _ .FAILED_RETRYABLE _ hh (.inr ⟨rfl, Nat.lt_of_not_le hmax⟩) ho hi

lemma releaseTx_ok {db db' : Db} {n : ℕ} {now : Time} {held : Bool}
    (h : releaseTx db n now = .ok (db', held)) : Change db now (some n) db' := by
  rcases updateOperation_ok h with ⟨rfl, -, -⟩ | ⟨hh, rfl, -⟩
  · exact .same _ _ rfl rfl
  · exact .released n _ hh rfl rfl

/-- What the last transaction of a finalize request can do. -/
inductive Settlement (db : Db) (verified : Bool) : Db → Prop where
  | same : Settlement db verified db
  | settled (db' : Db) (old new : Item) (hold : db.item = some old)
      (hs : old.contentState = .CONTENT_STORED ∨ old.contentState = .INTEGRITY_VERIFIED)
      (hi : db'.item = some new) (hk : old.Kept new) (hl : new.ecsLocator = old.ecsLocator)
      (hsame : new.contentState = db'.operation.state)
      (hnew : new.contentState = .INTEGRITY_FAILED ∨
        (new.contentState = .FINALIZED ∧ verified = true))
      (hcount : db'.operation.attemptCount = db.operation.attemptCount) : Settlement db verified db'

lemma stored_of_not {s : ContentState}
    (h : ¬(s != .CONTENT_STORED && s != .INTEGRITY_VERIFIED) = true) :
    s = .CONTENT_STORED ∨ s = .INTEGRITY_VERIFIED := by
  cases s <;> simp_all

lemma updateItem_all {db db' : Db} {item : Item} {f : Item → Item} {updated : Bool}
    (hi : db.item = some item) (h : db.updateItem (fun _ => true) f = .ok (db', updated)) :
    db' = { db with item := some (f item) } := by
  unfold Db.updateItem at h
  simp only [hi, if_true] at h
  split_ifs at h
  exact (Prod.mk.inj (Except.ok.inj h)).1.symm

lemma verifyItem_ok {db db' : Db} {item : Item} {now : Time} {updated : Bool}
    (hi : db.item = some item) (h : verifyItem db item now = .ok (db', updated)) :
    ∃ item', db'.item = some item' ∧ db'.operation = db.operation ∧ item.Kept item' ∧
      item'.ecsLocator = item.ecsLocator := by
  unfold verifyItem at h
  split_ifs at h
  · obtain rfl := updateItem_all hi h
    exact ⟨_, rfl, rfl, ⟨rfl, rfl, fun l hl => hl⟩, rfl⟩
  · obtain ⟨rfl, -⟩ := Prod.mk.inj (Except.ok.inj h)
    exact ⟨item, hi, rfl, ⟨rfl, rfl, fun l hl => hl⟩, rfl⟩

lemma finalizeTx_ok {db db' : Db} {verified done : Bool} {now : Time}
    (h : finalizeTx db verified now = .ok (db', done)) : Settlement db verified db' := by
  unfold finalizeTx at h
  split at h
  · exact absurd h (by simp)
  · rename_i item hitem
    split_ifs at h with hfin hstate hver
    · obtain ⟨rfl, rfl⟩ := Prod.mk.inj (Except.ok.inj h)
      exact .same
    · obtain ⟨rfl, rfl⟩ := Prod.mk.inj (Except.ok.inj h)
      exact .same
    · obtain ⟨⟨db₁, moved⟩, h₁, h⟩ := bind_ok h
      obtain ⟨⟨db₂, moved₂⟩, h₂, h⟩ := bind_ok h
      obtain ⟨rfl, rfl⟩ := Prod.mk.inj (Except.ok.inj h)
      obtain ⟨ho, -, hi⟩ := moveItem_ok h₁
      rcases updateOperation_ok h₂ with ⟨-, -, hn⟩ | ⟨-, rfl, -⟩
      · exact absurd hn (by simp)
      · rw [hitem, Option.map_some] at hi
        exact .settled _ item _ hitem (stored_of_not hstate) hi ⟨rfl, rfl, fun l hl => hl⟩ rfl rfl
          (.inl rfl) (congrArg Operation.attemptCount ho :)
    · obtain ⟨⟨db₁, moved₁⟩, h₁, h⟩ := bind_ok h
      obtain ⟨⟨db₂, moved₂⟩, h₂, h⟩ := bind_ok h
      obtain ⟨⟨db₃, moved₃⟩, h₃, h⟩ := bind_ok h
      obtain ⟨rfl, rfl⟩ := Prod.mk.inj (Except.ok.inj h)
      obtain ⟨item₁, hi₁, ho₁, hk₁, hl₁⟩ := verifyItem_ok hitem h₁
      obtain rfl := updateItem_all hi₁ h₂
      rcases updateOperation_ok h₃ with ⟨-, -, hn⟩ | ⟨-, rfl, -⟩
      · exact absurd hn (by simp)
      · exact .settled _ item _ hitem (stored_of_not hstate) rfl
          ⟨hk₁.sha256, hk₁.length, hk₁.locator⟩ hl₁ rfl (.inr ⟨rfl, by simpa using hver⟩)
          (congrArg Operation.attemptCount ho₁ :)

/-! ## What a step can do -/

/-- Bytes of the recorded length and digest were read at the item's locator. -/
def Reread (sha256 : Bytes → String) (item : Item) (reads : List (Locator × Bytes)) : Prop :=
  ∃ l bytes, item.ecsLocator = some l ∧ (l, bytes) ∈ reads ∧ bytes.length = item.byteLength ∧
    sha256 bytes = item.contentSha256

/-- What a finalize request in this phase relies on. -/
def Justified (sha256 : Bytes → String) (db : Db) (reads : List (Locator × Bytes)) :
    FinalizePhase → Prop
  | .verifying (some l) sha length => ∃ item, db.item = some item ∧ item.ecsLocator = some l ∧
      item.contentSha256 = sha ∧ item.byteLength = length
  | .deciding true => ∃ item, db.item = some item ∧ Reread sha256 item reads
  | _ => True

/-- Everything a step can do. -/
inductive Move (sha256 : Bytes → String) (s : Sys) : Action → Sys → Prop where
  | tick (d : Time) : Move sha256 s (.tick d) { s with now := s.now + d }
  | put (a : Action) (p : ℕ) (phase : PutPhase) (ha : a.put? = some p)
      (hn : ∀ n, phase.attempt? = some n → ∃ before, s.puts p = some before ∧
        before.attempt? = some n) : Move sha256 s a (s.setPut p phase)
  | finalizer (a : Action) (f : ℕ) (phase : FinalizePhase) (reads : List (Locator × Bytes))
      (ha : a.put? = none) (hr : s.reads ⊆ reads)
      (hj : (∀ before, s.finalizers f = some before → Justified sha256 s.db s.reads before) →
        Justified sha256 s.db reads phase) :
      Move sha256 s a { s.setFinalizer f phase with reads := reads }
  | began (p : ℕ) (delivery : Delivery) (start : Time) (request : PutRequest) (db : Db)
      (phase : PutPhase) (hle : start ≤ s.now) (hp : s.puts p = some (.receiving request))
      (hc : Change s.db start none db)
      (hn : ∀ n, phase.attempt? = some n → n = s.db.operation.attemptCount + 1 ∧
        db.operation.attemptCount = n) :
      Move sha256 s (.transact p delivery start) ((grantNew s db start).setPut p phase)
  | outcome (p : ℕ) (delivery : Delivery) (start : Time) (before phase : PutPhase) (n : ℕ) (db : Db)
      (hle : start ≤ s.now) (hp : s.puts p = some before) (hn : before.attempt? = some n)
      (hc : Change s.db start (some n) db) (hphase : ∀ m, phase.attempt? = some m → m = n) :
      Move sha256 s (.transact p delivery start) ((settle s db n start).setPut p phase)
  | decided (f : ℕ) (delivery : Delivery) (start : Time) (verified : Bool) (db : Db)
      (hp : s.finalizers f = some (.deciding verified)) (hs : Settlement s.db verified db) :
      Move sha256 s (.decide f delivery start) ((s.setDb db).setFinalizer f .ended)

lemma afterPut_attempt {db db' : Db} {out : Option ℕ} {seen : Seen TxError (Option ℕ)}
    (hn : Numbered db db' out) (hs : seen = .done out ∨ seen = .fault) {n : ℕ}
    (h : (afterPut seen).attempt? = some n) :
    n = db.operation.attemptCount + 1 ∧ db'.operation.attemptCount = n := by
  rcases hs with rfl | rfl
  · cases out with
    | none => exact absurd h nofun
    | some m =>
      obtain rfl := Option.some.inj h
      exact hn m rfl
  · exact absurd h nofun

lemma afterRecord_attempt {number m : ℕ} {seen : Seen TxError Bool}
    (h : (afterRecord number seen).attempt? = some m) : m = number := by
  cases seen with
  | done => exact absurd h nofun
  | error => exact (Option.some.inj h).symm
  | fault => exact (Option.some.inj h).symm

/-- A transaction under an attempt, delivered, changes what the attempt may change. -/
lemma deliver_change {db : Db} {n : ℕ} {start : Time} {tx : Except TxError (Db × Bool)}
    {delivery : Delivery} (h : ∀ db' held, tx = .ok (db', held) → Change db start (some n) db') :
    Change db start (some n) (deliver db tx delivery).1 := by
  rcases deliver_cases db tx delivery with ⟨seen, hout, -⟩ | ⟨db', held, seen, htx, hout, -⟩
  · rw [hout]
    exact .same _ _ rfl rfl
  · rw [hout]
    exact h db' held htx

lemma transact_cases {s s' : Sys} {p : ℕ} {delivery : Delivery} {start : Time} {phase : PutPhase}
    (hn : s.db.item = none → s.db.operation.state = .RECEIVED) (hle : start ≤ s.now)
    (hp : s.puts p = some phase) (h : transact sha256 s p delivery start phase = some s') :
    Move sha256 s (.transact p delivery start) s' := by
  cases phase with
  | receiving request =>
    obtain rfl := Option.some.inj h
    rcases deliver_cases s.db (putTx sha256 s.db request start) delivery
      with ⟨seen, hout, hseen⟩ | ⟨db', out, seen, htx, hout, hseen⟩
    · rw [hout]
      refine .began p delivery start request s.db _ hle hp (.same _ _ rfl rfl) fun n hphase => ?_
      cases seen with
      | done r => exact absurd rfl (hseen r)
      | error => exact absurd hphase nofun
      | fault => exact absurd hphase nofun
    · rw [hout]
      obtain ⟨hc, hnum⟩ := putTx_ok hn htx
      exact .began p delivery start request db' _ hle hp hc fun n hphase =>
        afterPut_attempt hnum hseen hphase
  | recording number locator =>
    obtain rfl := Option.some.inj h
    exact .outcome p delivery start _ _ number _ hle hp rfl
      (deliver_change fun _ _ htx => recordTx_ok htx) fun m hm => afterRecord_attempt hm
  | failing number =>
    obtain rfl := Option.some.inj h
    exact .outcome p delivery start _ _ number _ hle hp rfl
      (deliver_change fun _ _ htx => writeFailedTx_ok htx) fun m hm => afterRecord_attempt hm
  | releasing number =>
    obtain rfl := Option.some.inj h
    exact .outcome p delivery start _ _ number _ hle hp rfl
      (deliver_change fun _ _ htx => releaseTx_ok htx) fun m hm => absurd hm nofun
  | storing | ended => exact absurd h nofun

/-- What a verified pair of reads says. -/
lemma verdict_true {sha : String} {length : ℕ} {got verified : Read}
    (h : verdict sha256 sha length got verified = some true) :
    ∃ data bytes, got = .data data ∧ verified = .data bytes ∧ bytes.length = length ∧
      sha256 bytes = sha := by
  cases got with
  | unavailable => exact absurd h nofun
  | integrityFailure => exact absurd h (by simp [verdict])
  | data data =>
    cases verified with
    | unavailable => exact absurd h nofun
    | integrityFailure => exact absurd h (by simp [verdict])
    | data bytes =>
      simp only [verdict, Option.some.injEq, Bool.and_eq_true, beq_iff_eq] at h
      exact ⟨data, bytes, rfl, rfl, h.1.1, h.1.2⟩

theorem step_cases {s s' : Sys} {a : Action} {out : Unit}
    (hn : s.db.item = none → s.db.operation.state = .RECEIVED)
    (h : step sha256 s a = some (s', out)) : Move sha256 s a s' := by
  cases a with
  | tick d =>
    simp only [step, Option.some.injEq, Prod.mk.injEq, and_true] at h
    exact h ▸ .tick d
  | put p request =>
    simp only [step] at h
    split at h
    · simp only [Option.some.injEq, Prod.mk.injEq, and_true] at h
      exact h ▸ .put _ p _ rfl nofun
    · exact absurd h nofun
  | finalize f =>
    simp only [step] at h
    split at h
    · simp only [Option.some.injEq, Prod.mk.injEq, and_true] at h
      exact h ▸ .finalizer _ f .looking s.reads rfl (List.Subset.refl _) fun _ => trivial
    · exact absurd h nofun
  | store p stored =>
    simp only [step] at h
    split at h
    · rename_i number hp
      split at h
      · simp only [Option.some.injEq, Prod.mk.injEq, and_true] at h
        exact h ▸ .put _ p _ rfl fun n hm => ⟨_, hp, hm⟩
      · simp only [Option.some.injEq, Prod.mk.injEq, and_true] at h
        exact h ▸ .put _ p _ rfl fun n hm => ⟨_, hp, hm⟩
    · exact absurd h nofun
  | transact p delivery start =>
    simp only [step] at h
    split at h
    · rename_i phase hp
      split_ifs at h with hle
      obtain ⟨t, ht, h⟩ := Option.map_eq_some_iff.mp h
      simp only [Prod.mk.injEq, and_true] at h
      exact h ▸ transact_cases hn hle hp ht
    · exact absurd h nofun
  | crash p =>
    simp only [step] at h
    split at h
    · simp only [Option.some.injEq, Prod.mk.injEq, and_true] at h
      exact h ▸ .put _ p _ rfl nofun
    · exact absurd h nofun
  | look f =>
    have hquiet : ∀ phase, (Justified sha256 s.db s.reads phase) →
        Move sha256 s (.look f) (s.setFinalizer f phase) :=
      fun phase hj => .finalizer _ f phase s.reads rfl (List.Subset.refl _) fun _ => hj
    simp only [step] at h
    split at h
    · split at h
      · simp only [Option.some.injEq, Prod.mk.injEq, and_true] at h
        exact h ▸ hquiet _ trivial
      · rename_i item hitem
        split_ifs at h
        · simp only [Option.some.injEq, Prod.mk.injEq, and_true] at h
          exact h ▸ hquiet _ trivial
        · simp only [Option.some.injEq, Prod.mk.injEq, and_true] at h
          refine h ▸ hquiet _ ?_
          cases hl : item.ecsLocator with
          | none => trivial
          | some l => exact ⟨item, hitem, hl, rfl, rfl⟩
        · simp only [Option.some.injEq, Prod.mk.injEq, and_true] at h
          exact h ▸ hquiet _ trivial
    · exact absurd h nofun
  | read f got verified =>
    simp only [step] at h
    split at h
    · rename_i locator sha length hf
      split at h
      · simp only [Option.some.injEq, Prod.mk.injEq, and_true] at h
        exact h ▸ .finalizer _ f .ended s.reads rfl (List.Subset.refl _) fun _ => trivial
      · rename_i ok hok
        split at h
        · rename_i data bytes
          simp only [Option.some.injEq, Prod.mk.injEq, and_true] at h
          refine h ▸ .finalizer _ f (.deciding ok) _ rfl (List.subset_append_left _ _) fun hj => ?_
          cases ok with
          | false => trivial
          | true =>
            obtain ⟨-, bytes', -, hb, hlen, hsha⟩ := verdict_true hok
            obtain rfl := Read.data.inj hb
            obtain ⟨item, hitem, hl, rfl, rfl⟩ := hj _ hf
            exact ⟨item, hitem, locator, bytes, hl, by simp, hlen, hsha⟩
        · rename_i hnot
          simp only [Option.some.injEq, Prod.mk.injEq, and_true] at h
          refine h ▸ .finalizer _ f (.deciding ok) s.reads rfl (List.Subset.refl _) fun _ => ?_
          cases ok with
          | false => trivial
          | true =>
            obtain ⟨data, bytes, hd, hb, -⟩ := verdict_true hok
            exact (hnot data bytes hd hb).elim
    · simp only [Option.some.injEq, Prod.mk.injEq, and_true] at h
      exact h ▸ .finalizer _ f .ended s.reads rfl (List.Subset.refl _) fun _ => trivial
    · exact absurd h nofun
  | decide f delivery start =>
    simp only [step] at h
    split at h
    · rename_i verified hf
      split_ifs at h with hle
      simp only [Option.some.injEq, Prod.mk.injEq, and_true] at h
      rcases deliver_cases s.db (finalizeTx s.db verified start) delivery
        with ⟨seen, hout, -⟩ | ⟨db', done, seen, htx, hout, -⟩
      · rw [hout] at h
        exact h ▸ .decided f delivery start verified s.db hf .same
      · rw [hout] at h
        exact h ▸ .decided f delivery start verified db' hf (finalizeTx_ok htx)
    · exact absurd h nofun
  | crashFinalize f =>
    simp only [step] at h
    split at h
    · simp only [Option.some.injEq, Prod.mk.injEq, and_true] at h
      exact h ▸ .finalizer _ f .ended s.reads rfl (List.Subset.refl _) fun _ => trivial
    · exact absurd h nofun

/-! ## The item and its operation -/

/-- The two tables after a committed transaction. -/
structure Coupled (db : Db) : Prop where
  absent : db.item = none → db.operation.state = .RECEIVED
  same : ∀ item, db.item = some item → item.contentState = db.operation.state
  transient : db.operation.state ≠ .INTEGRITY_VERIFIED
  received : db.operation.state = .RECEIVED → db.operation.attemptCount = 0
  retryable : db.operation.state = .FAILED_RETRYABLE →
    db.operation.attemptCount < MAX_WRITE_ATTEMPTS
  attempts : db.operation.attemptCount ≤ MAX_WRITE_ATTEMPTS

lemma heldBy_iff {o : Operation} {n : ℕ} :
    o.heldBy n = true ↔ o.attemptCount = n ∧ o.state = .CONTENT_PENDING := by
  simp [Operation.heldBy]

lemma item_of_pending {db : Db} (hc : Coupled db) (h : db.operation.state = .CONTENT_PENDING) :
    ∃ item, db.item = some item := by
  cases hi : db.item with
  | none => exact absurd (h.symm.trans (hc.absent hi)) (by decide)
  | some item => exact ⟨item, rfl⟩

lemma writable_cases {s : ContentState} (h : s.writable = true) :
    s = .RECEIVED ∨ s = .CONTENT_PENDING ∨ s = .FAILED_RETRYABLE := by
  cases s <;> simp_all [ContentState.writable]

lemma coupled_change {db db' : Db} {now : Time} {author : Option ℕ} (hc : Coupled db)
    (h : Change db now author db') : Coupled db' := by
  cases h with
  | same _ _ hi ho =>
    exact ⟨fun h => ho ▸ hc.absent (hi ▸ h), fun item h => ho ▸ hc.same item (hi ▸ h),
      ho ▸ hc.transient, fun h => ho ▸ hc.received (ho ▸ h), fun h => ho ▸ hc.retryable (ho ▸ h),
      ho ▸ hc.attempts⟩
  | began _ item hw hfree hmax ho hi hs hk =>
    have hlt : db.operation.attemptCount < MAX_WRITE_ATTEMPTS := by
      rcases writable_cases hw with hst | hst | hst
      · rw [hc.received hst]
        decide
      · exact hmax hst
      · exact hc.retryable hst
    refine ⟨fun h => absurd (hi.symm.trans h) nofun, fun q hq => ?_, ?_, fun h => ?_, fun h => ?_, ?_⟩
    · obtain rfl := Option.some.inj (hi.symm.trans hq)
      rw [ho, hs]
      rfl
    · rw [ho]
      exact nofun
    · rw [ho] at h
      exact absurd h nofun
    · rw [ho] at h
      exact absurd h nofun
    · rw [ho]
      exact hlt
  | terminated _ hs hw ho hi =>
    obtain ⟨item, hitem⟩ := item_of_pending hc hs
    rw [hitem] at hi
    refine ⟨fun h => absurd (hi.symm.trans h) nofun, fun q hq => ?_, ?_, fun h => ?_, fun h => ?_, ?_⟩
    · obtain rfl := Option.some.inj (hi.symm.trans hq)
      rw [ho]
      rfl
    · rw [ho]
      exact nofun
    · rw [ho] at h
      exact absurd h nofun
    · rw [ho] at h
      exact absurd h nofun
    · rw [ho]
      exact hc.attempts
  | stored n _ locator old hh ho hold hl hi =>
    refine ⟨fun h => absurd (hi.symm.trans h) nofun, fun q hq => ?_, ?_, fun h => ?_, fun h => ?_, ?_⟩
    · obtain rfl := Option.some.inj (hi.symm.trans hq)
      rw [ho]
      rfl
    · rw [ho]
      exact nofun
    · rw [ho] at h
      exact absurd h nofun
    · rw [ho] at h
      exact absurd h nofun
    · rw [ho]
      exact hc.attempts
  | failed n _ state backoff hh hstate ho hi =>
    obtain ⟨hn, hpend⟩ := heldBy_iff.mp hh
    obtain ⟨item, hitem⟩ := item_of_pending hc hpend
    rw [hitem] at hi
    refine ⟨fun h => absurd (hi.symm.trans h) nofun, fun q hq => ?_, ?_, fun h => ?_, fun h => ?_, ?_⟩
    · obtain rfl := Option.some.inj (hi.symm.trans hq)
      rw [ho]
      rfl
    · rw [ho]
      rcases hstate with rfl | ⟨rfl, -⟩ <;> exact nofun
    · rw [ho] at h
      rcases hstate with rfl | ⟨rfl, -⟩ <;> exact absurd h nofun
    · rw [ho] at h ⊢
      rcases hstate with rfl | ⟨rfl, hlt⟩
      · exact absurd h nofun
      · exact hn ▸ hlt
    · rw [ho]
      exact hc.attempts
  | released n _ hh ho hi =>
    obtain ⟨hn, hpend⟩ := heldBy_iff.mp hh
    refine ⟨fun h => ?_, fun q hq => ?_, ?_, fun h => ?_, fun h => ?_, ?_⟩
    · rw [ho]
      exact hc.absent (hi ▸ h)
    · rw [ho]
      exact hc.same q (hi ▸ hq)
    · rw [ho]
      exact hc.transient
    · rw [ho] at h ⊢
      exact hc.received h
    · rw [ho] at h ⊢
      exact hc.retryable h
    · rw [ho]
      exact hc.attempts

lemma coupled_settlement {db db' : Db} {verified : Bool} (hc : Coupled db)
    (h : Settlement db verified db') : Coupled db' := by
  cases h with
  | same => exact hc
  | settled _ old new hold hs hi hk hl hsame hnew hcount =>
    have hstate : db'.operation.state = .INTEGRITY_FAILED ∨ db'.operation.state = .FINALIZED := by
      rw [← hsame]
      exact hnew.imp_right And.left
    refine ⟨fun h => absurd (hi.symm.trans h) nofun, fun q hq => ?_, ?_, fun h => ?_, fun h => ?_, ?_⟩
    · obtain rfl := Option.some.inj (hi.symm.trans hq)
      exact hsame
    · rcases hstate with h | h <;> simp [h]
    · rcases hstate with h' | h' <;> exact absurd (h.symm.trans h') (by decide)
    · rcases hstate with h' | h' <;> exact absurd (h.symm.trans h') (by decide)
    · exact hcount ▸ hc.attempts

/-! ## Leases -/

/-- Only the last attempt of a pending operation may still be under its lease. -/
structure Leased (s : Sys) : Prop where
  count : s.leases.length = s.db.operation.attemptCount
  ended : ∀ (i : ℕ) (l : Time), s.leases[i]? = some l → l ≤ s.now ∨
    (i + 1 = s.db.operation.attemptCount ∧ s.db.operation.state = .CONTENT_PENDING ∧
      s.db.operation.nextAttemptNotBefore = some l)

lemma grantNew_leases (s : Sys) (db : Db) (start : Time) :
    (grantNew s db start).leases = if s.db.operation.attemptCount < db.operation.attemptCount then
      s.leases ++ [start + WRITE_LEASE] else s.leases := by
  unfold grantNew
  split_ifs <;> rfl

lemma grantNew_rest (s : Sys) (db : Db) (start : Time) :
    (grantNew s db start).db = db ∧ (grantNew s db start).now = s.now ∧
      (grantNew s db start).puts = s.puts ∧ (grantNew s db start).finalizers = s.finalizers ∧
      (grantNew s db start).reads = s.reads := by
  unfold grantNew
  split_ifs <;> exact ⟨rfl, rfl, rfl, rfl, rfl⟩

lemma settle_leases (s : Sys) (db : Db) (n : ℕ) (start : Time) :
    (settle s db n start).leases = if s.db.operation = db.operation then s.leases
      else s.leases.set (n - 1) start := by
  unfold settle
  split_ifs <;> rfl

lemma settle_rest (s : Sys) (db : Db) (n : ℕ) (start : Time) :
    (settle s db n start).db = db ∧ (settle s db n start).now = s.now ∧
      (settle s db n start).puts = s.puts ∧ (settle s db n start).finalizers = s.finalizers ∧
      (settle s db n start).reads = s.reads := by
  unfold settle
  split_ifs <;> exact ⟨rfl, rfl, rfl, rfl, rfl⟩

/-- A lease that is not waited for any more is over. -/
lemma Leased.expired {s : Sys} (hs : Leased s) {start : Time} (hle : start ≤ s.now)
    (hw : s.db.operation.state = .RECEIVED ∨ s.db.operation.waiting start = false) {i : ℕ} {l : Time}
    (h : s.leases[i]? = some l) : l ≤ s.now := by
  rcases hs.ended i l h with hl | ⟨-, hstate, hnext⟩
  · exact hl
  · rcases hw with hr | hw
    · exact absurd (hstate.symm.trans hr) (by decide)
    · simp only [Operation.waiting, hnext, Option.any_some, decide_eq_false_iff_not] at hw
      exact Nat.le_trans (Nat.le_of_not_lt hw) hle

lemma leased_began {s : Sys} (hs : Leased s) {db : Db} {start : Time} (hle : start ≤ s.now)
    (h : Change s.db start none db) : Leased (grantNew s db start) := by
  obtain ⟨hdb, hnow, -⟩ := grantNew_rest s db start
  cases h with
  | same _ _ hi ho =>
    refine ⟨?_, fun i l hl => ?_⟩
    · rw [grantNew_leases, hdb, ho, if_neg (Nat.lt_irrefl _)]
      exact hs.count
    · rw [grantNew_leases, ho, if_neg (Nat.lt_irrefl _)] at hl
      rw [hdb, hnow, ho]
      exact hs.ended i l hl
  | began _ item hw hfree hmax ho hi hst hk =>
    have hlt : s.db.operation.attemptCount < db.operation.attemptCount := by
      rw [ho]
      exact Nat.lt_succ_self _
    refine ⟨?_, fun i l hl => ?_⟩
    · rw [grantNew_leases, hdb, if_pos hlt, ho, List.length_append, hs.count]
      rfl
    · rw [grantNew_leases, if_pos hlt, List.getElem?_append] at hl
      rw [hdb, hnow]
      split_ifs at hl with hi'
      · exact .inl (hs.expired hle hfree hl)
      · have hi0 : i = s.leases.length := by
          have := (List.getElem?_eq_some_iff.mp hl).1
          rw [List.length_singleton] at this
          omega
        subst hi0
        rw [Nat.sub_self] at hl
        obtain rfl := Option.some.inj hl
        rw [hs.count, ho]
        exact .inr ⟨rfl, rfl, rfl⟩
  | terminated _ hst hw ho hi =>
    have hnot : ¬s.db.operation.attemptCount < db.operation.attemptCount := by
      rw [ho]
      exact Nat.lt_irrefl _
    refine ⟨?_, fun i l hl => ?_⟩
    · rw [grantNew_leases, hdb, if_neg hnot, ho]
      exact hs.count
    · rw [grantNew_leases, if_neg hnot] at hl
      rw [hnow]
      exact .inl (hs.expired hle (.inr hw) hl)

/-- The attempt that holds the fence ends its own lease. -/
lemma leased_ended {s : Sys} (hs : Leased s) {db : Db} {n : ℕ} {start : Time}
    (hle : start ≤ s.now) (hh : s.db.operation.heldBy n = true)
    (hcount : db.operation.attemptCount = s.db.operation.attemptCount)
    (hne : s.db.operation ≠ db.operation) : Leased (settle s db n start) := by
  obtain ⟨hdb, hnow, -⟩ := settle_rest s db n start
  obtain ⟨hn, -⟩ := heldBy_iff.mp hh
  refine ⟨?_, fun i l hl => ?_⟩
  · rw [settle_leases, if_neg hne, hdb, List.length_set, hs.count, hcount]
  · rw [settle_leases, if_neg hne, List.getElem?_set] at hl
    rw [hnow]
    split_ifs at hl with h1 h2
    · obtain rfl := Option.some.inj hl
      exact .inl hle
    · rcases hs.ended i l hl with h | ⟨h, -⟩
      · exact .inl h
      · exact absurd (by omega) h1

lemma leased_outcome {s : Sys} (hs : Leased s) {db : Db} {n : ℕ} {start : Time}
    (hle : start ≤ s.now) (h : Change s.db start (some n) db) : Leased (settle s db n start) := by
  obtain ⟨hdb, hnow, -⟩ := settle_rest s db n start
  by_cases hne : s.db.operation = db.operation
  · refine ⟨?_, fun i l hl => ?_⟩
    · rw [settle_leases, if_pos hne, hdb, ← hne]
      exact hs.count
    · rw [settle_leases, if_pos hne] at hl
      rw [hdb, hnow, ← hne]
      exact hs.ended i l hl
  · cases h with
    | same _ _ hi ho => exact absurd ho.symm hne
    | stored _ _ locator old hh ho => exact leased_ended hs hle hh (by rw [ho]; rfl) hne
    | failed _ _ state backoff hh hst ho => exact leased_ended hs hle hh (by rw [ho]; rfl) hne
    | released _ _ hh ho => exact leased_ended hs hle hh (by rw [ho]) hne

/-! ## Attempts and finalize requests -/

/-- Every attempt has a number of its own. -/
structure Attempts (s : Sys) : Prop where
  bound : ∀ p phase n, s.puts p = some phase → phase.attempt? = some n →
    n ≤ s.db.operation.attemptCount
  distinct : ∀ p q phase phase' n, s.puts p = some phase → s.puts q = some phase' →
    phase.attempt? = some n → phase'.attempt? = some n → p = q

lemma puts_setPut {s : Sys} {p q : ℕ} {phase before : PutPhase}
    (h : (s.setPut p phase).puts q = some before) :
    (q = p ∧ before = phase) ∨ (q ≠ p ∧ s.puts q = some before) := by
  simp only [Sys.setPut] at h
  split_ifs at h with hq
  · exact .inl ⟨hq, (Option.some.inj h).symm⟩
  · exact .inr ⟨hq, h⟩

/-- A PUT moves on with an attempt that is its own, under a count that does not fall. -/
lemma Attempts.setPut {s : Sys} (hs : Attempts s) {s₁ : Sys} {p : ℕ} {phase : PutPhase}
    (hputs : s₁.puts = s.puts)
    (hcount : s.db.operation.attemptCount ≤ s₁.db.operation.attemptCount)
    (hn : ∀ n, phase.attempt? = some n → n ≤ s₁.db.operation.attemptCount ∧
      ((∃ before, s.puts p = some before ∧ before.attempt? = some n) ∨
        s.db.operation.attemptCount < n)) : Attempts (s₁.setPut p phase) := by
  have hother : ∀ {q : ℕ} {before : PutPhase} {n : ℕ}, phase.attempt? = some n → q ≠ p →
      s.puts q = some before → before.attempt? = some n → False := by
    intro q before n hphase hqp hq hb
    rcases (hn n hphase).2 with ⟨before', hp, hb'⟩ | hlt
    · exact hqp (hs.distinct q p before before' n hq hp hb hb')
    · exact absurd (hs.bound q before n hq hb) (Nat.not_le_of_lt hlt)
  refine ⟨fun q before n hq hb => ?_, fun q r before before' n hq hr hb hb' => ?_⟩
  · rcases puts_setPut hq with ⟨rfl, rfl⟩ | ⟨-, hq⟩
    · exact (hn n hb).1
    · exact Nat.le_trans (hs.bound q before n (hputs ▸ hq) hb) hcount
  · rcases puts_setPut hq with ⟨rfl, rfl⟩ | ⟨hqp, hq'⟩
    · rcases puts_setPut hr with ⟨rfl, rfl⟩ | ⟨hrp, hr'⟩
      · rfl
      · exact (hother hb hrp (hputs ▸ hr') hb').elim
    · rcases puts_setPut hr with ⟨rfl, rfl⟩ | ⟨-, hr'⟩
      · exact (hother hb' hqp (hputs ▸ hq') hb).elim
      · exact hs.distinct q r before before' n (hputs ▸ hq') (hputs ▸ hr') hb hb'

/-- Every finalize request relies on what still holds, and so does a finalized item. -/
structure Verified (sha256 : Bytes → String) (s : Sys) : Prop where
  requests : ∀ f phase, s.finalizers f = some phase → Justified sha256 s.db s.reads phase
  finalized : ∀ item, s.db.item = some item → item.contentState = .FINALIZED →
    Reread sha256 item s.reads

/-- The item of `db` lives on in `db'` with the same bytes. -/
def ItemKept (db db' : Db) : Prop :=
  ∀ old, db.item = some old → ∃ new, db'.item = some new ∧ old.Kept new

lemma Item.Kept.refl (item : Item) : item.Kept item := ⟨rfl, rfl, fun _ hl => hl⟩

lemma Item.Kept.trans {a b c : Item} (h : a.Kept b) (h' : b.Kept c) : a.Kept c :=
  ⟨h'.sha256.trans h.sha256, h'.length.trans h.length, fun l hl => h'.locator l (h.locator l hl)⟩

lemma ItemKept.refl (db : Db) : ItemKept db db := fun old h => ⟨old, h, .refl old⟩

lemma ItemKept.trans {a b c : Db} (h : ItemKept a b) (h' : ItemKept b c) : ItemKept a c := by
  intro old hold
  obtain ⟨mid, hmid, hk⟩ := h old hold
  obtain ⟨new, hnew, hk'⟩ := h' mid hmid
  exact ⟨new, hnew, hk.trans hk'⟩

lemma itemKept_map {db db' : Db} {state : ContentState}
    (hi : db'.item = db.item.map fun item => { item with contentState := state }) :
    ItemKept db db' := by
  intro old hold
  exact ⟨{ old with contentState := state }, by rw [hi, hold]; rfl, rfl, rfl, fun _ hl => hl⟩

lemma itemKept_change {db db' : Db} {now : Time} {author : Option ℕ}
    (h : Change db now author db') : ItemKept db db' := by
  cases h with
  | same _ _ hi ho =>
    intro old hold
    exact ⟨old, hi ▸ hold, .refl old⟩
  | began _ item hw hfree hmax ho hi hs hk => exact fun old hold => ⟨item, hi, hk old hold⟩
  | terminated _ hs hw ho hi => exact itemKept_map hi
  | stored n _ locator old hh ho hold hl hi =>
    intro q hq
    obtain rfl := Option.some.inj (hold.symm.trans hq)
    exact ⟨_, hi, rfl, rfl, fun l hl' => absurd (hl.symm.trans hl') nofun⟩
  | failed n _ state backoff hh hst ho hi => exact itemKept_map hi
  | released n _ hh ho hi =>
    intro old hold
    exact ⟨old, hi ▸ hold, .refl old⟩

lemma itemKept_settlement {db db' : Db} {verified : Bool} (h : Settlement db verified db') :
    ItemKept db db' := by
  cases h with
  | same => exact .refl _
  | settled _ old new hold hs hi hk =>
    intro q hq
    obtain rfl := Option.some.inj (hold.symm.trans hq)
    exact ⟨new, hi, hk⟩

lemma Reread.kept {old new : Item} {reads reads' : List (Locator × Bytes)}
    (h : Reread sha256 old reads) (hk : old.Kept new) (hr : reads ⊆ reads') :
    Reread sha256 new reads' := by
  obtain ⟨l, bytes, hl, hm, hlen, hsha⟩ := h
  exact ⟨l, bytes, hk.locator l hl, hr hm, hlen.trans hk.length.symm, hsha.trans hk.sha256.symm⟩

lemma Justified.kept {db db' : Db} {reads reads' : List (Locator × Bytes)} {phase : FinalizePhase}
    (h : Justified sha256 db reads phase) (hk : ItemKept db db') (hr : reads ⊆ reads') :
    Justified sha256 db' reads' phase := by
  cases phase with
  | looking | ended => trivial
  | verifying locator sha length =>
    cases locator with
    | none => trivial
    | some l =>
      obtain ⟨item, hi, hl, hsha, hlen⟩ := h
      obtain ⟨new, hnew, hkept⟩ := hk item hi
      exact ⟨new, hnew, hkept.locator l hl, hkept.sha256.trans hsha, hkept.length.trans hlen⟩
  | deciding verified =>
    cases verified with
    | false => trivial
    | true =>
      obtain ⟨item, hi, hread⟩ := h
      obtain ⟨new, hnew, hkept⟩ := hk item hi
      exact ⟨new, hnew, hread.kept hkept hr⟩

lemma finalizers_setFinalizer {s : Sys} {f g : ℕ} {phase before : FinalizePhase}
    (h : (s.setFinalizer f phase).finalizers g = some before) :
    (g = f ∧ before = phase) ∨ (g ≠ f ∧ s.finalizers g = some before) := by
  simp only [Sys.setFinalizer] at h
  split_ifs at h with hg
  · exact .inl ⟨hg, (Option.some.inj h).symm⟩
  · exact .inr ⟨hg, h⟩

/-- No transaction of a PUT finalizes the item. -/
lemma finalized_change {db db' : Db} {now : Time} {author : Option ℕ} (hc : Coupled db')
    (h : Change db now author db') {item : Item} (hi : db'.item = some item)
    (hf : item.contentState = .FINALIZED) : db.item = some item := by
  have hst : db'.operation.state = .FINALIZED := (hc.same item hi).symm.trans hf
  cases h with
  | same _ _ hi' ho => exact hi' ▸ hi
  | began _ item' hw hfree hmax ho => exact absurd (ho ▸ hst) nofun
  | terminated _ hs hw ho => exact absurd (ho ▸ hst) nofun
  | stored n _ locator old hh ho => exact absurd (ho ▸ hst) nofun
  | failed n _ state backoff hh hstate ho =>
    rw [ho] at hst
    rcases hstate with rfl | ⟨rfl, -⟩ <;> exact absurd hst nofun
  | released n _ hh ho =>
    rw [ho] at hst
    exact absurd (hst.symm.trans (heldBy_iff.mp hh).2) (by decide)

lemma verified_change {s t : Sys} (hs : Verified sha256 s) {now : Time} {author : Option ℕ}
    (hc : Coupled t.db) (h : Change s.db now author t.db)
    (hf : t.finalizers = s.finalizers) (hr : t.reads = s.reads) : Verified sha256 t := by
  refine ⟨fun f phase hphase => ?_, fun item hi hfin => ?_⟩
  · rw [hr]
    exact (hs.requests f phase (hf ▸ hphase)).kept (itemKept_change h) (List.Subset.refl _)
  · rw [hr]
    exact hs.finalized item (finalized_change hc h hi hfin) hfin

/-! ## Every reachable state -/

/-- What every interleaving keeps. -/
structure Inv (sha256 : Bytes → String) (s : Sys) : Prop where
  coupled : Coupled s.db
  leased : Leased s
  attempts : Attempts s
  verified : Verified sha256 s

lemma inv_init (intent : Intent) : Inv sha256 (Sys.init intent) := by
  refine ⟨⟨fun _ => rfl, nofun, nofun, fun _ => rfl, nofun, Nat.zero_le _⟩, ⟨rfl, nofun⟩,
    ⟨nofun, nofun⟩, ⟨nofun, nofun⟩⟩

lemma attemptCount_change {db db' : Db} {now : Time} {author : Option ℕ}
    (h : Change db now author db') :
    db.operation.attemptCount ≤ db'.operation.attemptCount := by
  cases h with
  | same _ _ hi ho => exact Nat.le_of_eq (congrArg Operation.attemptCount ho).symm
  | began _ item hw hfree hmax ho => exact ho ▸ Nat.le_succ _
  | terminated _ hs hw ho => exact Nat.le_of_eq (congrArg Operation.attemptCount ho).symm
  | stored n _ locator old hh ho => exact Nat.le_of_eq (congrArg Operation.attemptCount ho).symm
  | failed n _ state backoff hh hst ho => exact Nat.le_of_eq (congrArg Operation.attemptCount ho).symm
  | released n _ hh ho => exact Nat.le_of_eq (congrArg Operation.attemptCount ho).symm

/-- A finalize request finalizes the item only on a verdict it holds. -/
lemma verified_decided {s : Sys} (hs : Verified sha256 s) {f : ℕ} {verified : Bool} {db : Db}
    (hp : s.finalizers f = some (.deciding verified)) (h : Settlement s.db verified db) :
    Verified sha256 ((s.setDb db).setFinalizer f .ended) := by
  have hkept := itemKept_settlement h
  refine ⟨fun g phase hphase => ?_, fun item hi hfin => ?_⟩
  · rcases finalizers_setFinalizer hphase with ⟨rfl, rfl⟩ | ⟨-, hg⟩
    · trivial
    · exact (hs.requests g phase hg).kept hkept (List.Subset.refl _)
  · change db.item = some item at hi
    cases h with
    | same => exact hs.finalized item hi hfin
    | settled _ old new hold hst hi' hk hl hsame hnew =>
      obtain rfl := Option.some.inj (hi'.symm.trans hi)
      rcases hnew with hnew | ⟨-, rfl⟩
      · exact absurd (hnew.symm.trans hfin) (by decide)
      · obtain ⟨q, hq, hread⟩ := hs.requests f _ hp
        obtain rfl := Option.some.inj (hold.symm.trans hq)
        exact hread.kept hk (List.Subset.refl _)

theorem step_inv {s s' : Sys} {a : Action} {out : Unit} (hs : Inv sha256 s)
    (h : step sha256 s a = some (s', out)) : Inv sha256 s' := by
  cases step_cases hs.coupled.absent h with
  | tick d =>
    refine ⟨hs.coupled, ⟨hs.leased.count, fun i l hl => ?_⟩, ⟨hs.attempts.bound, hs.attempts.distinct⟩,
      ⟨hs.verified.requests, hs.verified.finalized⟩⟩
    exact (hs.leased.ended i l hl).imp_left fun h => Nat.le_add_right_of_le h
  | put _ p phase ha hn =>
    refine ⟨hs.coupled, ⟨hs.leased.count, hs.leased.ended⟩, ?_,
      ⟨hs.verified.requests, hs.verified.finalized⟩⟩
    refine hs.attempts.setPut rfl (Nat.le_refl _) fun n hphase => ?_
    obtain ⟨before, hp, hb⟩ := hn n hphase
    exact ⟨hs.attempts.bound p before n hp hb, .inl ⟨before, hp, hb⟩⟩
  | finalizer _ f phase reads ha hr hj =>
    refine ⟨hs.coupled, ⟨hs.leased.count, hs.leased.ended⟩,
      ⟨hs.attempts.bound, hs.attempts.distinct⟩, fun g before hg => ?_, fun item hi hfin => ?_⟩
    · rcases finalizers_setFinalizer hg with ⟨-, rfl⟩ | ⟨-, hg⟩
      · exact hj fun before hf => hs.verified.requests f before hf
      · exact (hs.verified.requests g before hg).kept (.refl _) hr
    · exact (hs.verified.finalized item hi hfin).kept (.refl _) hr
  | began p delivery start request db phase hle hp hc hn =>
    obtain ⟨hdb, hnow, hputs, hfin, hreads⟩ := grantNew_rest s db start
    have hcoupled : Coupled db := coupled_change hs.coupled hc
    have hleased := leased_began hs.leased hle hc
    refine ⟨?_, ⟨hleased.count, hleased.ended⟩, ?_, ?_⟩
    · change Coupled (grantNew s db start).db
      rw [hdb]
      exact hcoupled
    · have hcount : s.db.operation.attemptCount ≤ (grantNew s db start).db.operation.attemptCount := by
        rw [hdb]
        exact attemptCount_change hc
      refine hs.attempts.setPut hputs hcount fun n hphase => ?_
      obtain ⟨h1, h2⟩ := hn n hphase
      rw [hdb]
      exact ⟨Nat.le_of_eq h2.symm, .inr (h1 ▸ Nat.lt_succ_self _)⟩
    · have hchange : Change s.db start none (grantNew s db start).db := by
        rw [hdb]
        exact hc
      exact verified_change (t := (grantNew s db start).setPut p phase) hs.verified
        (coupled_change hs.coupled hchange) hchange hfin hreads
  | outcome p delivery start before phase n db hle hp hb hc hphase =>
    obtain ⟨hdb, hnow, hputs, hfin, hreads⟩ := settle_rest s db n start
    have hcoupled : Coupled db := coupled_change hs.coupled hc
    have hleased := leased_outcome hs.leased hle hc
    refine ⟨?_, ⟨hleased.count, hleased.ended⟩, ?_, ?_⟩
    · change Coupled (settle s db n start).db
      rw [hdb]
      exact hcoupled
    · have hcount : s.db.operation.attemptCount ≤ (settle s db n start).db.operation.attemptCount := by
        rw [hdb]
        exact attemptCount_change hc
      refine hs.attempts.setPut hputs hcount fun m hm => ?_
      obtain rfl := hphase m hm
      refine ⟨?_, .inl ⟨before, hp, hb⟩⟩
      rw [hdb]
      exact Nat.le_trans (hs.attempts.bound p before m hp hb) (attemptCount_change hc)
    · have hchange : Change s.db start (some n) (settle s db n start).db := by
        rw [hdb]
        exact hc
      exact verified_change (t := (settle s db n start).setPut p phase) hs.verified
        (coupled_change hs.coupled hchange) hchange hfin hreads
  | decided f delivery start verified db hp hset =>
    have hcount : db.operation.attemptCount = s.db.operation.attemptCount := by
      cases hset with
      | same => rfl
      | settled _ old new hold hst hi hk hl hsame hnew hcount => exact hcount
    refine ⟨coupled_settlement hs.coupled hset, ?_, ?_, verified_decided hs.verified hp hset⟩
    · refine ⟨hs.leased.count.trans hcount.symm, fun i l hl => ?_⟩
      rcases hs.leased.ended i l hl with h | ⟨h1, h2, h3⟩
      · exact .inl h
      · cases hset with
        | same => exact .inr ⟨h1, h2, h3⟩
        | settled _ old new hold hst =>
          rw [hs.coupled.same old hold, h2] at hst
          exact absurd hst (by decide)
    · exact ⟨fun q before n hq hb => hcount.symm ▸ hs.attempts.bound q before n hq hb,
        hs.attempts.distinct⟩

/-- What one step does to the item: it lives on with its bytes. -/
theorem step_itemKept {s s' : Sys} {a : Action} {out : Unit} (hs : Inv sha256 s)
    (h : step sha256 s a = some (s', out)) : ItemKept s.db s'.db := by
  cases step_cases hs.coupled.absent h with
  | tick | put | finalizer => exact .refl _
  | began p delivery start request db phase hle hp hc =>
    change ItemKept s.db (grantNew s db start).db
    rw [(grantNew_rest s db start).1]
    exact itemKept_change hc
  | outcome p delivery start before phase n db hle hp hb hc =>
    change ItemKept s.db (settle s db n start).db
    rw [(settle_rest s db n start).1]
    exact itemKept_change hc
  | decided f delivery start verified db hp hset => exact itemKept_settlement hset

/-- The lease of the attempt at this index is running. -/
def Sys.Live (s : Sys) (i : ℕ) : Prop := ∃ l, s.leases[i]? = some l ∧ s.now < l

/-- Fencing, in a state and along every run from it. -/
structure Fenced (sha256 : Bytes → String) (intent : Intent) (s : Sys) : Prop where
  attempts : s.db.operation.attemptCount ≤ MAX_WRITE_ATTEMPTS ∧
    s.leases.length = s.db.operation.attemptCount
  /-- only the current attempt of a pending operation can be under a live lease -/
  lease : ∀ i, s.Live i → i + 1 = s.db.operation.attemptCount ∧
    s.db.operation.state = .CONTENT_PENDING
  /-- no two requests are given one attempt -/
  distinct : ∀ p q phase phase' n, s.puts p = some phase → s.puts q = some phase' →
    phase.attempt? = some n → phase'.attempt? = some n → p = q
  outcome : ∀ p phase n a s' out, s.puts p = some phase → phase.attempt? = some n →
    a.put? = some p → step sha256 s a = some (s', out) →
    s'.db.item ≠ s.db.item ∨ s'.db.operation ≠ s.db.operation →
    s.db.operation.attemptCount = n ∧ s.db.operation.state = .CONTENT_PENDING
  /-- no PUT, stale or new, changes a stored, finalized or failed item -/
  settled : ∀ a s' out, a.put?.isSome = true → step sha256 s a = some (s', out) →
    s.db.operation.state.writable = false →
    s'.db.item = s.db.item ∧ s'.db.operation = s.db.operation
  coupled : ∀ item, s.db.item = some item →
    item.contentState = s.db.operation.state ∧ item.contentState ≠ .INTEGRITY_VERIFIED
  /-- digest and length never change, a locator never once it is set -/
  kept : ∀ t, (intake sha256 intent).Steps System.anyStep s t → ItemKept s.db t.db
  finalized : ∀ item, s.db.item = some item → item.contentState = .FINALIZED →
    Reread sha256 item s.reads

lemma held_of_change {db db' : Db} {now : Time} {n : ℕ} (h : Change db now (some n) db')
    (hne : db'.item ≠ db.item ∨ db'.operation ≠ db.operation) : db.operation.heldBy n = true := by
  cases h with
  | same _ _ hi ho => exact hne.elim (fun h => (h hi).elim) fun h => (h ho).elim
  | stored _ _ locator old hh => exact hh
  | failed _ _ state backoff hh => exact hh
  | released _ _ hh => exact hh

lemma unchanged_of_settled {db db' : Db} {now : Time} {author : Option ℕ}
    (h : Change db now author db') (hw : db.operation.state.writable = false) :
    db'.item = db.item ∧ db'.operation = db.operation := by
  have hpend : db.operation.state ≠ .CONTENT_PENDING := by
    intro hp
    exact absurd hw (by simp [hp, ContentState.writable])
  cases h with
  | same _ _ hi ho => exact ⟨hi, ho⟩
  | began _ item hw' => exact absurd (hw'.symm.trans hw) (by decide)
  | terminated _ hs => exact absurd hs hpend
  | stored _ _ locator old hh => exact absurd (heldBy_iff.mp hh).2 hpend
  | failed _ _ state backoff hh => exact absurd (heldBy_iff.mp hh).2 hpend
  | released _ _ hh => exact absurd (heldBy_iff.mp hh).2 hpend

theorem step_outcome {s s' : Sys} {a : Action} {out : Unit} (hs : Inv sha256 s) {p n : ℕ}
    {phase : PutPhase} (hp : s.puts p = some phase) (hn : phase.attempt? = some n)
    (ha : a.put? = some p) (h : step sha256 s a = some (s', out))
    (hne : s'.db.item ≠ s.db.item ∨ s'.db.operation ≠ s.db.operation) :
    s.db.operation.attemptCount = n ∧ s.db.operation.state = .CONTENT_PENDING := by
  cases step_cases hs.coupled.absent h with
  | tick | decided => exact absurd ha nofun
  | put | finalizer => exact absurd hne (by simp [Sys.setPut, Sys.setFinalizer])
  | began q delivery start request db phase' hle hq =>
    obtain rfl := Option.some.inj ha
    obtain rfl := Option.some.inj (hp.symm.trans hq)
    exact absurd hn nofun
  | outcome q delivery start before phase' m db hle hq hb hc =>
    obtain rfl := Option.some.inj ha
    obtain rfl := Option.some.inj (hp.symm.trans hq)
    obtain rfl := Option.some.inj (hn.symm.trans hb)
    change (settle s db n start).db.item ≠ _ ∨ (settle s db n start).db.operation ≠ _ at hne
    rw [(settle_rest s db n start).1] at hne
    exact heldBy_iff.mp (held_of_change hc hne)

theorem step_settled {s s' : Sys} {a : Action} {out : Unit} (hs : Inv sha256 s)
    (ha : a.put?.isSome = true) (h : step sha256 s a = some (s', out))
    (hw : s.db.operation.state.writable = false) :
    s'.db.item = s.db.item ∧ s'.db.operation = s.db.operation := by
  cases step_cases hs.coupled.absent h with
  | tick | decided => exact absurd ha (by simp [Action.put?])
  | put | finalizer => exact ⟨rfl, rfl⟩
  | began q delivery start request db phase' hle hq hc =>
    change (grantNew s db start).db.item = _ ∧ (grantNew s db start).db.operation = _
    rw [(grantNew_rest s db start).1]
    exact unchanged_of_settled hc hw
  | outcome q delivery start before phase' m db hle hq hb hc =>
    change (settle s db m start).db.item = _ ∧ (settle s db m start).db.operation = _
    rw [(settle_rest s db m start).1]
    exact unchanged_of_settled hc hw

theorem evidence_fencing (sha256 : Bytes → String) (intent : Intent) (s : Sys)
    (h : (intake sha256 intent).Reachable System.anyStep s) : Fenced sha256 intent s := by
  have hs : Inv sha256 s := h.invariant (P := Inv sha256) (inv_init intent)
    fun t a t' out ht _ hstep => step_inv ht hstep
  refine ⟨⟨hs.coupled.attempts, hs.leased.count⟩, ?_, hs.attempts.distinct, ?_, ?_, ?_, ?_,
    hs.verified.finalized⟩
  · rintro i ⟨l, hl, hlt⟩
    rcases hs.leased.ended i l hl with hle | ⟨hi, hst, -⟩
    · exact absurd hlt (Nat.not_lt_of_le hle)
    · exact ⟨hi, hst⟩
  · intro p phase n a s' out hp hn ha hstep hne
    exact step_outcome hs hp hn ha hstep hne
  · intro a s' out ha hstep hw
    exact step_settled hs ha hstep hw
  · intro item hi
    have hsame := hs.coupled.same item hi
    exact ⟨hsame, fun ht => hs.coupled.transient (hsame.symm.trans ht)⟩
  · intro t ht
    exact (ht.preserves (P := fun t => Inv sha256 t ∧ ItemKept s.db t.db)
      (fun u a u' out hu _ hstep =>
        ⟨step_inv hu.1 hstep, hu.2.trans (step_itemKept hu.1 hstep)⟩) ⟨hs, .refl _⟩).2

/-- The intent of a two-byte text. -/
def sampleIntent : Intent :=
  { declaredByteLength := 2
    clientDeclaredSha256 := none
    mediaSupported := true
    materialized := false
    lastRejectionCategory := none }

def sampleBytes : Bytes := [104, 105]

def sampleSha256 (bytes : Bytes) : String :=
  if bytes = sampleBytes then "8f434346648f6b96df89dda901c5176b10a6d83961dd3c1ac88b59b2dc327aa4"
  else ""

/-- The first attempt outlives its lease, the second one stores, the first one reports late,
and a finalize request reads the bytes back. -/
def lateWrite : List Action :=
  [.put 0 ⟨sampleBytes, true⟩, .transact 0 .committed 0, .tick WRITE_LEASE,
   .put 1 ⟨sampleBytes, true⟩, .transact 1 .committed WRITE_LEASE, .store 1 (some "b1"),
   .transact 1 .committed WRITE_LEASE, .store 0 (some "b0"), .transact 0 .committed WRITE_LEASE,
   .finalize 0, .look 0, .read 0 (.data sampleBytes) (.data sampleBytes),
   .decide 0 .committed WRITE_LEASE]

def written : Sys :=
  ((intake sampleSha256 sampleIntent).exec (Sys.init sampleIntent) lateWrite).getD
    (Sys.init sampleIntent)

theorem evidence_fencing_lateWrite :
    written.db.item.map (fun item => (item.contentState, item.ecsLocator)) =
      some (.FINALIZED, some "b1") ∧ Fenced sampleSha256 sampleIntent written := by
  have hrun : (intake sampleSha256 sampleIntent).exec (Sys.init sampleIntent) lateWrite =
      some written := rfl
  exact ⟨by decide, evidence_fencing _ _ _ (System.steps_of_exec (fun _ _ _ => trivial) hrun)⟩

end TrustLens.Backend.EvidenceIntake
