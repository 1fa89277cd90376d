import TrustLens.Backend.Sessions
import TrustLens.Lib.TabledDigest
import Mathlib.Data.List.Induction

/-!
# Lifetimes over whole runs

What a transaction or a session was issued with is read off the run that led to it, since every
later operation keeps it, ends it or is refused.
-/

namespace TrustLens.Backend.Sessions

variable {digest : String → String}

/-! ### Transactions -/

section Transactions

variable {limits : TransactionLimits}

lemma transactionsAfter_concat (ops : List (ℚ × TransactionOp)) (op : ℚ × TransactionOp) :
    transactionsAfter digest limits (ops ++ [op]) =
      TransactionOp.run digest limits (transactionsAfter digest limits ops) op := by
  rw [transactionsAfter, List.foldl_append]
  rfl

lemma get?_sweep {now : ℚ} {items : Transactions} {key : String} {tx : Transaction}
    (h : (sweep limits now items).get? key = some tx) : items.get? key = some tx :=
  (OrderedDict.get?_filter.mp h).1

/-- The transaction of a sign-in begun at an instant. -/
def Fresh.transaction (digest : String → String) (fresh : Fresh) (created : ℚ) : Transaction :=
  ⟨fresh.state, fresh.nonce, fresh.code_verifier, digest fresh.binding, created⟩

/-- What is stored after one more operation was stored before or is begun by it. -/
lemma get?_run {items : Transactions} {op : ℚ × TransactionOp} {key : String} {tx : Transaction}
    (h : (TransactionOp.run digest limits items op).get? key = some tx) :
    items.get? key = some tx ∨ ∃ fresh, op.2 = .begin fresh ∧ key = digest fresh.state ∧
      tx = fresh.transaction digest op.1 := by
  obtain ⟨now, op⟩ := op
  cases op with
  | begin fresh =>
    unfold TransactionOp.run begin at h
    dsimp only at h
    split_ifs at h
    · exact .inl (get?_sweep h)
    · by_cases hkey : key = digest fresh.state
      · subst hkey
        rw [OrderedDict.get?_insertLast_self] at h
        cases h
        exact .inr ⟨fresh, rfl, rfl, rfl⟩
      · rw [OrderedDict.get?_insertLast_of_ne _ _ hkey] at h
        exact .inl (get?_sweep h)
  | consume state binding =>
    left
    unfold TransactionOp.run consume at h
    dsimp only at h
    split_ifs at h
    · exact (OrderedDict.get?_filter.mp (get?_sweep h)).1
    · exact h

/-- Every stored transaction was begun in the run. -/
lemma begun_of_get? {ops : List (ℚ × TransactionOp)} {key : String} {tx : Transaction}
    (h : (transactionsAfter digest limits ops).get? key = some tx) :
    ∃ created fresh, (created, TransactionOp.begin fresh) ∈ ops ∧ key = digest fresh.state ∧
      tx = fresh.transaction digest created := by
  induction ops using List.reverseRecOn with
  | nil => cases h
  | append_singleton ops op ih =>
    rw [transactionsAfter_concat] at h
    rcases get?_run h with h | ⟨fresh, hop, hkey, htx⟩
    · obtain ⟨created, fresh, hmem, hkey, htx⟩ := ih h
      exact ⟨created, fresh, List.mem_append_left _ hmem, hkey, htx⟩
    · refine ⟨op.1, fresh, List.mem_append_right _ ?_, hkey, htx⟩
      rw [List.mem_singleton, ← hop]

/-- A state that is gone stays so while it is not begun again. -/
lemma get?_none_run (hdigest : Function.Injective digest) {items : Transactions} {state : String}
    {ops : List (ℚ × TransactionOp)} (h : items.get? (digest state) = none)
    (hops : ∀ created fresh, (created, TransactionOp.begin fresh) ∈ ops → fresh.state ≠ state) :
    (ops.foldl (TransactionOp.run digest limits) items).get? (digest state) = none := by
  induction ops generalizing items with
  | nil => exact h
  | cons op ops ih =>
    refine ih ?_ fun created fresh hmem => hops created fresh (List.mem_cons_of_mem _ hmem)
    rw [Option.eq_none_iff_forall_ne_some]
    intro tx htx
    rcases get?_run htx with htx | ⟨fresh, hop, hkey, -⟩
    · rw [h] at htx
      cases htx
    · refine hops op.1 fresh ?_ (hdigest hkey).symm
      rw [← hop]
      exact List.mem_cons_self

lemma consume_burns {items : Transactions} {state : String} {binding : Option String} {now : ℚ}
    (hstate : isToken state = true) (hbinding : isTokenOpt binding = true) :
    (consume digest limits state binding now items).2.get? (digest state) = none := by
  unfold consume
  rw [if_pos ⟨hstate, hbinding⟩]
  rw [Option.eq_none_iff_forall_ne_some]
  intro tx htx
  have herased := get?_sweep htx
  rw [OrderedDict.get?_erase_self] at herased
  cases herased

/-- What is consumed was stored, is young enough and is bound to the browser that presents it. -/
lemma consume_eq_some {items : Transactions} {state : String} {binding : Option String} {now : ℚ}
    {tx : Transaction} (h : (consume digest limits state binding now items).1 = some tx) :
    isToken state = true ∧ items.get? (digest state) = some tx ∧ now - tx.created < limits.lifetime ∧
      ∃ b, binding = some b ∧ isToken b = true ∧ tx.browser_binding = digest b := by
  unfold consume at h
  split_ifs at h with htokens
  obtain ⟨hget, hchecks⟩ := Option.filter_eq_some_iff.mp h
  rw [Bool.and_eq_true, decide_eq_true_eq, decide_eq_true_eq] at hchecks
  obtain ⟨hstate, hbinding⟩ := htokens
  cases binding with
  | none => cases hbinding
  | some b => exact ⟨hstate, hget, hchecks.1, b, rfl, hbinding, hchecks.2⟩

lemma length_transactions_le (ops : List (ℚ × TransactionOp)) :
    (transactionsAfter digest limits ops).entries.length ≤ limits.capacity := by
  induction ops using List.reverseRecOn with
  | nil => exact Nat.zero_le _
  | append_singleton ops op ih =>
    rw [transactionsAfter_concat]
    obtain ⟨now, op⟩ := op
    have hsweep : (sweep limits now (transactionsAfter digest limits ops)).entries.length ≤
        limits.capacity := (List.length_filter_le _ _).trans ih
    cases op with
    | begin fresh =>
      unfold TransactionOp.run begin
      dsimp only
      split_ifs with hfull
      · exact hsweep
      · refine (OrderedDict.length_insertLast_le _ _ _).trans ?_
        omega
    | consume state binding =>
      unfold TransactionOp.run consume
      dsimp only
      split_ifs
      · exact (List.length_filter_le _ _).trans ((List.length_filter_le _ _).trans ih)
      · exact ih

/-- The states that a run draws. -/
def drawnStates (ops : List (ℚ × TransactionOp)) : List String :=
  ops.filterMap fun op => match op.2 with
    | .begin fresh => some fresh.state
    | .consume _ _ => none

lemma mem_drawnStates {ops : List (ℚ × TransactionOp)} {created : ℚ} {fresh : Fresh}
    (h : (created, TransactionOp.begin fresh) ∈ ops) : fresh.state ∈ drawnStates ops :=
  List.mem_filterMap.mpr ⟨_, h, rfl⟩

/-- A state begun before one point of a run of distinct states is not begun after it. -/
lemma not_begun_later {ops later : List (ℚ × TransactionOp)} {created : ℚ} {fresh : Fresh}
    (hdistinct : (drawnStates (ops ++ later)).Nodup)
    (h : (created, TransactionOp.begin fresh) ∈ ops) (created' : ℚ) (fresh' : Fresh)
    (h' : (created', TransactionOp.begin fresh') ∈ later) : fresh'.state ≠ fresh.state := by
  rw [drawnStates, List.filterMap_append] at hdistinct
  intro heq
  exact (List.nodup_append.mp hdistinct).2.2 _ (mem_drawnStates h) _ (mem_drawnStates h') heq.symm

end Transactions

/-! ### Sessions -/

section Sessions

variable {limits : SessionLimits}

lemma sessionsAfter_concat (ops : List (ℚ × SessionOp)) (op : ℚ × SessionOp) :
    sessionsAfter digest limits (ops ++ [op]) =
      SessionOp.run digest limits (sessionsAfter digest limits ops) op := by
  rw [sessionsAfter, List.foldl_append]
  rfl

/-- An operation that ends a session: its principal's, its own, or a sign-in that replaces it. -/
def SessionOp.Ends (session_id principal : String) : SessionOp → Prop
  | .create new => new.replaces = some session_id
  | .get _ => False
  | .invalidate ended => ended = some session_id
  | .invalidate_principal ended => ended = principal

/-- When a session was last seen, after an operation. -/
def seenAt (session_id : String) (seen : ℚ) (op : ℚ × SessionOp) : ℚ :=
  match op.2 with
  | .get (some presented) => if presented = session_id then op.1 else seen
  | _ => seen

/-- The session of a sign-in, as it is created. -/
def NewSession.session (new : NewSession) (created : ℚ) : Session :=
  ⟨new.principal_reference_id, new.csrf_token, created, created, new.id_token, new.refresh_token⟩

lemma get?_sweepSessions {now : ℚ} {items : SessionItems} {key : String} {s : Session}
    (h : (sweepSessions limits now items).get? key = some s) : items.get? key = some s :=
  (OrderedDict.get?_filter.mp h).1

/-- A sign-in creates the session or keeps one that it does not replace. -/
lemma get?_create (hdigest : Function.Injective digest) {items : SessionItems} {new : NewSession}
    {now : ℚ} {session_id : String} {s : Session} (hid : session_id ≠ "")
    (h : (create digest limits new now items).2.get? (digest session_id) = some s) :
    (new.session_id = session_id ∧ s = new.session now) ∨
      items.get? (digest session_id) = some s ∧ new.replaces ≠ some session_id := by
  -- what is left when the replaced session is dropped
  have hdropped : ∀ {replaced : String},
      (if replaced = "" then items else items.erase (digest replaced)).get? (digest session_id) =
        some s → items.get? (digest session_id) = some s ∧ some replaced ≠ some session_id := by
    intro replaced hget
    split_ifs at hget with hempty
    · refine ⟨hget, ?_⟩
      rintro ⟨⟩
      exact hid hempty
    · refine ⟨(OrderedDict.get?_filter.mp hget).1, ?_⟩
      rintro ⟨⟩
      rw [OrderedDict.get?_erase_self] at hget
      cases hget
  unfold create at h
  dsimp only at h
  generalize hrest : sweepSessions limits now _ = rest at h
  have hkept : rest.get? (digest session_id) = some s →
      items.get? (digest session_id) = some s ∧ new.replaces ≠ some session_id := by
    intro hget
    subst hrest
    have hget := get?_sweepSessions hget
    split at hget
    next replaced heq =>
      rw [heq]
      exact hdropped hget
    next heq =>
      rw [heq]
      exact ⟨hget, (Option.some_ne_none _).symm⟩
  split_ifs at h
  · exact .inr (hkept h)
  · by_cases hkey : digest session_id = digest new.session_id
    · rw [hkey, OrderedDict.get?_insertLast_self] at h
      cases h
      exact .inl ⟨(hdigest hkey).symm, rfl⟩
    · rw [OrderedDict.get?_insertLast_of_ne _ _ hkey] at h
      exact .inr (hkept h)

/-- A read keeps what it reads awake and leaves the others as they are. -/
lemma get?_get (hdigest : Function.Injective digest) {items : SessionItems}
    {presented : Option String} {now : ℚ} {session_id : String} {s : Session}
    (hid : isToken session_id = true)
    (h : (get digest limits presented now items).2.get? (digest session_id) = some s) :
    ∃ s₀, items.get? (digest session_id) = some s₀ ∧
      s = { s₀ with last_seen := seenAt session_id s₀.last_seen (now, .get presented) } := by
  have hother : presented ≠ some session_id → ∀ s₀ : Session,
      seenAt session_id s₀.last_seen (now, .get presented) = s₀.last_seen := by
    intro hne s₀
    cases presented with
    | none => rfl
    | some p =>
      have hp : p ≠ session_id := fun hp => hne (congrArg some hp)
      simp only [seenAt, if_neg hp]
  unfold get at h
  split_ifs at h with htoken
  · cases presented with
    | none => cases htoken
    | some p =>
      simp only [Option.getD_some] at h
      by_cases hp : p = session_id
      · subst hp
        cases hget : items.get? (digest p) with
        | none =>
          rw [hget] at h
          dsimp only at h
          rw [hget] at h
          cases h
        | some s₀ =>
          rw [hget] at h
          dsimp only at h
          split_ifs at h
          · rw [OrderedDict.get?_erase_self] at h
            cases h
          · rw [OrderedDict.get?_modify, if_pos rfl, hget] at h
            cases h
            exact ⟨s₀, rfl, by simp only [seenAt, if_true]⟩
      · have hkey : digest session_id ≠ digest p := fun hkey => hp (hdigest hkey).symm
        have hsame : items.get? (digest session_id) = some s := by
          cases hget : items.get? (digest p) with
          | none =>
            rw [hget] at h
            exact h
          | some s₀ =>
            rw [hget] at h
            dsimp only at h
            split_ifs at h
            · rwa [OrderedDict.get?_erase_of_ne _ hkey] at h
            · rwa [OrderedDict.get?_modify, if_neg hkey] at h
        refine ⟨s, hsame, ?_⟩
        rw [hother fun heq => hp (Option.some.inj heq)]
  · refine ⟨s, h, ?_⟩
    rw [hother]
    rintro rfl
    exact htoken hid

/-- What an operation leaves of a session that it does not create. -/
lemma get?_runSession (hdigest : Function.Injective digest) {items : SessionItems}
    {op : ℚ × SessionOp} {session_id : String} {s : Session} (hid : isToken session_id = true)
    (h : (SessionOp.run digest limits items op).get? (digest session_id) = some s) :
    (∃ new, op.2 = .create new ∧ new.session_id = session_id ∧ s = new.session op.1) ∨
      ∃ s₀, items.get? (digest session_id) = some s₀ ∧
        s = { s₀ with last_seen := seenAt session_id s₀.last_seen op } ∧
        ¬op.2.Ends session_id s₀.principal_reference_id := by
  have hne : session_id ≠ "" := by
    rintro rfl
    cases hid
  obtain ⟨now, op⟩ := op
  cases op with
  | create new =>
    rcases get?_create hdigest hne h with ⟨hnew, hs⟩ | ⟨hget, hreplaces⟩
    · exact .inl ⟨new, rfl, hnew, hs⟩
    · exact .inr ⟨s, hget, rfl, hreplaces⟩
  | get presented =>
    obtain ⟨s₀, hget, hs⟩ := get?_get hdigest hid h
    exact .inr ⟨s₀, hget, hs, fun hends => hends⟩
  | invalidate ended =>
    unfold SessionOp.run invalidate at h
    dsimp only at h
    split_ifs at h with htoken
    · refine .inr ⟨s, (OrderedDict.get?_filter.mp h).1, rfl, ?_⟩
      rintro rfl
      rw [Option.getD_some, OrderedDict.get?_erase_self] at h
      cases h
    · refine .inr ⟨s, h, rfl, ?_⟩
      rintro rfl
      exact htoken hid
  | invalidate_principal ended =>
    obtain ⟨hget, hprincipal⟩ := OrderedDict.get?_filter.mp h
    refine .inr ⟨s, hget, rfl, ?_⟩
    rintro rfl
    simp at hprincipal

/-- Every stored session was created in the run, was not ended since, and was last seen when the run
last read it. -/
lemma created_of_get? (hdigest : Function.Injective digest) {ops : List (ℚ × SessionOp)}
    {session_id : String} {s : Session} (hid : isToken session_id = true)
    (h : (sessionsAfter digest limits ops).get? (digest session_id) = some s) :
    ∃ before created new later, ops = before ++ (created, .create new) :: later ∧
      new.session_id = session_id ∧
      s = { new.session created with last_seen := later.foldl (seenAt session_id) created } ∧
      ∀ op ∈ later, ¬op.2.Ends session_id new.principal_reference_id := by
  induction ops using List.reverseRecOn generalizing s with
  | nil => cases h
  | append_singleton ops op ih =>
    rw [sessionsAfter_concat] at h
    rcases get?_runSession hdigest hid h with ⟨new, hop, hnew, hs⟩ | ⟨s₀, hget, hs, hends⟩
    · refine ⟨ops, op.1, new, [], ?_, hnew, hs, nofun⟩
      rw [← hop]
    · obtain ⟨before, created, new, later, rfl, hnew, rfl, hlater⟩ := ih hget
      refine ⟨before, created, new, later ++ [op], ?_, hnew, ?_, ?_⟩
      · rw [List.append_assoc, List.cons_append]
      · rw [hs, List.foldl_append]
        rfl
      · intro op' hop'
        rcases List.mem_append.mp hop' with hop' | hop'
        · exact hlater op' hop'
        · cases List.mem_singleton.mp hop'
          exact hends

/-- What a read returns is stored and not expired. -/
lemma get_eq_some {items : SessionItems} {presented : Option String} {now : ℚ} {s : Session}
    (h : (get digest limits presented now items).1 = some s) :
    ∃ session_id s₀, presented = some session_id ∧ isToken session_id = true ∧
      items.get? (digest session_id) = some s₀ ∧ s = { s₀ with last_seen := now } ∧
      now - s₀.last_seen < limits.idle ∧ now - s₀.created < limits.absolute := by
  unfold get at h
  split_ifs at h with htoken
  cases presented with
  | none => cases htoken
  | some session_id =>
    simp only [Option.getD_some] at h
    cases hget : items.get? (digest session_id) with
    | none =>
      rw [hget] at h
      cases h
    | some s₀ =>
      rw [hget] at h
      dsimp only at h
      split_ifs at h with hexpired
      unfold expired at hexpired
      rw [Bool.or_eq_true, decide_eq_true_eq, decide_eq_true_eq, not_or, not_le, not_le] at hexpired
      exact ⟨session_id, s₀, rfl, htoken, hget, (Option.some.inj h).symm, hexpired.1, hexpired.2⟩

lemma length_sessions_le (ops : List (ℚ × SessionOp)) :
    (sessionsAfter digest limits ops).entries.length ≤ limits.capacity := by
  induction ops using List.reverseRecOn with
  | nil => exact Nat.zero_le _
  | append_singleton ops op ih =>
    rw [sessionsAfter_concat]
    obtain ⟨now, op⟩ := op
    have hfilter : ∀ p, ((sessionsAfter digest limits ops).filter p).entries.length ≤
        limits.capacity := fun p => (List.length_filter_le _ _).trans ih
    cases op with
    | create new =>
      unfold SessionOp.run create
      dsimp only
      split_ifs with hfull
      · refine (List.length_filter_le _ _).trans ?_
        split
        · split_ifs
          · exact ih
          · exact hfilter _
        · exact ih
      · refine (OrderedDict.length_insertLast_le _ _ _).trans ?_
        omega
    | get presented =>
      unfold SessionOp.run get
      dsimp only
      split_ifs
      · split
        · exact ih
        · split_ifs
          · exact hfilter _
          · exact (List.length_map _).trans_le ih
      · exact ih
    | invalidate ended =>
      unfold SessionOp.run invalidate
      dsimp only
      split_ifs
      · exact hfilter _
      · exact ih
    | invalidate_principal ended => exact hfilter _

end Sessions

/-! ### The guarantees -/

/-- What both stores guarantee over every run. A transaction is consumed once, by the browser it was
begun for and within its lifetime; a well-formed binding, right or wrong, burns the state, and
nothing else touches it. A session that is read was created, was not ended since, and is within both
of its limits. Neither store outgrows its capacity. -/
theorem sign_in_lifetimes (digest : String → String) (hdigest : Function.Injective digest)
    (tl : TransactionLimits) (sl : SessionLimits) :
    (∀ ops now state binding tx,
      (consume digest tl state binding now (transactionsAfter digest tl ops)).1 = some tx →
      ∃ created fresh, (created, TransactionOp.begin fresh) ∈ ops ∧ fresh.state = state ∧
        binding = some fresh.binding ∧ tx = fresh.transaction digest created ∧
        now - created < tl.lifetime) ∧
    (∀ before between state binding binding' now now' tx,
      (drawnStates (before ++ between)).Nodup →
      (consume digest tl state binding now (transactionsAfter digest tl before)).1 = some tx →
      (consume digest tl state binding' now'
        (transactionsAfter digest tl (before ++ (now, .consume state binding) :: between))).1 =
          none) ∧
    (∀ before between created fresh binding binding' now now',
      (drawnStates (before ++ between)).Nodup → (created, TransactionOp.begin fresh) ∈ before →
      isToken fresh.state = true → isToken binding = true →
      (consume digest tl fresh.state binding' now'
        (transactionsAfter digest tl
          (before ++ (now, .consume fresh.state (some binding)) :: between))).1 = none) ∧
    (∀ ops state binding now, isTokenOpt binding = false →
      consume digest tl state binding now (transactionsAfter digest tl ops) =
        (none, transactionsAfter digest tl ops)) ∧
    (∀ ops presented now s,
      (get digest sl presented now (sessionsAfter digest sl ops)).1 = some s →
      ∃ before created new later, ops = before ++ (created, .create new) :: later ∧
        presented = some new.session_id ∧ s = { new.session created with last_seen := now } ∧
        (∀ op ∈ later, ¬op.2.Ends new.session_id new.principal_reference_id) ∧
        now - later.foldl (seenAt new.session_id) created < sl.idle ∧ now - created < sl.absolute) ∧
    (∀ ops, (transactionsAfter digest tl ops).entries.length ≤ tl.capacity) ∧
    ∀ ops, (sessionsAfter digest sl ops).entries.length ≤ sl.capacity := by
  have hprovenance : ∀ ops now state binding tx,
      (consume digest tl state binding now (transactionsAfter digest tl ops)).1 = some tx →
      ∃ created fresh, (created, TransactionOp.begin fresh) ∈ ops ∧ fresh.state = state ∧
        binding = some fresh.binding ∧ tx = fresh.transaction digest created ∧
        now - created < tl.lifetime := by
    intro ops now state binding tx h
    obtain ⟨-, hget, hyoung, b, rfl, -, hbound⟩ := consume_eq_some h
    obtain ⟨created, fresh, hmem, hkey, rfl⟩ := begun_of_get? hget
    exact ⟨created, fresh, hmem, (hdigest hkey).symm, congrArg some (hdigest hbound).symm, rfl, hyoung⟩
  have hburns : ∀ before between created fresh binding binding' now now',
      (drawnStates (before ++ between)).Nodup → (created, TransactionOp.begin fresh) ∈ before →
      isToken fresh.state = true → isToken binding = true →
      (consume digest tl fresh.state binding' now'
        (transactionsAfter digest tl
          (before ++ (now, .consume fresh.state (some binding)) :: between))).1 = none := by
    intro before between created fresh binding binding' now now' hdistinct hmem hstate hbinding
    have hgone : (transactionsAfter digest tl
        (before ++ (now, .consume fresh.state (some binding)) :: between)).get?
          (digest fresh.state) = none := by
      rw [transactionsAfter, List.foldl_append, List.foldl_cons]
      exact get?_none_run hdigest (consume_burns hstate hbinding)
        fun created' fresh' h' => not_begun_later hdistinct hmem created' fresh' h'
    rw [Option.eq_none_iff_forall_ne_some]
    intro tx htx
    have hget := (consume_eq_some htx).2.1
    rw [hgone] at hget
    cases hget
  refine ⟨hprovenance, ?_, hburns, ?_, ?_, length_transactions_le, length_sessions_le⟩
  · intro before between state binding binding' now now' tx hdistinct h
    obtain ⟨hstate, -, -, b, rfl, hb, -⟩ := consume_eq_some h
    obtain ⟨created, fresh, hmem, rfl, -⟩ := hprovenance _ _ _ _ _ h
    exact hburns before between created fresh b binding' now now' hdistinct hmem hstate hb
  · intro ops state binding now hbinding
    unfold consume
    rw [if_neg]
    rintro ⟨-, htoken⟩
    rw [hbinding] at htoken
    cases htoken
  · intro ops presented now s h
    obtain ⟨session_id, s₀, rfl, htoken, hget, rfl, hidle, habsolute⟩ := get_eq_some h
    obtain ⟨before, created, new, later, hops, rfl, rfl, hlater⟩ := created_of_get? hdigest htoken hget
    exact ⟨before, created, new, later, hops, rfl, rfl, hlater, hidle, habsolute⟩

section Sample

def sampleFresh : Fresh := ⟨"binding-1", "state-1", "nonce-1", "verifier-1"⟩

def sampleSignIn : NewSession := ⟨"p1", "id-token", none, none, "session-1", "csrf-1"⟩

def sampleDigest : String → String :=
  tabled [("state-1", "f36b45ae818809ee24ae2489edabfe3cf2a12627b6929c07fc7a3b885d414d44"),
    ("binding-1", "2557a7f63fd2aa33f7880e8f787f08959054a9fde0c5fd14341dedca6aff58d9"),
    ("session-1", "84097828fc31a8c8d29210df48901a85de7fd013f686b17be77d1be29cb7a98b")]

lemma sampleDigest_injective : Function.Injective sampleDigest :=
  tabled_injective (by decide) (by decide)

/-- A sign-in of the sample: consumed once with its binding, its session read within the limits. -/
theorem sign_in_lifetimes_sample :
    (consume sampleDigest ⟨600, 10⟩ "state-1" (some "binding-1") 9
      (transactionsAfter sampleDigest ⟨600, 10⟩
        ([(0, .begin sampleFresh)] ++ (5, .consume "state-1" (some "binding-1")) :: []))).1 = none ∧
    ∃ before created new later, [((9 : ℚ), SessionOp.create sampleSignIn)] =
      before ++ (created, .create new) :: later ∧ 20 - created < 3600 := by
  obtain ⟨-, honce, -, -, hget, -, -⟩ :=
    sign_in_lifetimes sampleDigest sampleDigest_injective ⟨600, 10⟩ ⟨900, 3600, 10⟩
  refine ⟨honce _ _ _ _ _ _ _ (sampleFresh.transaction sampleDigest 0) (by decide) (by decide +kernel),
    ?_⟩
  have hread : (get sampleDigest ⟨900, 3600, 10⟩ (some "session-1") 20
      (sessionsAfter sampleDigest ⟨900, 3600, 10⟩ [(9, .create sampleSignIn)])).1 =
        some { sampleSignIn.session 9 with last_seen := 20 } := by decide +kernel
  obtain ⟨before, created, new, later, hops, -, -, -, -, habsolute⟩ := hget _ _ _ _ hread
  exact ⟨before, created, new, later, hops, habsolute⟩

/-- A binding that is no token leaves the state to the browser it was begun for. -/
theorem wrong_binding_spares_state :
    ¬∀ (digest : String → String), Function.Injective digest →
      ∀ (tl : TransactionLimits) before between created fresh wrong binding' now now',
        (drawnStates (before ++ between)).Nodup → (created, TransactionOp.begin fresh) ∈ before →
        wrong ≠ some fresh.binding →
        (consume digest tl fresh.state binding' now'
          (transactionsAfter digest tl
            (before ++ (now, .consume fresh.state wrong) :: between))).1 = none := by
  intro h
  have hnone := h sampleDigest sampleDigest_injective ⟨600, 10⟩ [(0, .begin sampleFresh)] [] 0
    sampleFresh none (some "binding-1") 5 9 (by decide) List.mem_cons_self nofun
  have hsome : (consume sampleDigest ⟨600, 10⟩ "state-1" (some "binding-1") 9
      (transactionsAfter sampleDigest ⟨600, 10⟩
        ([(0, .begin sampleFresh)] ++ (5, .consume "state-1" none) :: []))).1 =
      some (sampleFresh.transaction sampleDigest 0) := by decide +kernel
  exact absurd (hnone.symm.trans hsome) nofun

end Sample

end TrustLens.Backend.Sessions
