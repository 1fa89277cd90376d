import Mathlib.Data.List.Basic
import TrustLens.Lib.Transition

/-!
# Threads over atomic operations

Any number of programs run side by side. Each performs its operations one at a time, and between two
of them the others may perform theirs. Every operation is written down with the answer it got. What a
thread does is found on the operations it performed itself, and what it was answered on all of them.
-/

namespace TrustLens

/-- A program that ended, or waits for the answer to an operation. -/
inductive Thread (Op : Type) (Answer : Op → Type) (ε α : Type) where
  | ended (result : Except ε α)
  | perform (op : Op) (next : Answer op → Thread Op Answer ε α)

/-- An operation that was performed, with its answer. -/
structure Performed (Op : Type) (Answer : Op → Type) where
  op : Op
  answer : Answer op

namespace Thread

variable {Op : Type} {Answer : Op → Type} {ε α β : Type}

def bind (f : α → Thread Op Answer ε β) : Thread Op Answer ε α → Thread Op Answer ε β
  | .ended (.ok a) => f a
  | .ended (.error e) => .ended (.error e)
  | .perform op next => .perform op fun answer => bind f (next answer)

/-- What is raised is handed to a handler. -/
def handle (f : ε → Thread Op Answer ε α) : Thread Op Answer ε α → Thread Op Answer ε α
  | .ended (.ok a) => .ended (.ok a)
  | .ended (.error e) => f e
  | .perform op next => .perform op fun answer => handle f (next answer)

instance : Monad (Thread Op Answer ε) where
  pure a := .ended (.ok a)
  bind x f := x.bind f

instance : MonadExcept ε (Thread Op Answer ε) where
  throw e := .ended (.error e)
  tryCatch x f := x.handle f

def ask (op : Op) : Thread Op Answer ε (Answer op) := .perform op fun answer => .ended (.ok answer)

/-! ### What a thread does -/

/-- The later operations are the former and more, of one kind. -/
def Extends (P : Performed Op Answer → Prop) (past past' : List (Performed Op Answer)) : Prop :=
  ∃ more, past' = past ++ more ∧ ∀ e ∈ more, P e

section

variable {P P' : Performed Op Answer → Prop} {past past' past'' : List (Performed Op Answer)}

lemma Extends.refl : Extends P past past := ⟨[], (List.append_nil _).symm, List.forall_mem_nil _⟩

lemma Extends.snoc {e : Performed Op Answer} (h : P e) : Extends P past (past ++ [e]) :=
  ⟨[e], rfl, List.forall_mem_singleton.mpr h⟩

lemma Extends.trans (h : Extends P past past') (h' : Extends P past' past'') : Extends P past past'' := by
  obtain ⟨more, rfl, hmore⟩ := h
  obtain ⟨more', rfl, hmore'⟩ := h'
  refine ⟨more ++ more', List.append_assoc _ _ _, fun e he => ?_⟩
  exact (List.mem_append.mp he).elim (hmore e) (hmore' e)

lemma Extends.mono (h : Extends P past past') (hP : ∀ e, P e → P' e) : Extends P' past past' := by
  obtain ⟨more, rfl, hmore⟩ := h
  exact ⟨more, rfl, fun e he => hP e (hmore e he)⟩

lemma Extends.isPrefix (h : Extends P past past') : past <+: past' := by
  obtain ⟨more, rfl, -⟩ := h
  exact List.prefix_append _ _

lemma Extends.sublist (h : Extends P past past') : past.Sublist past' := by
  obtain ⟨more, rfl, -⟩ := h
  exact List.sublist_append_left _ _

/-- What is in the later operations was there, or is of the kind. -/
lemma Extends.mem (h : Extends P past past') {e : Performed Op Answer} (he : e ∈ past') :
    e ∈ past ∨ P e := by
  obtain ⟨more, rfl, hmore⟩ := h
  exact (List.mem_append.mp he).imp_right (hmore e)

end

/-- After the operations of `past` the thread performs only such as `G` allows after those before them,
returns what satisfies `Q` and raises what satisfies `R`, whatever it is answered. -/
def Does (G : List (Performed Op Answer) → Performed Op Answer → Prop)
    (Q : α → List (Performed Op Answer) → Prop) (R : ε → List (Performed Op Answer) → Prop) :
    Thread Op Answer ε α → List (Performed Op Answer) → Prop
  | .ended (.ok a), past => Q a past
  | .ended (.error e), past => R e past
  | .perform op next, past => ∀ answer, G past ⟨op, answer⟩ ∧
      Does G Q R (next answer) (past ++ [⟨op, answer⟩])

section

variable {G G' : List (Performed Op Answer) → Performed Op Answer → Prop}
  {Q Q' : α → List (Performed Op Answer) → Prop} {R R' : ε → List (Performed Op Answer) → Prop}
  {past : List (Performed Op Answer)}

lemma does_pure {a : α} (h : Q a past) : Does G Q R (pure a) past := h

lemma does_throw {e : ε} (h : R e past) : Does G Q R (throw e) past := h

lemma does_ask {op : Op} {Q : Answer op → List (Performed Op Answer) → Prop}
    (h : ∀ answer, G past ⟨op, answer⟩ ∧ Q answer (past ++ [⟨op, answer⟩])) :
    Does G Q R (ask op) past := h

lemma Does.mono {x : Thread Op Answer ε α} (h : Does G Q R x past)
    (hG : ∀ past e, G past e → G' past e) (hQ : ∀ a past, Q a past → Q' a past)
    (hR : ∀ e past, R e past → R' e past) : Does G' Q' R' x past := by
  induction x generalizing past with
  | ended result =>
    cases result with
    | ok a => exact hQ a past h
    | error e => exact hR e past h
  | perform op next ih => exact fun answer => ⟨hG _ _ (h answer).1, ih answer (h answer).2⟩

lemma Does.bind {x : Thread Op Answer ε α} {f : α → Thread Op Answer ε β}
    {Q : β → List (Performed Op Answer) → Prop}
    (h : Does G (fun a past => Does G Q R (f a) past) R x past) : Does G Q R (x >>= f) past := by
  induction x generalizing past with
  | ended result =>
    cases result with
    | ok a => exact h
    | error e => exact h
  | perform op next ih => exact fun answer => ⟨(h answer).1, ih answer (h answer).2⟩

lemma Does.tryCatch {x : Thread Op Answer ε α} {f : ε → Thread Op Answer ε α}
    (h : Does G Q (fun e past => Does G Q R (f e) past) x past) :
    Does G Q R (tryCatch x f) past := by
  induction x generalizing past with
  | ended result =>
    cases result with
    | ok a => exact h
    | error e => exact h
  | perform op next ih => exact fun answer => ⟨(h answer).1, ih answer (h answer).2⟩

/-- A thread that is known by what it returns and raises, and what follows it. -/
lemma Does.then {x : Thread Op Answer ε α} {f : α → Thread Op Answer ε β}
    {Q' : β → List (Performed Op Answer) → Prop} (h : Does G Q R x past)
    (hreturn : ∀ a past, Q a past → Does G Q' R' (f a) past) (hraise : ∀ e past, R e past → R' e past) :
    Does G Q' R' (x >>= f) past :=
  Does.bind (h.mono (fun _ _ hG => hG) hreturn hraise)

/-- A thread performs nothing before what it has performed, and only what it is allowed. -/
lemma Does.extends {x : Thread Op Answer ε α} (h : Does G Q R x past) :
    Does G (fun a past' => Q a past' ∧ Extends (fun e => ∃ before, G before e) past past')
      (fun e past' => R e past' ∧ Extends (fun e => ∃ before, G before e) past past') x past := by
  induction x generalizing past with
  | ended result =>
    cases result with
    | ok a => exact ⟨h, .refl⟩
    | error e => exact ⟨h, .refl⟩
  | perform op next ih =>
    intro answer
    have hfirst : Extends (fun e => ∃ before, G before e) past (past ++ [⟨op, answer⟩]) :=
      .snoc ⟨past, (h answer).1⟩
    exact ⟨(h answer).1, (ih answer (h answer).2).mono (fun _ _ hG => hG)
      (fun _ _ hQ => ⟨hQ.1, hfirst.trans hQ.2⟩) (fun _ _ hR => ⟨hR.1, hfirst.trans hR.2⟩)⟩

/-- An operation, and what follows it. -/
lemma does_ask_bind {op : Op} {f : Answer op → Thread Op Answer ε α}
    (h : ∀ answer, G past ⟨op, answer⟩ ∧ Does G Q R (f answer) (past ++ [⟨op, answer⟩])) :
    Does G Q R (ask op >>= f) past := h

end

end Thread

/-! ### What a log says of the past -/

/-- Something of one kind happened, and nothing of another kind since. -/
def Since {α : Type} (P N : α → Prop) (log : List α) : Prop :=
  ∃ before x later, log = before ++ x :: later ∧ P x ∧ ∀ y ∈ later, ¬N y

section

variable {α : Type} {P N : α → Prop} {log : List α} {x : α}

lemma Since.now (h : P x) : Since P N (log ++ [x]) := ⟨log, x, [], rfl, h, List.forall_mem_nil _⟩

lemma Since.snoc (h : Since P N log) (hx : ¬N x) : Since P N (log ++ [x]) := by
  obtain ⟨before, first, later, rfl, hfirst, hlater⟩ := h
  refine ⟨before, first, later ++ [x], List.append_assoc _ _ _, hfirst, fun y hy => ?_⟩
  rcases List.mem_append.mp hy with hy | hy
  · exact hlater y hy
  · exact List.mem_singleton.mp hy ▸ hx

end

/-! ### Threads side by side -/

/-- The threads with the requests they were started for, what they share, and what was performed. -/
structure Pool (σ ρ Op : Type) (Answer : Op → Type) (ε α : Type) where
  shared : σ
  log : List (ℕ × Performed Op Answer)
  threads : List (ρ × Thread Op Answer ε α)

/-- A thread is started, or the next operation of a thread is performed. -/
inductive PoolAction (ρ κ : Type) where
  | start (request : ρ)
  | step (i : ℕ) (choice : κ)

variable {σ ρ κ Op : Type} {Answer : Op → Type} {ε α : Type}

/-- What a thread has performed. -/
def ownLog (i : ℕ) (log : List (ℕ × Performed Op Answer)) : List (Performed Op Answer) :=
  (log.filter (·.1 = i)).map Prod.snd

/-- The system of the threads; an operation is answered by what is shared and by a choice. -/
def System.pool (init : σ) (act : σ → (op : Op) → κ → Option (Answer op × σ))
    (start : ρ → Thread Op Answer ε α) :
    System (Pool σ ρ Op Answer ε α) (PoolAction ρ κ) Unit where
  init := ⟨init, [], []⟩
  step p
    | .start request => some ({ p with threads := p.threads ++ [(request, start request)] }, ())
    | .step i choice =>
      match p.threads[i]? with
      | some (request, .perform op next) =>
        (act p.shared op choice).map fun answered =>
          (⟨answered.2, p.log ++ [(i, ⟨op, answered.1⟩)],
            p.threads.set i (request, next answered.1)⟩, ())
      | _ => none

/-- The operations of a log were answered in turn, and left this state. -/
inductive Answered (init : σ) (act : σ → (op : Op) → κ → Option (Answer op × σ)) :
    List (ℕ × Performed Op Answer) → σ → Prop where
  | nil : Answered init act [] init
  | snoc {log : List (ℕ × Performed Op Answer)} {s s' : σ} {i : ℕ} {e : Performed Op Answer}
      {choice : κ} (h : Answered init act log s) (he : act s e.op choice = some (e.answer, s')) :
      Answered init act (log ++ [(i, e)]) s'

section

variable {init : σ} {act : σ → (op : Op) → κ → Option (Answer op × σ)}
  {start : ρ → Thread Op Answer ε α} {p : Pool σ ρ Op Answer ε α}
  {log : List (ℕ × Performed Op Answer)} {i : ℕ} {e : Performed Op Answer}

lemma ownLog_append (log later : List (ℕ × Performed Op Answer)) :
    ownLog i (log ++ later) = ownLog i log ++ ownLog i later := by
  rw [ownLog, List.filter_append, List.map_append]
  rfl

lemma ownLog_self : ownLog i [(i, e)] = [e] := by simp [ownLog]

lemma ownLog_of_ne {j : ℕ} (h : j ≠ i) : ownLog i [(j, e)] = [] := by simp [ownLog, h]

lemma mem_ownLog : e ∈ ownLog i log ↔ (i, e) ∈ log := by
  rw [ownLog, List.mem_map]
  constructor
  · rintro ⟨⟨j, e⟩, hmem, rfl⟩
    obtain ⟨hmem, hj⟩ := List.mem_filter.mp hmem
    exact of_decide_eq_true hj ▸ hmem
  · exact fun h => ⟨(i, e), List.mem_filter.mpr ⟨h, decide_eq_true rfl⟩, rfl⟩

/-- The threads keep to what each was started to do. -/
structure Kept (G : ρ → List (Performed Op Answer) → Performed Op Answer → Prop)
    (Q : ρ → α → List (Performed Op Answer) → Prop) (R : ρ → ε → List (Performed Op Answer) → Prop)
    (p : Pool σ ρ Op Answer ε α) : Prop where
  threads : ∀ (i : ℕ) request t, p.threads[i]? = some (request, t) →
    Thread.Does (G request) (Q request) (R request) t (ownLog i p.log)
  entries : ∀ before i e after, p.log = before ++ (i, e) :: after →
    ∃ request t, p.threads[i]? = some (request, t) ∧ G request (ownLog i before) e

section

variable {G : ρ → List (Performed Op Answer) → Performed Op Answer → Prop}
  {Q : ρ → α → List (Performed Op Answer) → Prop} {R : ρ → ε → List (Performed Op Answer) → Prop}

lemma kept_start (h : Kept G Q R p) {request : ρ}
    (hstart : Thread.Does (G request) (Q request) (R request) (start request) []) :
    Kept G Q R { p with threads := p.threads ++ [(request, start request)] } where
  threads i request' t ht := by
    rcases Nat.lt_trichotomy i p.threads.length with hi | rfl | hi
    · rw [List.getElem?_append_left hi] at ht
      exact h.threads i request' t ht
    · rw [List.getElem?_concat_length] at ht
      cases ht
      -- a thread that is new has performed nothing
      have hown : ownLog p.threads.length p.log = [] := by
        rw [List.eq_nil_iff_forall_not_mem]
        intro e he
        obtain ⟨before, after, hlog⟩ := List.append_of_mem (mem_ownLog.mp he)
        obtain ⟨request', t', ht', -⟩ := h.entries before _ e after hlog
        exact absurd (List.getElem?_eq_some_iff.mp ht').1 (Nat.lt_irrefl _)
      dsimp only
      rw [hown]
      exact hstart
    · rw [List.getElem?_eq_none (by simp only [List.length_append, List.length_singleton]; omega)] at ht
      cases ht
  entries before i e after hlog := by
    obtain ⟨request', t, ht, hG⟩ := h.entries before i e after hlog
    exact ⟨request', t, (List.getElem?_append_left (List.getElem?_eq_some_iff.mp ht).1).trans ht, hG⟩

lemma kept_step (h : Kept G Q R p) {request : ρ} {op : Op} {next : Answer op → Thread Op Answer ε α}
    (ht : p.threads[i]? = some (request, .perform op next)) (answer : Answer op) (s' : σ) :
    Kept G Q R ⟨s', p.log ++ [(i, ⟨op, answer⟩)], p.threads.set i (request, next answer)⟩ where
  threads j request' t hj := by
    obtain ⟨hi, -⟩ := List.getElem?_eq_some_iff.mp ht
    by_cases hji : j = i
    · subst hji
      rw [List.getElem?_set_self hi] at hj
      cases hj
      rw [ownLog_append, ownLog_self]
      exact (h.threads j request _ ht answer).2
    · rw [List.getElem?_set_ne (Ne.symm hji)] at hj
      rw [ownLog_append, ownLog_of_ne (Ne.symm hji), List.append_nil]
      exact h.threads j request' t hj
  entries before j e after hlog := by
    obtain ⟨hi, -⟩ := List.getElem?_eq_some_iff.mp ht
    have hkeeps : ∀ {request' : ρ} {t : Thread Op Answer ε α}, p.threads[j]? = some (request', t) →
        ∃ t', (p.threads.set i (request, next answer))[j]? = some (request', t') := by
      intro request' t hj
      by_cases hji : j = i
      · subst hji
        obtain rfl : request = request' := (Prod.mk.inj (Option.some.inj (ht.symm.trans hj))).1
        exact ⟨_, List.getElem?_set_self hi⟩
      · exact ⟨t, (List.getElem?_set_ne (Ne.symm hji)).trans hj⟩
    rcases List.eq_nil_or_concat' after with rfl | ⟨after, last, rfl⟩
    · obtain ⟨rfl, hlast⟩ := List.append_inj' hlog rfl
      cases hlast
      obtain ⟨t', ht'⟩ := hkeeps ht
      exact ⟨request, t', ht', (h.threads i request _ ht answer).1⟩
    · rw [← List.cons_append, ← List.append_assoc] at hlog
      obtain ⟨hlog, -⟩ := List.append_inj' hlog rfl
      obtain ⟨request', t, hj, hG⟩ := h.entries before j e after hlog
      obtain ⟨t', ht'⟩ := hkeeps hj
      exact ⟨request', t', ht', hG⟩

/-- Every thread keeps to what it does alone, whatever the others perform in between. -/
theorem kept_of_reachable (hstart : ∀ request,
    Thread.Does (G request) (Q request) (R request) (start request) [])
    (h : (System.pool init act start).Reachable System.anyStep p) : Kept G Q R p := by
  refine System.Reachable.invariant (P := Kept G Q R) ?_ (fun p a p' out hp _ hstep => ?_) h
  · refine ⟨fun i request t ht => ?_, fun before i e after hlog => ?_⟩
    · cases ht
    · cases before <;> cases hlog
  · cases a with
    | start request =>
      cases hstep
      exact kept_start hp (hstart request)
    | step i choice =>
      simp only [System.pool] at hstep
      split at hstep
      next request op next ht =>
        obtain ⟨⟨answer, s'⟩, -, heq⟩ := Option.map_eq_some_iff.mp hstep
        cases heq
        exact kept_step hp ht answer s'
      · cases hstep

end

/-- The operations of a reachable state were answered in turn. -/
theorem answered_of_reachable (h : (System.pool init act start).Reachable System.anyStep p) :
    Answered init act p.log p.shared := by
  refine System.Reachable.invariant (P := fun p : Pool σ ρ Op Answer ε α =>
    Answered init act p.log p.shared) .nil (fun p a p' out hp _ hstep => ?_) h
  cases a with
  | start request =>
    cases hstep
    exact hp
  | step i choice =>
    simp only [System.pool] at hstep
    split at hstep
    next request op next ht =>
      obtain ⟨⟨answer, s'⟩, hact, heq⟩ := Option.map_eq_some_iff.mp hstep
      cases heq
      exact hp.snoc hact
    · cases hstep

/-- An entry was answered by the state that the entries before it left. -/
lemma Answered.split {before after : List (ℕ × Performed Op Answer)} {s : σ}
    (h : Answered init act (before ++ (i, e) :: after) s) :
    ∃ t choice s', Answered init act before t ∧ act t e.op choice = some (e.answer, s') := by
  generalize hlog : before ++ (i, e) :: after = log at h
  induction h generalizing after with
  | nil => cases before <;> cases hlog
  | @snoc log t s' j last choice h he ih =>
    rcases List.eq_nil_or_concat' after with rfl | ⟨after, last', rfl⟩
    · obtain ⟨rfl, hlast⟩ := List.append_inj' hlog rfl
      cases hlast
      exact ⟨t, choice, s', h, he⟩
    · rw [← List.cons_append, ← List.append_assoc] at hlog
      obtain ⟨hlog, -⟩ := List.append_inj' hlog rfl
      exact ih hlog

end

end TrustLens
