import TrustLens.Lib.OrderedDict
import TrustLens.Lib.TokenBucket
import Mathlib.Data.Finset.Dedup
import Mathlib.Data.Finset.Card
import Mathlib.Data.Finset.Order
import Mathlib.Data.Rat.Floor

/-!
# Admission by token buckets

Every key has a bucket that its own requests draw from. The buckets of the keys used least recently
are dropped when there are too many keys.
-/

namespace TrustLens.Backend.Admission

open TokenBucket (Bucket level draw draws admissions Sound)

structure BucketProfile where
  capacity : ℤ
  refill_per_second : ℚ
  capacity_pos : 1 ≤ capacity
  refill_pos : 0 < refill_per_second

def SIGN_IN : BucketProfile where
  capacity := 10
  refill_per_second := 10 / 60
  capacity_pos := by decide
  refill_pos := by norm_num

def API_WRITE : BucketProfile where
  capacity := 20
  refill_per_second := 30 / 60
  capacity_pos := by decide
  refill_pos := by norm_num

abbrev Buckets := OrderedDict String (Bucket ℚ)

variable (profile : BucketProfile) (max_keys : ℕ)

/-- `TokenBuckets.take` at an instant: whether it is allowed and when to retry. -/
def take (buckets : Buckets) (key : String) (now : ℚ) : (Bool × ℤ) × Buckets :=
  let (tokens, updated) := (buckets.get? key).getD (profile.capacity, now)
  let tokens := min (profile.capacity : ℚ) (tokens + (now - updated) * profile.refill_per_second)
  let allowed := decide (1 ≤ tokens)
  let tokens := if allowed then tokens - 1 else tokens
  let buckets := buckets.insertLast key (tokens, now)
  let buckets := buckets.dropFirst (buckets.entries.length - max_keys)
  ((allowed, if allowed then 0 else max 1 ⌈(1 - tokens) / profile.refill_per_second⌉), buckets)

/-- A request of a key at an instant of the clock. -/
structure Call where
  now : ℚ
  key : String

/-- The buckets after some requests. -/
def after (buckets : Buckets) (calls : List Call) : Buckets :=
  calls.foldl (fun bs call => (take profile max_keys bs call.key call.now).2) buckets

/-- Each request with its answer. -/
def answers : Buckets → List Call → List (Call × Bool × ℤ)
  | _, [] => []
  | buckets, call :: calls =>
    (call, (take profile max_keys buckets call.key call.now).1) ::
      answers (take profile max_keys buckets call.key call.now).2 calls

/-- The answers of one key. -/
def answersOf (key : String) (as : List (Call × Bool × ℤ)) : List (Call × Bool × ℤ) :=
  as.filter (·.1.key = key)

/-- The requests of a key that are allowed in a window. -/
def allowedIn (key : String) (first last : ℚ) (as : List (Call × Bool × ℤ)) : ℕ :=
  as.countP fun a => a.1.key = key ∧ a.2.1 = true ∧ first ≤ a.1.now ∧ a.1.now ≤ last

/-! ### One request -/

/-- What a request does, as a draw from the bucket of its key. -/
lemma take_eq (buckets : Buckets) (key : String) (now : ℚ) :
    take profile max_keys buckets key now =
      let d := draw (profile.capacity : ℚ) profile.refill_per_second (buckets.get? key) now
      ((d.1, if d.1 then 0 else max 1 ⌈(1 - d.2.1) / profile.refill_per_second⌉),
        (buckets.insertLast key d.2).dropFirst
          ((buckets.insertLast key d.2).entries.length - max_keys)) := by
  have hlevel : level (profile.capacity : ℚ) profile.refill_per_second (buckets.get? key) now =
      min (profile.capacity : ℚ) (((buckets.get? key).getD (profile.capacity, now)).1 +
        (now - ((buckets.get? key).getD (profile.capacity, now)).2) * profile.refill_per_second) := by
    cases buckets.get? key with
    | none => simp [level]
    | some bucket => rfl
  unfold take draw
  rw [hlevel]
  split_ifs with hone
  · simp [hone]
  · simp [hone]

variable {profile max_keys}

/-- The answer depends on the bucket of the key alone. -/
lemma take_answer_congr {buckets buckets' : Buckets} {key : String}
    (h : buckets.get? key = buckets'.get? key) (now : ℚ) :
    (take profile max_keys buckets key now).1 = (take profile max_keys buckets' key now).1 := by
  rw [take_eq, take_eq, h]

lemma keys_take (buckets : Buckets) (key : String) (now : ℚ) :
    (take profile max_keys buckets key now).2.keys =
      (buckets.keys.filter (· ≠ key) ++ [key]).drop
        ((buckets.keys.filter (· ≠ key) ++ [key]).length - max_keys) := by
  rw [take_eq]
  dsimp only
  rw [OrderedDict.keys_dropFirst, ← OrderedDict.length_keys, OrderedDict.keys_insertLast]

/-- A bucket that is kept is what the request left of it. -/
lemma get?_take_of_mem {buckets : Buckets} {key : String} {now : ℚ} {key' : String}
    (h : key' ∈ (take profile max_keys buckets key now).2.keys) :
    (take profile max_keys buckets key now).2.get? key' =
      if key' = key then
        some (draw (profile.capacity : ℚ) profile.refill_per_second (buckets.get? key) now).2
      else buckets.get? key' := by
  rw [take_eq] at h ⊢
  dsimp only at h ⊢
  rw [OrderedDict.get?_dropFirst h]
  split_ifs with hkey
  · rw [hkey, OrderedDict.get?_insertLast_self]
  · rw [OrderedDict.get?_insertLast_of_ne _ _ hkey]

/-! ### Levels -/

lemma sound_take {buckets : Buckets} {key : String} {now : ℚ}
    (h : ∀ k, Sound (profile.capacity : ℚ) now (buckets.get? k)) (k : String) :
    Sound (profile.capacity : ℚ) now ((take profile max_keys buckets key now).2.get? k) := by
  have hcapacity : (0 : ℚ) ≤ profile.capacity := by
    have hpos := profile.capacity_pos
    exact_mod_cast (by omega : 0 ≤ profile.capacity)
  by_cases hk : k ∈ (take profile max_keys buckets key now).2.keys
  · rw [get?_take_of_mem hk]
    split_ifs
    · exact TokenBucket.sound_draw hcapacity profile.refill_pos.le (h key)
    · exact h k
  · rw [OrderedDict.get?_eq_none.mpr hk]
    trivial

/-- After requests up to an instant every level lies between nothing and the capacity. -/
lemma sound_after (start : ℚ) {buckets : Buckets} {calls : List Call} {t : ℚ}
    (hclock : calls.Pairwise fun a b => a.now ≤ b.now) (hstart : ∀ c ∈ calls, start ≤ c.now)
    (ht : ∀ c ∈ calls, c.now ≤ t) (hle : start ≤ t)
    (h : ∀ k, Sound (profile.capacity : ℚ) start (buckets.get? k)) (k : String) :
    Sound (profile.capacity : ℚ) t ((after profile max_keys buckets calls).get? k) := by
  induction calls generalizing buckets start with
  | nil => exact (h k).mono hle
  | cons c calls ih =>
    rw [List.pairwise_cons] at hclock
    have hnow : ∀ k, Sound (profile.capacity : ℚ) c.now (buckets.get? k) := fun k =>
      (h k).mono (hstart c List.mem_cons_self)
    exact ih c.now hclock.2 hclock.1 (fun c' hc' => ht c' (List.mem_cons_of_mem _ hc'))
      (ht c List.mem_cons_self) (sound_take hnow)

lemma sound_after_empty {calls : List Call} {t : ℚ}
    (hclock : calls.Pairwise fun a b => a.now ≤ b.now) (ht : ∀ c ∈ calls, c.now ≤ t) (k : String) :
    Sound (profile.capacity : ℚ) t ((after profile max_keys .empty calls).get? k) := by
  cases calls with
  | nil => trivial
  | cons c calls =>
    have hstart : ∀ c' ∈ c :: calls, c.now ≤ c'.now :=
      List.forall_mem_cons.mpr ⟨le_rfl, (List.pairwise_cons.mp hclock).1⟩
    have hempty : ∀ k, Sound (profile.capacity : ℚ) c.now ((.empty : Buckets).get? k) :=
      fun _ => trivial
    exact sound_after c.now hclock hstart ht (ht c List.mem_cons_self) hempty k

/-! ### Few keys -/

/-- With few keys every bucket is kept. -/
lemma keys_take_of_few {K : Finset String} (hK : K.card ≤ max_keys) {buckets : Buckets} {key : String}
    {now : ℚ} (hkeys : ∀ k ∈ buckets.keys, k ∈ K) (hkey : key ∈ K) :
    (take profile max_keys buckets key now).2.keys = buckets.keys.filter (· ≠ key) ++ [key] := by
  have hnodup : (buckets.keys.filter (· ≠ key) ++ [key]).Nodup := by
    rw [← OrderedDict.keys_insertLast buckets key (0, 0)]
    exact (buckets.insertLast key (0, 0)).nodup
  have hsubset : (buckets.keys.filter (· ≠ key) ++ [key]).toFinset ⊆ K := by
    intro k hk
    rw [List.mem_toFinset, List.mem_append, List.mem_singleton] at hk
    rcases hk with hk | rfl
    · exact hkeys k (List.mem_of_mem_filter hk)
    · exact hkey
  have hlength := (List.toFinset_card_of_nodup hnodup).symm.trans_le
    ((Finset.card_le_card hsubset).trans hK)
  rw [keys_take, Nat.sub_eq_zero_of_le hlength, List.drop_zero]

lemma mem_keys_take_of_few {K : Finset String} (hK : K.card ≤ max_keys) {buckets : Buckets}
    {key : String} {now : ℚ} (hkeys : ∀ k ∈ buckets.keys, k ∈ K) (hkey : key ∈ K) {k : String} :
    k ∈ (take profile max_keys buckets key now).2.keys ↔ k ∈ buckets.keys ∨ k = key := by
  rw [keys_take_of_few hK hkeys hkey]
  by_cases hk : k = key
  · simp [hk]
  · simp [hk]

lemma get?_take_of_few {K : Finset String} (hK : K.card ≤ max_keys) {buckets : Buckets} {key : String}
    {now : ℚ} (hkeys : ∀ k ∈ buckets.keys, k ∈ K) (hkey : key ∈ K) (k : String) :
    (take profile max_keys buckets key now).2.get? k =
      if k = key then
        some (draw (profile.capacity : ℚ) profile.refill_per_second (buckets.get? key) now).2
      else buckets.get? k := by
  by_cases hk : k ∈ (take profile max_keys buckets key now).2.keys
  · exact get?_take_of_mem hk
  · rw [OrderedDict.get?_eq_none.mpr hk]
    rw [mem_keys_take_of_few hK hkeys hkey, not_or] at hk
    rw [if_neg hk.2, OrderedDict.get?_eq_none.mpr hk.1]

/-- Two stores that agree on a key answer it alike, whatever else they are asked. -/
lemma answersOf_eq {K : Finset String} (hK : K.card ≤ max_keys) {key : String} {calls : List Call}
    (hcalls : ∀ c ∈ calls, c.key ∈ K) {buckets buckets' : Buckets}
    (hkeys : ∀ k ∈ buckets.keys, k ∈ K) (hkeys' : ∀ k ∈ buckets'.keys, k ∈ K)
    (h : buckets.get? key = buckets'.get? key) :
    answersOf key (answers profile max_keys buckets calls) =
      answers profile max_keys buckets' (calls.filter (·.key = key)) := by
  induction calls generalizing buckets buckets' with
  | nil => rfl
  | cons c calls ih =>
    rw [List.forall_mem_cons] at hcalls
    have hnext : ∀ {bs : Buckets}, (∀ k ∈ bs.keys, k ∈ K) →
        ∀ k ∈ (take profile max_keys bs c.key c.now).2.keys, k ∈ K := by
      intro bs hbs k hk
      rcases (mem_keys_take_of_few hK hbs hcalls.1).mp hk with hk | rfl
      · exact hbs k hk
      · exact hcalls.1
    unfold answersOf at ih ⊢
    rw [answers]
    by_cases hc : c.key = key
    · have hget : (take profile max_keys buckets c.key c.now).2.get? key =
          (take profile max_keys buckets' c.key c.now).2.get? key := by
        rw [get?_take_of_few hK hkeys hcalls.1, get?_take_of_few hK hkeys' hcalls.1, if_pos hc.symm,
          if_pos hc.symm, hc, h]
      rw [List.filter_cons_of_pos (by simpa using hc), List.filter_cons_of_pos (by simpa using hc),
        answers, ih hcalls.2 (hnext hkeys) (hnext hkeys') hget, take_answer_congr (hc ▸ h)]
    · have hget : (take profile max_keys buckets c.key c.now).2.get? key = buckets'.get? key := by
        rw [get?_take_of_few hK hkeys hcalls.1, if_neg (Ne.symm hc), h]
      rw [List.filter_cons_of_neg (by simpa using hc), List.filter_cons_of_neg (by simpa using hc),
        ih hcalls.2 (hnext hkeys) hkeys' hget]

/-- The requests of one key draw from its bucket. -/
lemma map_answers {K : Finset String} (hK : K.card ≤ max_keys) {key : String} (hkey : key ∈ K)
    {calls : List Call} (hcalls : ∀ c ∈ calls, c.key = key) {buckets : Buckets}
    (hkeys : ∀ k ∈ buckets.keys, k ∈ K) :
    (answers profile max_keys buckets calls).map (fun a => (a.1.now, a.2.1)) =
      draws (profile.capacity : ℚ) profile.refill_per_second (buckets.get? key)
        (calls.map Call.now) := by
  induction calls generalizing buckets with
  | nil => rfl
  | cons c calls ih =>
    rw [List.forall_mem_cons] at hcalls
    obtain ⟨rfl, hcalls⟩ := hcalls
    have hnext : ∀ k ∈ (take profile max_keys buckets c.key c.now).2.keys, k ∈ K := by
      intro k hk
      rcases (mem_keys_take_of_few hK hkeys hkey).mp hk with hk | rfl
      · exact hkeys k hk
      · exact hkey
    rw [answers, List.map_cons, List.map_cons, draws, ih hcalls hnext,
      get?_take_of_few hK hkeys hkey, if_pos rfl, take_eq]

lemma allowedIn_eq (key : String) (first last : ℚ) (as : List (Call × Bool × ℤ)) :
    allowedIn key first last as =
      admissions first last ((answersOf key as).map fun a => (a.1.now, a.2.1)) := by
  unfold allowedIn answersOf admissions
  rw [List.countP_map, List.countP_filter]
  refine List.countP_congr fun a _ => ?_
  simp [and_comm]

/-! ### Many keys -/

/-- The buckets are of the keys used last, in the order of their last use. -/
lemma keys_after (calls : List Call) :
    (after profile max_keys .empty calls).keys = lastOf max_keys (calls.map Call.key).dedup := by
  induction calls using List.reverseRecOn with
  | nil => simp [after, lastOf, OrderedDict.keys, OrderedDict.empty]
  | append_singleton calls c ih =>
    have hlast : (after profile max_keys .empty (calls ++ [c])) =
        (take profile max_keys (after profile max_keys .empty calls) c.key c.now).2 :=
      List.foldl_append
    rw [hlast, keys_take, ih, List.map_append, List.map_singleton, dedup_concat]
    exact lastOf_move (List.nodup_dedup _) c.key

/-- A key's bucket is kept while the key is one of those used last. -/
lemma get?_after_concat {calls : List Call} {c : Call} {key : String} (hkey : key ≠ c.key) :
    (after profile max_keys .empty (calls ++ [c])).get? key =
      if key ∈ lastOf max_keys ((calls ++ [c]).map Call.key).dedup then
        (after profile max_keys .empty calls).get? key
      else none := by
  have hlast : after profile max_keys .empty (calls ++ [c]) =
      (take profile max_keys (after profile max_keys .empty calls) c.key c.now).2 :=
    List.foldl_append
  rw [← keys_after]
  split_ifs with hmem
  · rw [hlast] at hmem ⊢
    rw [get?_take_of_mem hmem, if_neg hkey]
  · exact OrderedDict.get?_eq_none.mpr hmem

/-! ### The whole run -/

/-- A refused request is allowed again once the wait it was told is over. -/
lemma take_of_waited {buckets : Buckets} {key : String} {now later : ℚ} {wait : ℤ}
    (href : (take profile max_keys buckets key now).1 = (false, wait)) (hlater : now + wait ≤ later)
    {buckets' : Buckets} (hkept : buckets'.get? key = none ∨
      buckets'.get? key = (take profile max_keys buckets key now).2.get? key) :
    (take profile max_keys buckets' key later).1 = (true, 0) := by
  have hone : (1 : ℚ) ≤ profile.capacity := by exact_mod_cast profile.capacity_pos
  have hdraw : (draw (profile.capacity : ℚ) profile.refill_per_second (buckets'.get? key) later).1 =
      true := by
    have hfull : (draw (profile.capacity : ℚ) profile.refill_per_second none later).1 = true := by
      unfold draw level
      rw [if_pos hone]
    rcases hkept with hnone | hkept
    · rw [hnone, hfull]
    by_cases hmem : key ∈ (take profile max_keys buckets key now).2.keys
    · rw [hkept, get?_take_of_mem hmem, if_pos rfl]
      refine TokenBucket.draw_of_refilled hone profile.refill_pos ?_ hlater
      rw [take_eq] at href
      dsimp only at href
      obtain ⟨hfalse, hwait⟩ := Prod.mk.inj href
      rw [hfalse, if_neg Bool.false_ne_true] at hwait
      exact (Int.le_ceil _).trans (by exact_mod_cast hwait ▸ le_max_right _ _)
    · rw [hkept, OrderedDict.get?_eq_none.mpr hmem, hfull]
  rw [take_eq]
  dsimp only
  rw [hdraw]
  rfl

/-- The bucket of a key that is not asked for is kept or dropped. -/
lemma get?_after_of_not_mem {key : String} {calls : List Call} (hcalls : ∀ c ∈ calls, c.key ≠ key)
    (buckets : Buckets) : (after profile max_keys buckets calls).get? key = none ∨
      (after profile max_keys buckets calls).get? key = buckets.get? key := by
  induction calls generalizing buckets with
  | nil => exact .inr rfl
  | cons c calls ih =>
    rw [List.forall_mem_cons] at hcalls
    rcases ih hcalls.2 (take profile max_keys buckets c.key c.now).2 with h | h
    · exact .inl h
    · by_cases hmem : key ∈ (take profile max_keys buckets c.key c.now).2.keys
      · rw [get?_take_of_mem hmem, if_neg (Ne.symm hcalls.1)] at h
        exact .inr h
      · rw [OrderedDict.get?_eq_none.mpr hmem] at h
        exact .inl h

/-- What the buckets promise over every run of the clock: with few keys a window admits the capacity
and the refill and no key depends on another; the levels stay in bounds, a wait that was told is
enough, and the buckets dropped are those of the keys used least recently. -/
theorem token_buckets (profile : BucketProfile) (max_keys : ℕ) (calls : List Call)
    (hclock : calls.Pairwise fun a b => a.now ≤ b.now) :
    ((calls.map Call.key).toFinset.card ≤ max_keys → ∀ key,
      (∀ first last, first ≤ last →
        (allowedIn key first last (answers profile max_keys .empty calls) : ℚ) ≤
          profile.capacity + profile.refill_per_second * (last - first)) ∧
      answersOf key (answers profile max_keys .empty calls) =
        answers profile max_keys .empty (calls.filter (·.key = key))) ∧
    (∀ key tokens updated,
      (after profile max_keys .empty calls).get? key = some (tokens, updated) →
        0 ≤ tokens ∧ tokens ≤ profile.capacity) ∧
    (∀ before between now later key wait,
      calls = before ++ ⟨now, key⟩ :: between ++ [⟨later, key⟩] → (∀ c ∈ between, c.key ≠ key) →
      (take profile max_keys (after profile max_keys .empty before) key now).1 = (false, wait) →
      now + wait ≤ later →
      (take profile max_keys (after profile max_keys .empty (before ++ ⟨now, key⟩ :: between))
        key later).1 = (true, 0)) ∧
    ∀ c key, key ≠ c.key → (after profile max_keys .empty (calls ++ [c])).get? key =
      if key ∈ lastOf max_keys ((calls ++ [c]).map Call.key).dedup then
        (after profile max_keys .empty calls).get? key
      else none := by
  have hcapacity : (0 : ℚ) ≤ profile.capacity := by
    have hpos := profile.capacity_pos
    exact_mod_cast (by omega : 0 ≤ profile.capacity)
  refine ⟨fun hfew key => ?_, fun key tokens updated hget => ?_, ?_, fun c key hkey =>
    get?_after_concat hkey⟩
  · have hmem : ∀ c ∈ calls, c.key ∈ (calls.map Call.key).toFinset := fun c hc =>
      List.mem_toFinset.mpr (List.mem_map_of_mem hc)
    have hempty : ∀ k ∈ (.empty : Buckets).keys, k ∈ (calls.map Call.key).toFinset := nofun
    have hown : answersOf key (answers profile max_keys .empty calls) =
        answers profile max_keys .empty (calls.filter (·.key = key)) :=
      answersOf_eq hfew hmem hempty hempty rfl
    refine ⟨fun first last hwindow => ?_, hown⟩
    rw [allowedIn_eq, hown, mul_comm]
    by_cases hkey : key ∈ (calls.map Call.key).toFinset
    · rw [map_answers hfew hkey (fun c hc => by simpa using (List.mem_filter.mp hc).2) hempty]
      refine TokenBucket.admissions_le hcapacity profile.refill_pos.le hwindow ?_ fun _ _ => trivial
      exact List.pairwise_map.mpr (hclock.sublist List.filter_sublist)
    · have hnone : calls.filter (·.key = key) = [] := by
        rw [List.filter_eq_nil_iff]
        intro c hc hck
        rw [decide_eq_true_eq] at hck
        exact hkey (hck ▸ hmem c hc)
      rw [hnone]
      have hnonneg := mul_nonneg (sub_nonneg.mpr hwindow) profile.refill_pos.le
      simp only [answers, List.map_nil, admissions, List.countP_nil, Nat.cast_zero]
      linarith
  · obtain ⟨t, ht⟩ := (calls.map Call.now).toFinset.exists_le
    have ht : ∀ c ∈ calls, c.now ≤ t := fun c hc =>
      ht c.now (List.mem_toFinset.mpr (List.mem_map_of_mem hc))
    have hsound : Sound (profile.capacity : ℚ) t ((after profile max_keys .empty calls).get? key) :=
      sound_after_empty hclock ht key
    rw [hget] at hsound
    exact ⟨hsound.1, hsound.2.1⟩
  · rintro before between now later key wait - hbetween href hlater
    refine take_of_waited href hlater ?_
    have hafter : after profile max_keys .empty (before ++ ⟨now, key⟩ :: between) =
        after profile max_keys
          (take profile max_keys (after profile max_keys .empty before) key now).2 between := by
      rw [after, List.foldl_append, List.foldl_cons]
      rfl
    rw [hafter]
    exact get?_after_of_not_mem hbetween _

/-- Eleven sign-ins at once and one after the wait. -/
def sampleCalls : List Call :=
  List.replicate 10 ⟨0, "addr:loopback"⟩ ++ ⟨0, "addr:loopback"⟩ :: [] ++ [⟨6, "addr:loopback"⟩]

/-- A minute of sign-ins admits twenty, and the wait of the eleventh is enough. -/
theorem token_buckets_sign_in :
    (allowedIn "addr:loopback" 0 60 (answers SIGN_IN 10000 .empty sampleCalls) : ℚ) ≤ 20 ∧
      (take SIGN_IN 10000 (after SIGN_IN 10000 .empty
        (List.replicate 10 ⟨0, "addr:loopback"⟩ ++ ⟨0, "addr:loopback"⟩ :: [])) "addr:loopback" 6).1 =
          (true, 0) := by
  obtain ⟨hfew, -, hwait, -⟩ := token_buckets SIGN_IN 10000 sampleCalls (by decide +kernel)
  have hwindow := (hfew (by decide +kernel) "addr:loopback").1 0 60 (by norm_num)
  refine ⟨hwindow.trans ?_, hwait _ _ 0 6 _ 6 rfl nofun (by decide +kernel) (by norm_num)⟩
  norm_num [SIGN_IN]

end TrustLens.Backend.Admission
