import Mathlib.Algebra.Order.Field.Basic
import Mathlib.Tactic.Linarith
import Mathlib.Tactic.Ring

/-!
# A token bucket

A bucket of a capacity is refilled at a rate, and a draw takes a whole token where there is one.
The draws that succeed in a window are at most the capacity and what the window refills.
-/

namespace TrustLens.TokenBucket

variable {K : Type*} [Field K] [LinearOrder K]

/-- The level of a bucket and when it was read. -/
abbrev Bucket (K : Type*) := K × K

/-- The level at an instant; a bucket that was never read is full. -/
def level (capacity rate : K) : Option (Bucket K) → K → K
  | none, _ => capacity
  | some (tokens, updated), now => min capacity (tokens + (now - updated) * rate)

/-- Whether a draw succeeds, and the bucket it leaves. -/
def draw (capacity rate : K) (bucket : Option (Bucket K)) (now : K) : Bool × Bucket K :=
  if 1 ≤ level capacity rate bucket now then (true, level capacity rate bucket now - 1, now)
  else (false, level capacity rate bucket now, now)

/-- The draws at some instants, each with its instant. -/
def draws (capacity rate : K) : Option (Bucket K) → List K → List (K × Bool)
  | _, [] => []
  | bucket, now :: rest =>
    (now, (draw capacity rate bucket now).1) ::
      draws capacity rate (some (draw capacity rate bucket now).2) rest

/-- The draws of a window that succeed. -/
def admissions (first last : K) (ds : List (K × Bool)) : ℕ :=
  ds.countP fun d => d.2 && decide (first ≤ d.1 ∧ d.1 ≤ last)

/-- A level that a bucket can have at an instant. -/
def Sound (capacity : K) (now : K) : Option (Bucket K) → Prop
  | none => True
  | some (tokens, updated) => 0 ≤ tokens ∧ tokens ≤ capacity ∧ updated ≤ now

lemma level_le (capacity rate : K) (bucket : Option (Bucket K)) (now : K) :
    level capacity rate bucket now ≤ capacity := by
  cases bucket with
  | none => exact le_rfl
  | some bucket => exact min_le_left _ _

@[simp] lemma draw_updated (capacity rate : K) (bucket : Option (Bucket K)) (now : K) :
    (draw capacity rate bucket now).2.2 = now := by
  unfold draw
  split_ifs <;> rfl

variable {capacity rate : K}

lemma Sound.mono {bucket : Option (Bucket K)} {now later : K} (h : Sound capacity now bucket)
    (hlater : now ≤ later) : Sound capacity later bucket := by
  cases bucket with
  | none => trivial
  | some bucket => exact ⟨h.1, h.2.1, h.2.2.trans hlater⟩

lemma fst_of_mem_draws {ts : List K} {bucket : Option (Bucket K)} {d : K × Bool}
    (h : d ∈ draws capacity rate bucket ts) : d.1 ∈ ts := by
  induction ts generalizing bucket with
  | nil => cases h
  | cons t ts ih =>
    rcases List.mem_cons.mp h with rfl | h
    · exact List.mem_cons_self
    · exact List.mem_cons_of_mem _ (ih h)

/-- After the window nothing is counted. -/
lemma admissions_eq_zero {first last : K} {ts : List K} (bucket : Option (Bucket K))
    (h : ∀ t ∈ ts, last < t) : admissions first last (draws capacity rate bucket ts) = 0 := by
  rw [admissions, List.countP_eq_zero]
  intro d hd
  have hlast := h d.1 (fst_of_mem_draws hd)
  rw [Bool.and_eq_true, decide_eq_true_eq]
  rintro ⟨-, -, hle⟩
  exact absurd hle (not_le.mpr hlast)

variable [IsStrictOrderedRing K]

lemma level_nonneg (hcapacity : 0 ≤ capacity) (hrate : 0 ≤ rate) {bucket : Option (Bucket K)} {now : K}
    (h : Sound capacity now bucket) : 0 ≤ level capacity rate bucket now := by
  cases bucket with
  | none => exact hcapacity
  | some bucket =>
    obtain ⟨htokens, -, hupdated⟩ := h
    exact le_min hcapacity (add_nonneg htokens (mul_nonneg (sub_nonneg.mpr hupdated) hrate))

/-- A draw leaves between nothing and the capacity. -/
lemma sound_draw (hcapacity : 0 ≤ capacity) (hrate : 0 ≤ rate) {bucket : Option (Bucket K)} {now : K}
    (h : Sound capacity now bucket) : Sound capacity now (some (draw capacity rate bucket now).2) := by
  have hle := level_le capacity rate bucket now
  have hnonneg := level_nonneg hcapacity hrate h
  unfold draw
  split_ifs with hone
  · exact ⟨by linarith, by linarith, le_rfl⟩
  · exact ⟨hnonneg, hle, le_rfl⟩

/-- A draw spends a token if it is counted. -/
lemma admissions_draw_le (capacity rate first last : K) (bucket : Option (Bucket K)) (t : K) (ts : List K) :
    (admissions first last (draws capacity rate bucket (t :: ts)) : K) +
        (draw capacity rate bucket t).2.1 ≤
      admissions first last (draws capacity rate (some (draw capacity rate bucket t).2) ts) +
        level capacity rate bucket t := by
  unfold admissions
  rw [draws, List.countP_cons]
  unfold draw
  by_cases hone : 1 ≤ level capacity rate bucket t
  · rw [if_pos hone]
    split_ifs
    · push_cast
      linarith
    · push_cast
      linarith
  · rw [if_neg hone]
    simp

/-- From a bucket read before the window's end: what it holds and what is refilled until then. -/
lemma admissions_le_of_bucket (hcapacity : 0 ≤ capacity) (hrate : 0 ≤ rate) (first : K)
    {last : K} {ts : List K} (hts : ts.Pairwise (· ≤ ·)) {tokens updated : K} (htokens : 0 ≤ tokens)
    (hle : tokens ≤ capacity) (hupdated : ∀ t ∈ ts, updated ≤ t) (hlast : updated ≤ last) :
    (admissions first last (draws capacity rate (some (tokens, updated)) ts) : K) ≤
      tokens + (last - updated) * rate := by
  induction ts generalizing tokens updated with
  | nil =>
    have hnonneg := mul_nonneg (sub_nonneg.mpr hlast) hrate
    simp only [draws, admissions, List.countP_nil, Nat.cast_zero]
    linarith
  | cons t ts ih =>
    rw [List.pairwise_cons] at hts
    have ht := hupdated t List.mem_cons_self
    rcases le_or_gt t last with hwindow | hwindow
    · have hsound : Sound capacity t (some (tokens, updated)) := ⟨htokens, hle, ht⟩
      obtain ⟨hnonneg, hle', -⟩ := sound_draw hcapacity hrate hsound
      have hstep := admissions_draw_le capacity rate first last (some (tokens, updated)) t ts
      have hnow := draw_updated capacity rate (some (tokens, updated)) t
      have hrest := ih hts.2 hnonneg hle' (hnow.symm ▸ hts.1) (hnow.symm ▸ hwindow)
      have hlevel : level capacity rate (some (tokens, updated)) t ≤ tokens + (t - updated) * rate :=
        min_le_right _ _
      rw [Prod.mk.eta, hnow] at hrest
      have hsplit : (last - updated) * rate = (last - t) * rate + (t - updated) * rate := by ring
      linarith
    · rw [admissions_eq_zero _ (List.forall_mem_cons.mpr ⟨hwindow, fun t' ht' =>
        hwindow.trans_le (hts.1 t' ht')⟩), Nat.cast_zero]
      exact add_nonneg htokens (mul_nonneg (sub_nonneg.mpr hlast) hrate)

/-- The draws that succeed in a window are at most the capacity and what it refills. -/
theorem admissions_le (hcapacity : 0 ≤ capacity) (hrate : 0 ≤ rate) {first last : K}
    (hwindow : first ≤ last) {ts : List K} (hts : ts.Pairwise (· ≤ ·)) {bucket : Option (Bucket K)}
    (hbucket : ∀ t ∈ ts, Sound capacity t bucket) :
    (admissions first last (draws capacity rate bucket ts) : K) ≤ capacity + (last - first) * rate := by
  induction ts generalizing bucket with
  | nil =>
    have hnonneg := mul_nonneg (sub_nonneg.mpr hwindow) hrate
    simp only [draws, admissions, List.countP_nil, Nat.cast_zero]
    linarith
  | cons t ts ih =>
    rw [List.pairwise_cons] at hts
    have hsound := hbucket t List.mem_cons_self
    have hdraw := sound_draw hcapacity hrate hsound
    have hnow := draw_updated capacity rate bucket t
    rcases lt_or_ge t first with hbefore | hafter
    · have hzero : admissions first last (draws capacity rate bucket (t :: ts)) =
          admissions first last (draws capacity rate (some (draw capacity rate bucket t).2) ts) := by
        unfold admissions
        rw [draws, List.countP_cons]
        simp [not_le.mpr hbefore]
      rw [hzero]
      exact ih hts.2 fun t' ht' => hdraw.mono (hts.1 t' ht')
    rcases le_or_gt t last with hin | hout
    · have hstep := admissions_draw_le capacity rate first last bucket t ts
      obtain ⟨hnonneg, hle, -⟩ := hdraw
      have hrest := admissions_le_of_bucket hcapacity hrate first hts.2 hnonneg hle
        (hnow.symm ▸ hts.1) (hnow.symm ▸ hin)
      rw [Prod.mk.eta, hnow] at hrest
      have hlevel := level_le capacity rate bucket t
      have hgap : (last - t) * rate ≤ (last - first) * rate :=
        mul_le_mul_of_nonneg_right (by linarith) hrate
      linarith
    · rw [admissions_eq_zero _ (List.forall_mem_cons.mpr ⟨hout, fun t' ht' =>
        hout.trans_le (hts.1 t' ht')⟩), Nat.cast_zero]
      exact add_nonneg hcapacity (mul_nonneg (sub_nonneg.mpr hwindow) hrate)

/-- A bucket has a token again once what is missing is refilled. -/
theorem draw_of_refilled (hone : 1 ≤ capacity) (hrate : 0 < rate) {bucket : Option (Bucket K)}
    {now later wait : K} (hwait : (1 - (draw capacity rate bucket now).2.1) / rate ≤ wait)
    (hlater : now + wait ≤ later) :
    (draw capacity rate (some (draw capacity rate bucket now).2) later).1 = true := by
  have hlevel : 1 ≤ level capacity rate (some (draw capacity rate bucket now).2) later := by
    refine le_min hone ?_
    rw [draw_updated]
    have hmissing := (div_le_iff₀ hrate).mp (hwait.trans (by linarith : wait ≤ later - now))
    linarith
  rw [draw, if_pos hlevel]

end TrustLens.TokenBucket
