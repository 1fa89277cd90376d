import TrustLens.Backend.Extraction
import TrustLens.Backend.Normalization

/-!
# Where normalized characters come from

The origin of every normalized character is the part of the submitted text one round of the
loop read. The origins are in the order of the text, and a span of normalized characters maps
back to one contiguous part of it.
-/

namespace TrustLens.Backend.Extraction

open PyText (isSpace)

/-- Two origins are one part of the text, or the first is before the second. -/
def Origin.Precedes (a b : Origin) : Prop :=
  (a.start = b.start ∧ a.stop = b.stop) ∨ a.stop ≤ b.start

/-- The part of the text is what a round read, and the character is of what it shows. -/
def Origin.Produced (U : Unicode) (raw : Text) (o : Origin) : Prop :=
  ∃ x ∈ tokens U raw, slice raw o.start o.stop = x.source ∧ o.char ∈ x.shown U

/-- The origins lie in the text, in its order, and are what the characters come from. -/
structure OriginMap (U : Unicode) (raw : Text) (origins : List Origin) : Prop where
  within : ∀ o ∈ origins, o.start < o.stop ∧ o.stop ≤ raw.length
  ordered : origins.Pairwise Origin.Precedes
  produced : ∀ o ∈ origins, o.Produced U raw

section Origins

variable {U : Unicode}

/-- An origin of the token between what was read before and what comes after. -/
def Origin.Of (U : Unicode) (i : ℕ) (ts : List Token) (o : Origin) : Prop :=
  ∃ before x after, ts = before ++ x :: after ∧ o.char ∈ x.shown U ∧
    o.start = i + (before.flatMap Token.source).length ∧ o.stop = o.start + x.source.length

lemma Origin.Of.cons {i : ℕ} {x : Token} {ts : List Token} {o : Origin}
    (h : o.Of U (i + x.source.length) ts) : o.Of U i (x :: ts) := by
  obtain ⟨before, y, after, rfl, hchar, hstart, hstop⟩ := h
  refine ⟨x :: before, y, after, rfl, hchar, ?_, hstop⟩
  rw [hstart, List.flatMap_cons, List.length_append, Nat.add_assoc]

lemma Origin.Of.le {i : ℕ} {ts : List Token} {o : Origin} (h : o.Of U i ts) : i ≤ o.start := by
  obtain ⟨before, x, after, -, -, hstart, -⟩ := h
  omega

lemma Origin.of_head {i j : ℕ} {x : Token} {ts : List Token} {c : Char} (hc : c ∈ x.shown U)
    (hj : j = i + x.source.length) : Origin.Of U i (x :: ts) ⟨c, i, j⟩ :=
  ⟨[], x, ts, rfl, hc, rfl, hj⟩

/-- What the loop gives out is what was pending or comes from the tokens, in order. -/
lemma emitFrom_origins (i : ℕ) (pending : Option Origin) (started : Bool) (ts : List Token)
    (hpending : ∀ g ∈ pending, g.stop ≤ i) :
    (∀ o ∈ emitFrom U i pending started ts, o ∈ pending ∨ o.Of U i ts) ∧
      (emitFrom U i pending started ts).Pairwise Origin.Precedes := by
  induction ts generalizing i pending started with
  | nil => exact ⟨by simp [emitFrom], List.Pairwise.nil⟩
  | cons x ts ih =>
    cases x with
    | gap run =>
      rw [emitFrom]
      by_cases hstarted : started = true
      · rw [if_pos hstarted]
        obtain ⟨horigins, hordered⟩ := ih (i + run.length)
          (some ⟨if run.any isLineBreak then '\n' else ' ', i, i + run.length⟩) started
          (fun g hg => by rw [← Option.mem_some_iff.mp hg])
        refine ⟨fun o ho => .inr ?_, hordered⟩
        rcases horigins o ho with hgap | hof
        · rw [← Option.mem_some_iff.mp hgap]
          exact Origin.of_head List.mem_cons_self rfl
        · exact hof.cons
      · rw [if_neg hstarted]
        obtain ⟨horigins, hordered⟩ := ih (i + run.length) pending started
          (fun g hg => (hpending g hg).trans (Nat.le_add_right i _))
        exact ⟨fun o ho => (horigins o ho).imp_right Origin.Of.cons, hordered⟩
    | hidden c =>
      rw [emitFrom]
      obtain ⟨horigins, hordered⟩ := ih (i + 1) pending started
        (fun g hg => (hpending g hg).trans (Nat.le_add_right i 1))
      exact ⟨fun o ho => (horigins o ho).imp_right Origin.Of.cons, hordered⟩
    | cluster chars =>
      rw [emitFrom]
      obtain ⟨horigins, hordered⟩ := ih (i + chars.length) none
        (started || !(pending.toList ++ (U.nfkc chars).map fun d =>
          (⟨d, i, i + chars.length⟩ : Origin)).isEmpty) (fun g hg => by cases hg)
      have hafter : ∀ o ∈ emitFrom U (i + chars.length) none (started || !(pending.toList ++
          (U.nfkc chars).map fun d => (⟨d, i, i + chars.length⟩ : Origin)).isEmpty) ts,
          o.Of U (i + chars.length) ts := fun o ho =>
        (horigins o ho).resolve_left (by simp)
      have hpiece : ∀ o ∈ (U.nfkc chars).map fun d => (⟨d, i, i + chars.length⟩ : Origin),
          o.start = i ∧ o.stop = i + chars.length ∧ o.Of U i (.cluster chars :: ts) := by
        intro o ho
        obtain ⟨d, hd, rfl⟩ := List.mem_map.mp ho
        exact ⟨rfl, rfl, Origin.of_head hd rfl⟩
      constructor
      · intro o ho
        simp only [List.mem_append, Option.mem_toList] at ho
        rcases ho with (hgap | ho) | ho
        · exact .inl hgap
        · exact .inr (hpiece o ho).2.2
        · exact .inr (hafter o ho).cons
      · rw [List.append_assoc, List.pairwise_append, List.pairwise_append]
        refine ⟨?_, ⟨?_, hordered, ?_⟩, ?_⟩
        · cases pending <;> simp
        · refine List.pairwise_iff_forall_sublist.mpr fun {a b} hab => ?_
          obtain ⟨ha, ha', -⟩ := hpiece a (hab.subset List.mem_cons_self)
          obtain ⟨hb, hb', -⟩ := hpiece b (hab.subset (by simp))
          exact .inl ⟨ha.trans hb.symm, ha'.trans hb'.symm⟩
        · intro a ha b hb
          obtain ⟨-, hstop, -⟩ := hpiece a ha
          exact .inr (hstop ▸ (hafter b hb).le)
        · intro a ha b hb
          have hstop := hpending a (Option.mem_toList.mp ha)
          rcases List.mem_append.mp hb with hb | hb
          · exact .inr ((hpiece b hb).1 ▸ hstop)
          · exact .inr (hstop.trans ((Nat.le_add_right i _).trans (hafter b hb).le))

/-- What is read between two points of a text. -/
lemma slice_flatMap (before after : List Token) (x : Token) :
    slice ((before ++ x :: after).flatMap Token.source) (before.flatMap Token.source).length
      ((before.flatMap Token.source).length + x.source.length) = x.source := by
  rw [slice, List.flatMap_append, List.drop_left', List.flatMap_cons, Nat.add_sub_cancel_left,
    List.take_left']
  · rfl
  · rfl

/-- The origins of a normalized text are a map of the submitted one. -/
theorem originMap_normalize (U : Unicode) (raw : Text) : OriginMap U raw (normalize U raw) := by
  obtain ⟨horigins, hordered⟩ := emitFrom_origins (U := U) 0 none false (tokens U raw) (by simp)
  rw [← normalize_eq] at horigins hordered
  have hof : ∀ o ∈ normalize U raw, o.Of U 0 (tokens U raw) := fun o ho =>
    (horigins o ho).resolve_left (by simp)
  refine ⟨fun o ho => ?_, hordered, fun o ho => ?_⟩
  · obtain ⟨before, x, after, hsplit, -, hstart, hstop⟩ := hof o ho
    have hx : x.source ≠ [] := (shaped_of_mem_tokens (by rw [hsplit]; simp)).source_ne_nil
    have hlength : raw.length = ((before ++ x :: after).flatMap Token.source).length := by
      rw [← hsplit, source_tokens]
    rw [List.flatMap_append, List.flatMap_cons, List.length_append, List.length_append] at hlength
    have := List.length_pos_iff.mpr hx
    omega
  · obtain ⟨before, x, after, hsplit, hchar, hstart, hstop⟩ := hof o ho
    refine ⟨x, by rw [hsplit]; simp, ?_, hchar⟩
    rw [hstop, hstart, Nat.zero_add, ← source_tokens (U := U) raw, hsplit]
    exact slice_flatMap before after x

/-! ### Spans -/

/-- The bounds of what a span of normalized characters maps back to. -/
def rawSpan (origins : List Origin) (a b : ℕ) : Option (ℕ × ℕ) :=
  match origins[a]?, origins[b - 1]? with
  | some first, some last => some (first.start, last.stop)
  | _, _ => none

/-- Every span of normalized characters is a part of the text that covers what its characters come
from, and spans in the order of the normalized text do not go back in the submitted one. -/
structure SpansTraced (raw : Text) (origins : List Origin) : Prop where
  traced : ∀ a b, a < b → b ≤ origins.length → ∃ span, rawSpan origins a b = some span ∧
    rawOf raw origins a b = .ok (slice raw span.1 span.2) ∧ span.1 < span.2 ∧
    span.2 ≤ raw.length ∧ ∀ i o, a ≤ i → i < b → origins[i]? = some o →
      span.1 ≤ o.start ∧ o.stop ≤ span.2
  forward : ∀ a b c d first second, a < b → b ≤ c → c < d → rawSpan origins a b = some first →
    rawSpan origins c d = some second → first.1 ≤ second.1 ∧ first.2 ≤ second.2

/-- The origins are in order, the equal ones included. -/
lemma OriginMap.monotone {raw : Text} {origins : List Origin} (h : OriginMap U raw origins)
    {i j : ℕ} (hij : i ≤ j) {a b : Origin} (ha : origins[i]? = some a) (hb : origins[j]? = some b) :
    a.start ≤ b.start ∧ a.stop ≤ b.stop := by
  rcases Nat.eq_or_lt_of_le hij with rfl | hlt
  · obtain rfl : a = b := Option.some.inj (ha.symm.trans hb)
    exact ⟨le_rfl, le_rfl⟩
  · obtain ⟨hi, rfl⟩ := List.getElem?_eq_some_iff.mp ha
    obtain ⟨hj, rfl⟩ := List.getElem?_eq_some_iff.mp hb
    have hfirst := (h.within _ (List.getElem_mem hi)).1
    have hsecond := (h.within _ (List.getElem_mem hj)).1
    rcases List.pairwise_iff_getElem.mp h.ordered i j hi hj hlt with ⟨hstart, hstop⟩ | hbefore
    · exact ⟨hstart.le, hstop.le⟩
    · exact ⟨(hfirst.le.trans hbefore), hbefore.trans hsecond.le⟩

lemma rawSpan_eq_some {origins : List Origin} {a b : ℕ} {span : ℕ × ℕ}
    (h : rawSpan origins a b = some span) : ∃ first last, origins[a]? = some first ∧
      origins[b - 1]? = some last ∧ span = (first.start, last.stop) := by
  unfold rawSpan at h
  split at h
  · rename_i first last hfirst hlast
    exact ⟨first, last, hfirst, hlast, (Option.some.inj h).symm⟩
  · cases h

theorem OriginMap.spansTraced {raw : Text} {origins : List Origin} (h : OriginMap U raw origins) :
    SpansTraced raw origins := by
  constructor
  · intro a b hab hb
    have hfirst := List.getElem?_eq_getElem (l := origins) (show a < origins.length by omega)
    have hlast := List.getElem?_eq_getElem (l := origins) (show b - 1 < origins.length by omega)
    refine ⟨_, by rw [rawSpan, hfirst, hlast], ?_, ?_, ?_, fun i o hi hlt ho => ?_⟩
    · rw [rawOf, if_neg (by omega : ¬b = 0), hfirst, hlast]
    · have := (h.within _ (List.getElem_mem (show a < origins.length by omega))).1
      have := (h.monotone (show a ≤ b - 1 by omega) hfirst hlast).2
      simp only
      omega
    · exact (h.within _ (List.getElem_mem (show b - 1 < origins.length by omega))).2
    · exact ⟨(h.monotone hi hfirst ho).1, (h.monotone (show i ≤ b - 1 by omega) ho hlast).2⟩
  · intro a b c d first second hab hbc hcd hfirst hsecond
    obtain ⟨a₁, a₂, ha₁, ha₂, rfl⟩ := rawSpan_eq_some hfirst
    obtain ⟨b₁, b₂, hb₁, hb₂, rfl⟩ := rawSpan_eq_some hsecond
    exact ⟨(h.monotone (show a ≤ c by omega) ha₁ hb₁).1,
      (h.monotone (show b - 1 ≤ d - 1 by omega) ha₂ hb₂).2⟩

end Origins

end TrustLens.Backend.Extraction
