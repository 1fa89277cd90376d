import Mathlib.Data.List.Chain
import Mathlib.Data.List.DropRight
import TrustLens.Backend.Message

/-!
# The rounds of the normalizer

Each round of the loop of `normalize` reads one token of the submitted text: a run of
whitespace, an invisible character, or a character with the combining marks after it. The
normalized text shows the tokens in order, without what is invisible or at the ends.
-/

namespace TrustLens.Backend.Extraction

open PyText (isSpace)

/-- What one round of the loop of `normalize` reads. -/
inductive Token where
  /-- whitespace, with the invisible characters among it -/
  | gap (run : Text)
  /-- an invisible character on its own -/
  | hidden (c : Char)
  /-- a character and the combining marks after it -/
  | cluster (chars : Text)
deriving DecidableEq

namespace Token

def source : Token → Text
  | gap run => run
  | hidden c => [c]
  | cluster chars => chars

def isGap : Token → Bool
  | gap _ => true
  | _ => false

def isHidden : Token → Bool
  | hidden _ => true
  | _ => false

/-- What stands for a token in the normalized text, unless it is a gap at one of the ends. -/
def shown (U : Unicode) : Token → Text
  | gap run => [if run.any isLineBreak then '\n' else ' ']
  | hidden _ => []
  | cluster chars => U.nfkc chars

end Token

section Cutting

variable (U : Unicode)

def blank (c : Char) : Bool := isSpace c || invisible U c

/-- The tokens of a text, `skip` characters of which are already read. -/
def tokensFrom : (skip : ℕ) → Text → List Token
  | _, [] => []
  | skip + 1, _ :: rest => tokensFrom skip rest
  | 0, c :: rest =>
    if isSpace c then
      let run := c :: rest.takeWhile (blank U)
      .gap run :: tokensFrom (run.length - 1) rest
    else if invisible U c then .hidden c :: tokensFrom 0 rest
    else
      let chars := c :: rest.takeWhile (combining U)
      .cluster chars :: tokensFrom (chars.length - 1) rest

def tokens (raw : Text) : List Token := tokensFrom U 0 raw

/-- The tokens the normalized text shows: not the invisible ones, nor the gaps at its ends. -/
def inner (ts : List Token) : List Token :=
  ((ts.filter fun t => !t.isHidden).dropWhile Token.isGap).rdropWhile Token.isGap

def row (ts : List Token) : Text := ts.flatMap (Token.shown U)

/-- The loop of `normalize` over the tokens, the next of which starts at position `i`. -/
def emitFrom : (i : ℕ) → (pending : Option Origin) → (started : Bool) → List Token → List Origin
  | _, _, _, [] => []
  | i, pending, started, .gap run :: ts =>
    let gap : Origin := ⟨if run.any isLineBreak then '\n' else ' ', i, i + run.length⟩
    emitFrom (i + run.length) (if started then some gap else pending) started ts
  | i, pending, started, .hidden _ :: ts => emitFrom (i + 1) pending started ts
  | i, pending, started, .cluster chars :: ts =>
    let out := pending.toList ++ (U.nfkc chars).map fun d => ⟨d, i, i + chars.length⟩
    out ++ emitFrom (i + chars.length) none (started || !out.isEmpty) ts

/-- The text of the normalized characters. -/
def normalizedText (raw : Text) : Text := (normalize U raw).map Origin.char

end Cutting

/-! ### The tokens of a text -/

section Tokens

variable {U : Unicode}

lemma tokensFrom_drop (skip : ℕ) (raw : Text) :
    tokensFrom U skip raw = tokensFrom U 0 (raw.drop skip) := by
  induction raw generalizing skip with
  | nil => cases skip <;> rfl
  | cons c rest ih =>
    cases skip with
    | zero => rfl
    | succ skip => exact ih skip

lemma drop_length_takeWhile {p : Char → Bool} (t : Text) :
    t.drop (t.takeWhile p).length = t.dropWhile p := by
  calc t.drop (t.takeWhile p).length
      = (t.takeWhile p ++ t.dropWhile p).drop (t.takeWhile p).length := by
        rw [List.takeWhile_append_dropWhile]
    _ = t.dropWhile p := List.drop_append_length

lemma tokens_gap {c : Char} {rest : Text} (hc : isSpace c = true) :
    tokens U (c :: rest) =
      .gap (c :: rest.takeWhile (blank U)) :: tokens U (rest.dropWhile (blank U)) := by
  rw [tokens, tokensFrom, if_pos hc]
  dsimp only
  rw [List.length_cons, Nat.add_sub_cancel, tokensFrom_drop, drop_length_takeWhile]
  rfl

lemma tokens_hidden {c : Char} {rest : Text} (hc : isSpace c = false) (hi : invisible U c = true) :
    tokens U (c :: rest) = .hidden c :: tokens U rest := by
  rw [tokens, tokensFrom, if_neg (by simp [hc]), if_pos hi]
  rfl

lemma tokens_cluster {c : Char} {rest : Text} (hc : isSpace c = false)
    (hi : invisible U c = false) :
    tokens U (c :: rest) =
      .cluster (c :: rest.takeWhile (combining U)) :: tokens U (rest.dropWhile (combining U)) := by
  rw [tokens, tokensFrom, if_neg (by simp [hc]), if_neg (by simp [hi])]
  dsimp only
  rw [List.length_cons, Nat.add_sub_cancel, tokensFrom_drop, drop_length_takeWhile]
  rfl

/-- Induction on what the rounds of the loop leave to read. -/
theorem tokens_induction {motive : Text → Prop} (nil : motive [])
    (gap : ∀ c rest, isSpace c = true → motive (rest.dropWhile (blank U)) → motive (c :: rest))
    (hidden : ∀ c rest, isSpace c = false → invisible U c = true → motive rest →
      motive (c :: rest))
    (cluster : ∀ c rest, isSpace c = false → invisible U c = false →
      motive (rest.dropWhile (combining U)) → motive (c :: rest)) : ∀ t, motive t := by
  intro t
  induction hn : t.length using Nat.strong_induction_on generalizing t with
  | _ n ih =>
    cases t with
    | nil => exact nil
    | cons c rest =>
      have hle : ∀ p : Char → Bool, (rest.dropWhile p).length < n := fun p => by
        rw [← hn, List.length_cons]
        exact Nat.lt_succ_of_le (List.length_dropWhile_le p rest)
      cases hc : isSpace c with
      | true => exact gap c rest hc (ih _ (hle _) _ rfl)
      | false =>
        cases hi : invisible U c with
        | true => exact hidden c rest hc hi (ih _ (by simp [← hn]) _ rfl)
        | false => exact cluster c rest hc hi (ih _ (hle _) _ rfl)

/-- The tokens are the text in pieces. -/
lemma source_tokens (t : Text) : (tokens U t).flatMap Token.source = t := by
  induction t using tokens_induction (U := U) with
  | nil => rfl
  | gap c rest hc ih =>
    rw [tokens_gap hc, List.flatMap_cons, ih, Token.source, List.cons_append,
      List.takeWhile_append_dropWhile]
  | hidden c rest hc hi ih =>
    rw [tokens_hidden hc hi, List.flatMap_cons, ih]
    rfl
  | cluster c rest hc hi ih =>
    rw [tokens_cluster hc hi, List.flatMap_cons, ih, Token.source, List.cons_append,
      List.takeWhile_append_dropWhile]

/-- A character that is no whitespace, with combining marks. -/
def IsCluster (U : Unicode) (k : Text) : Prop :=
  ∃ c marks, k = c :: marks ∧ isSpace c = false ∧ ∀ d ∈ marks, combining U d = true

/-- The token is of the shape its round reads. -/
def Token.Shaped (U : Unicode) : Token → Prop
  | gap run => ∃ c blanks, run = c :: blanks ∧ isSpace c = true ∧ ∀ d ∈ blanks, blank U d = true
  | hidden c => invisible U c = true
  | cluster chars => IsCluster U chars ∧ ∀ c ∈ chars.head?, invisible U c = false

lemma shaped_of_mem_tokens {t : Text} {x : Token} (hx : x ∈ tokens U t) : x.Shaped U := by
  induction t using tokens_induction (U := U) with
  | nil => cases hx
  | gap c rest hc ih =>
    rw [tokens_gap hc] at hx
    rcases List.mem_cons.mp hx with rfl | hx
    · exact ⟨c, _, rfl, hc, fun d hd => List.mem_takeWhile_imp hd⟩
    · exact ih hx
  | hidden c rest hc hi ih =>
    rw [tokens_hidden hc hi] at hx
    rcases List.mem_cons.mp hx with rfl | hx
    · exact hi
    · exact ih hx
  | cluster c rest hc hi ih =>
    rw [tokens_cluster hc hi] at hx
    rcases List.mem_cons.mp hx with rfl | hx
    · exact ⟨⟨c, _, rfl, hc, fun d hd => List.mem_takeWhile_imp hd⟩, by simpa using hi⟩
    · exact ih hx

lemma Token.Shaped.source_ne_nil {x : Token} (h : x.Shaped U) : x.source ≠ [] := by
  cases x with
  | gap run =>
    obtain ⟨c, blanks, rfl, -⟩ := h
    exact List.cons_ne_nil _ _
  | hidden c => exact List.cons_ne_nil _ _
  | cluster chars =>
    obtain ⟨⟨c, marks, rfl, -⟩, -⟩ := h
    exact List.cons_ne_nil _ _

/-- Two gaps do not follow each other. -/
def GapsApart (ts : List Token) : Prop := ts.IsChain fun x y => ¬(x.isGap = true ∧ y.isGap = true)

lemma tokens_after_gap (rest : Text) (x : Token) (hx : x ∈ (tokens U (rest.dropWhile (blank U))).head?) :
    x.isGap = false ∧ x.isHidden = false := by
  cases h : rest.dropWhile (blank U) with
  | nil =>
    rw [h] at hx
    cases hx
  | cons c rest' =>
    have hc : blank U c = false := by
      have := List.head_dropWhile_not (blank U) (l := rest) (by simp [h])
      simpa [h] using this
    simp only [blank, Bool.or_eq_false_iff] at hc
    rw [h, tokens_cluster hc.1 hc.2, List.head?_cons, Option.mem_some_iff] at hx
    subst hx
    exact ⟨rfl, rfl⟩

lemma gapsApart_visible (t : Text) : GapsApart ((tokens U t).filter fun x => !x.isHidden) := by
  induction t using tokens_induction (U := U) with
  | nil => exact List.isChain_nil
  | gap c rest hc ih =>
    rw [tokens_gap hc, List.filter_cons_of_pos rfl]
    refine List.isChain_cons.mpr ⟨fun y hy => ?_, ih⟩
    have hfirst : (List.filter (fun x => !x.isHidden) (tokens U (rest.dropWhile (blank U)))).head? =
        (tokens U (rest.dropWhile (blank U))).head? := by
      cases h : tokens U (rest.dropWhile (blank U)) with
      | nil => rfl
      | cons x ts =>
        rw [List.filter_cons_of_pos]
        · rfl
        · simp [(tokens_after_gap (U := U) rest x (by rw [h]; rfl)).2]
    rw [hfirst] at hy
    simp [(tokens_after_gap rest y hy).1]
  | hidden c rest hc hi ih =>
    rw [tokens_hidden hc hi, List.filter_cons_of_neg (by simp [Token.isHidden])]
    exact ih
  | cluster c rest hc hi ih =>
    rw [tokens_cluster hc hi, List.filter_cons_of_pos rfl]
    exact List.isChain_cons.mpr ⟨fun y _ => by simp [Token.isGap], ih⟩

/-! ### The loop over the tokens -/

lemma normalizeFrom_eq (i skip : ℕ) (pending : Option Origin) (started : Bool) (raw : Text) :
    normalizeFrom U i skip pending started raw =
      emitFrom U (i + skip) pending started (tokensFrom U skip raw) := by
  induction raw generalizing i skip pending started with
  | nil => cases skip <;> rfl
  | cons c rest ih =>
    cases skip with
    | succ skip =>
      rw [normalizeFrom, tokensFrom, ih]
      congr 1
      omega
    | zero =>
      have hlength : ∀ marks : Text, i + 1 + ((c :: marks).length - 1) = i + (c :: marks).length :=
        fun marks => by
          simp only [List.length_cons]
          omega
      rw [normalizeFrom, tokensFrom, Nat.add_zero]
      by_cases hc : isSpace c = true
      · rw [if_pos hc, if_pos hc]
        dsimp only
        rw [ih, emitFrom, hlength]
        rfl
      · rw [if_neg hc, if_neg hc]
        by_cases hi : invisible U c = true
        · rw [if_pos hi, if_pos hi, ih, emitFrom]
        · rw [if_neg hi, if_neg hi]
          dsimp only
          rw [ih, emitFrom, hlength]
          rfl

lemma normalize_eq (raw : Text) : normalize U raw = emitFrom U 0 none false (tokens U raw) :=
  normalizeFrom_eq 0 0 none false raw

lemma rdropWhile_cons {α : Type} (p : α → Bool) (x : α) (xs : List α) :
    (x :: xs).rdropWhile p =
      if xs.rdropWhile p = [] then (if p x then [] else [x]) else x :: xs.rdropWhile p := by
  induction xs using List.reverseRecOn with
  | nil => simp [List.rdropWhile_singleton]
  | append_singleton ys y ih =>
    rw [← List.cons_append, List.rdropWhile_concat, List.rdropWhile_concat]
    split_ifs with hy hnil hx <;> simp_all

lemma map_char_piece (k : Text) (i j : ℕ) :
    (k.map fun d => (⟨d, i, j⟩ : Origin)).map Origin.char = k := by
  rw [List.map_map]
  exact List.map_id _

/-- Once characters are out, the tokens but the gaps at the end follow. -/
lemma emitFrom_started (i : ℕ) (pending : Option Origin) (ts : List Token)
    (hapart : GapsApart (ts.filter fun t => !t.isHidden))
    (hpending : pending.isSome → ∀ x ∈ (ts.filter fun t => !t.isHidden).head?, x.isGap = false) :
    (emitFrom U i pending true ts).map Origin.char =
      let rest := (ts.filter fun t => !t.isHidden).rdropWhile Token.isGap
      if rest = [] then [] else pending.toList.map Origin.char ++ row U rest := by
  induction ts generalizing i pending with
  | nil => rfl
  | cons t ts ih =>
    cases t with
    | gap run =>
      rw [List.filter_cons_of_pos (by rfl)] at hapart hpending ⊢
      obtain ⟨hnext, hapart⟩ := List.isChain_cons.mp hapart
      have hnone : pending = none := by
        rw [← Option.not_isSome_iff_eq_none]
        intro hsome
        cases hpending hsome _ rfl
      subst hnone
      rw [emitFrom, ih _ _ hapart fun _ x hx => by simpa using fun h => hnext x hx ⟨rfl, h⟩]
      simp only [rdropWhile_cons, Token.isGap, if_true]
      split_ifs <;> simp_all [row, Token.shown]
    | hidden c =>
      rw [List.filter_cons_of_neg (by simp [Token.isHidden])] at hapart hpending ⊢
      rw [emitFrom, ih _ _ hapart hpending]
    | cluster chars =>
      rw [List.filter_cons_of_pos (by rfl)] at hapart hpending ⊢
      rw [emitFrom]
      simp only [Bool.true_or, List.map_append, List.map_map]
      rw [ih _ _ (List.isChain_cons.mp hapart).2 (by simp)]
      have hpiece := map_char_piece (U.nfkc chars) i (i + chars.length)
      simp only [rdropWhile_cons, Token.isGap]
      split_ifs <;> simp_all [row, Token.shown]

/-- Until then, a gap is left out. -/
lemma emitFrom_fresh (hnfkc : ∀ k, k ≠ [] → U.nfkc k ≠ []) (i : ℕ) (ts : List Token)
    (hshaped : ∀ t ∈ ts, t.Shaped U) (hapart : GapsApart (ts.filter fun t => !t.isHidden)) :
    (emitFrom U i none false ts).map Origin.char = row U (inner ts) := by
  induction ts generalizing i with
  | nil => rfl
  | cons t ts ih =>
    have hrest : ∀ x ∈ ts, x.Shaped U := fun x hx => hshaped x (List.mem_cons_of_mem t hx)
    cases t with
    | gap run =>
      rw [List.filter_cons_of_pos (by rfl)] at hapart
      rw [emitFrom, inner, List.filter_cons_of_pos (by rfl), List.dropWhile_cons_of_pos (by rfl)]
      exact ih _ hrest (List.isChain_cons.mp hapart).2
    | hidden c =>
      rw [List.filter_cons_of_neg (by simp [Token.isHidden])] at hapart
      rw [emitFrom, inner, List.filter_cons_of_neg (by simp [Token.isHidden])]
      exact ih _ hrest hapart
    | cluster chars =>
      have hout : U.nfkc chars ≠ [] :=
        hnfkc chars (hshaped _ List.mem_cons_self).source_ne_nil
      have hstarted : (false || !((none : Option Origin).toList ++
          (U.nfkc chars).map fun d => (⟨d, i, i + chars.length⟩ : Origin)).isEmpty) = true := by
        simp [hout]
      rw [List.filter_cons_of_pos (by rfl)] at hapart
      rw [emitFrom, inner, List.filter_cons_of_pos (by rfl), List.dropWhile_cons_of_neg (by simp [Token.isGap])]
      rw [hstarted, List.map_append, emitFrom_started _ _ _ (List.isChain_cons.mp hapart).2 (by simp),
        rdropWhile_cons]
      have hpiece := map_char_piece (U.nfkc chars) i (i + chars.length)
      simp only [Token.isGap]
      split_ifs <;> simp_all [row, Token.shown]

/-- The normalized text is the row of the inner tokens. -/
theorem normalizedText_eq (hnfkc : ∀ k, k ≠ [] → U.nfkc k ≠ []) (raw : Text) :
    normalizedText U raw = row U (inner (tokens U raw)) := by
  rw [normalizedText, normalize_eq]
  exact emitFrom_fresh hnfkc 0 _ (fun _ => shaped_of_mem_tokens) (gapsApart_visible raw)

end Tokens

end TrustLens.Backend.Extraction
