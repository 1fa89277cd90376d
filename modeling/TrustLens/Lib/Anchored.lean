import TrustLens.Lib.JsonSchema

/-!
# Patterns matched up to a line break

A pattern between anchors that is matched, and not matched in full, takes its words and its words
followed by one line break.
-/

namespace TrustLens.Schema

def EndsInLineFeed (s : String) : Prop := s.toList.getLast? = some '\n'

instance (s : String) : Decidable (EndsInLineFeed s) := inferInstanceAs (Decidable (_ = _))

/-- A text without the line break it ends in. -/
def chomp (s : String) : String := if EndsInLineFeed s then String.ofList s.toList.dropLast else s

/-- A language whose words are on one line. -/
def OneLine (language : List Char → Bool) : Prop := ∀ cs, language cs = true → '\n' ∉ cs

variable {language : List Char → Bool}

lemma chomp_of_not_endsInLineFeed {s : String} (h : ¬EndsInLineFeed s) : chomp s = s := if_neg h

lemma OneLine.not_endsInLineFeed (h : OneLine language) {s : String}
    (hs : language s.toList = true) : ¬EndsInLineFeed s := fun hend =>
  h _ hs (List.mem_of_getLast? hend)

/-- A match is a word, but for the line break. -/
lemma anchored_iff (h : OneLine language) (s : String) :
    anchored language s = true ↔ language (chomp s).toList = true := by
  unfold anchored chomp
  by_cases hend : EndsInLineFeed s
  · have hword : language s.toList = false := by
      rw [← Bool.not_eq_true]
      exact fun hs => h.not_endsInLineFeed hs hend
    have hlast : (s.toList.getLast? == some '\n') = true := beq_iff_eq.mpr hend
    rw [if_pos hend, hword, hlast, Bool.false_or, Bool.true_and, String.toList_ofList]
  · have hlast : (s.toList.getLast? == some '\n') = false := beq_eq_false_iff_ne.mpr hend
    rw [if_neg hend, hlast, Bool.false_and, Bool.or_false]

/-- The match is exact on a text unless it is a word and a line break. -/
lemma anchored_exact_iff (h : OneLine language) (s : String) :
    (anchored language s = true ↔ language s.toList = true) ↔
      ¬(language (chomp s).toList = true ∧ EndsInLineFeed s) := by
  rw [anchored_iff h]
  constructor
  · rintro hexact ⟨hword, hend⟩
    exact h.not_endsInLineFeed (hexact.mp hword) hend
  · intro hno
    by_cases hend : EndsInLineFeed s
    · exact iff_of_false (fun hword => hno ⟨hword, hend⟩) fun hs => h.not_endsInLineFeed hs hend
    · rw [chomp_of_not_endsInLineFeed hend]

lemma oneLine_headTail {first rest : Char → Bool} {lo hi : ℕ} (hfirst : first '\n' = false)
    (hrest : rest '\n' = false) : OneLine (headTail first rest lo hi) := by
  intro cs h hmem
  cases cs with
  | nil => cases hmem
  | cons c cs =>
    rw [headTail, Bool.and_eq_true, Bool.and_eq_true, Bool.and_eq_true, List.all_eq_true] at h
    obtain ⟨⟨⟨hc, -⟩, -⟩, hcs⟩ := h
    rcases List.mem_cons.mp hmem with rfl | hmem
    · rw [hfirst] at hc
      cases hc
    · have hall := hcs _ hmem
      rw [hrest] at hall
      cases hall

end TrustLens.Schema
