import Mathlib.Algebra.GroupWithZero.Nat
import Mathlib.Data.List.Basic
import Mathlib.Data.Fin.Basic

/-!
# Python strings

A string is a list of code points, surrogates included; the ones without a surrogate are the
texts of the characters of this model.
-/

namespace TrustLens

abbrev CodePoint := Fin 0x110000

abbrev PyStr := List CodePoint

def CodePoint.char? (c : CodePoint) : Option Char :=
  if h : c.val.isValidChar then some (Char.ofNatAux c.val h) else none

/-- `value.encode("utf-8")`, none where it raises `UnicodeError`. -/
def encode (cs : PyStr) : Option String := (cs.mapM CodePoint.char?).map String.ofList

def CodePoint.ofChar (c : Char) : CodePoint := ⟨c.toNat, by
  have hvalid : c.toNat < 0xD800 ∨ 0xDFFF < c.toNat ∧ c.toNat < 0x110000 := c.valid
  omega⟩

/-- The string of a text. -/
def PyStr.of (s : String) : PyStr := s.toList.map CodePoint.ofChar

lemma val_of_char? {c : CodePoint} {ch : Char} (h : c.char? = some ch) : ch.toNat = c.val := by
  by_cases hvalid : c.val.isValidChar
  · rw [CodePoint.char?, dif_pos hvalid] at h
    cases h
    rfl
  · rw [CodePoint.char?, dif_neg hvalid] at h
    cases h

lemma char?_ofChar (c : Char) : (CodePoint.ofChar c).char? = some c := by
  have hvalid : (CodePoint.ofChar c).val.isValidChar := c.valid
  rw [CodePoint.char?, dif_pos hvalid]
  exact congrArg some (Char.ext rfl)

/-- A text without surrogates is encoded as it is. -/
lemma encode_map_ofChar (cs : List Char) :
    encode (cs.map CodePoint.ofChar) = some (String.ofList cs) := by
  have hchars : (cs.map CodePoint.ofChar).mapM CodePoint.char? = some cs := by
    induction cs with
    | nil => rfl
    | cons c cs ih =>
      rw [List.map_cons, List.mapM_cons, ih, char?_ofChar]
      rfl
  rw [encode, hchars]
  rfl

lemma utf8ByteSize_ofList (cs : List Char) :
    (String.ofList cs).utf8ByteSize = (cs.map Char.utf8Size).sum := by
  induction cs with
  | nil => rfl
  | cons c cs ih =>
    have hcons : String.ofList (c :: cs) = String.ofList [c] ++ String.ofList cs := by
      rw [← String.ofList_append, List.singleton_append]
    have hhead : (String.ofList [c]).utf8ByteSize = c.utf8Size := by
      rw [← String.size_toByteArray, String.toByteArray_ofList, List.utf8Encode_singleton]
      simp
    rw [hcons, String.utf8ByteSize_append, ih, hhead, List.map_cons, List.sum_cons]

lemma encode_inj {cs cs' : PyStr} {s : String} (h : encode cs = some s)
    (h' : encode cs' = some s) : cs = cs' := by
  have hvals : ∀ {cs : PyStr} {chars : List Char}, cs.mapM CodePoint.char? = some chars →
      cs.map Fin.val = chars.map Char.toNat := by
    intro cs
    induction cs with
    | nil =>
      intro chars hchars
      cases hchars
      rfl
    | cons c cs ih =>
      intro chars hchars
      rw [List.mapM_cons] at hchars
      obtain ⟨ch, hch, hchars⟩ := Option.bind_eq_some_iff.mp hchars
      obtain ⟨rest, hrest, hchars⟩ := Option.bind_eq_some_iff.mp hchars
      cases hchars
      rw [List.map_cons, List.map_cons, ih hrest, val_of_char? hch]
  obtain ⟨chars, hchars, rfl⟩ := Option.map_eq_some_iff.mp h
  obtain ⟨chars', hchars', heq⟩ := Option.map_eq_some_iff.mp h'
  have hsame := String.ofList_injective heq
  subst hsame
  exact List.map_injective_iff.mpr Fin.val_injective ((hvals hchars).trans (hvals hchars').symm)

end TrustLens
