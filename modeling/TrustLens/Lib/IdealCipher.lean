import Mathlib.Tactic.Common

/-!
# An ideal authenticated cipher

A ciphertext opens only under the key, the nonce and the associated data it was produced under: the
cipher keeps the messages that were sealed, and opens nothing else.
-/

namespace TrustLens

/-- A message as it was sealed. -/
structure Sealed where
  key : List UInt8
  nonce : List UInt8
  plain : List UInt8
  aad : List UInt8
deriving DecidableEq

namespace Sealed

variable (encrypt : Sealed → List UInt8)

/-- The message a ciphertext was produced of, among those that were sealed. -/
def opens (log : List Sealed) (key nonce ciphertext aad : List UInt8) : Option (List UInt8) :=
  (log.find? fun m => m.key = key ∧ m.nonce = nonce ∧ m.aad = aad ∧ encrypt m = ciphertext).map plain

variable {encrypt} {log : List Sealed} {key nonce ciphertext aad : List UInt8}

/-- What opens was sealed under the same key, nonce and associated data. -/
theorem exists_of_opens {plain : List UInt8} (h : opens encrypt log key nonce ciphertext aad = some plain) :
    ∃ m ∈ log, m.key = key ∧ m.nonce = nonce ∧ m.aad = aad ∧ m.plain = plain := by
  obtain ⟨m, hm, rfl⟩ := Option.map_eq_some_iff.mp h
  have hp := List.find?_some hm
  rw [decide_eq_true_eq] at hp
  exact ⟨m, List.mem_of_find?_eq_some hm, hp.1, hp.2.1, hp.2.2.1, rfl⟩

/-- A message whose associated data no other has opens to what was sealed. -/
theorem opens_of_unique {m : Sealed} (hm : m ∈ log) (hunique : ∀ m' ∈ log, m'.aad = m.aad → m' = m) :
    opens encrypt log m.key m.nonce (encrypt m) m.aad = some m.plain := by
  rw [opens]
  cases hfind : log.find? fun m' => m'.key = m.key ∧ m'.nonce = m.nonce ∧ m'.aad = m.aad ∧ encrypt m' = encrypt m with
  | none =>
    have hnone := List.find?_eq_none.mp hfind m hm
    exact absurd (decide_eq_true ⟨rfl, rfl, rfl, rfl⟩) hnone
  | some m' =>
    have hp := List.find?_some hfind
    rw [decide_eq_true_eq] at hp
    rw [hunique m' (List.mem_of_find?_eq_some hfind) hp.2.2.1]
    rfl

end Sealed

end TrustLens
