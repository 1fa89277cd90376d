import Mathlib.Data.List.Forall2

/-!
# Hash chains

Each item names the hash of the item before it. When an item's hash determines the item
and the hash it names, the last hash determines a chain of a given length.
-/

namespace TrustLens

variable {ρ γ : Type*} (previous hash : ρ → γ)

/-- The items lead from one hash to another. -/
def Chained : γ → List ρ → γ → Prop
  | start, [], finish => start = finish
  | start, r :: rs, finish => previous r = start ∧ Chained (hash r) rs finish

variable {previous hash}

namespace Chained

lemma snoc {start middle : γ} {rs : List ρ} {r : ρ} (h : Chained previous hash start rs middle)
    (hr : previous r = middle) : Chained previous hash start (rs ++ [r]) (hash r) := by
  induction rs generalizing start with
  | nil => exact ⟨hr.trans (Eq.symm h), rfl⟩
  | cons x xs ih => exact ⟨h.1, ih h.2⟩

/-- Chains of one length with one last hash have the same items and start from one hash. -/
theorem determined {R : ρ → ρ → Prop} {start start' finish : γ} {rs rs' : List ρ}
    (hhash : ∀ r ∈ rs, ∀ r' ∈ rs', hash r = hash r' → R r r' ∧ previous r = previous r')
    (h : Chained previous hash start rs finish) (h' : Chained previous hash start' rs' finish)
    (hlen : rs.length = rs'.length) : start = start' ∧ List.Forall₂ R rs rs' := by
  induction rs generalizing start start' rs' with
  | nil =>
    cases rs' with
    | nil => exact ⟨Eq.trans h (Eq.symm h'), .nil⟩
    | cons r' rs' => cases hlen
  | cons r rs ih =>
    cases rs' with
    | nil => cases hlen
    | cons r' rs' =>
      obtain ⟨hlink, hrest⟩ := ih (fun x hx y hy =>
        hhash x (List.mem_cons_of_mem _ hx) y (List.mem_cons_of_mem _ hy)) h.2 h'.2
        (Nat.succ.inj hlen)
      obtain ⟨hr, hprev⟩ := hhash r List.mem_cons_self r' List.mem_cons_self hlink
      exact ⟨h.1.symm.trans (hprev.trans h'.1), .cons hr hrest⟩

end Chained
end TrustLens
