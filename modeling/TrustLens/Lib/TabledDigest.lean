import Mathlib.Data.List.Nodup
import Mathlib.Data.List.Basic

/-!
# Digests of a few texts

A digest without collisions, given by a table of texts and their digests; every other text stands
for its own.
-/

namespace TrustLens

def tabled (table : List (String × String)) (t : String) : String :=
  match table.lookup t with
  | some d => d
  | none => "z" ++ t

/-- Distinct digests that are no text of their own make the whole function injective. -/
lemma tabled_injective {table : List (String × String)} (hnodup : (table.map Prod.snd).Nodup)
    (hz : ∀ d ∈ table.map Prod.snd, d.toList.head? ≠ some 'z') :
    Function.Injective (tabled table) := by
  have hmem : ∀ {t d : String}, table.lookup t = some d → (t, d) ∈ table := by
    intro t d h
    obtain ⟨before, after, rfl, -⟩ := List.lookup_eq_some_iff.mp h
    simp
  have hclash : ∀ {t d : String} (u : String), table.lookup t = some d → d ≠ "z" ++ u := by
    rintro t _ u h rfl
    refine hz _ (List.mem_map_of_mem (hmem h)) ?_
    rw [String.toList_append]
    rfl
  intro t u h
  unfold tabled at h
  split at h
  · rename_i d hd
    split at h
    · rename_i d' hd'
      subst h
      exact congrArg Prod.fst (List.inj_on_of_nodup_map hnodup (hmem hd) (hmem hd') rfl)
    · exact absurd h (hclash u hd)
  · split at h
    · rename_i d' hd'
      exact absurd h.symm (hclash t hd')
    · have hlist := congrArg String.toList h
      rw [String.toList_append, String.toList_append] at hlist
      exact String.toList_injective (List.append_cancel_left hlist)

end TrustLens
