import TrustLens.Loader.ResolvedReferences
import TrustLens.Publish.Agreement

/-!
# The indexes of an accepted bundle

What the loader indexed of a directory it accepted is what the members of the directory say, and
none of their references is left open.
-/

namespace TrustLens.Loader

variable {c : Components} {targets : PolicyTargets} {seen es : List Json} {e eid : Json}

lemma id_of_checkPolicyEntry (h : checkPolicyEntry targets seen e = .ok eid) :
    e.get "policy_entry_id" = eid ∧ eid ∉ seen := by
  unfold checkPolicyEntry at h
  obtain ⟨value, hvalue, h⟩ := bind_ok h
  obtain ⟨id, hid, h⟩ := bind_ok h
  unfold Py.hashed at hid
  split_ifs at hid
  cases hid
  obtain ⟨hfresh, h⟩ := ok_of_guard h
  obtain ⟨trigger, -, h⟩ := bind_ok h
  obtain ⟨type, -, h⟩ := bind_ok h
  obtain ⟨tid, -, h⟩ := bind_ok h
  have hreturned : eid = value := by
    split at h
    · obtain ⟨_, -, h⟩ := bind_ok h
      split_ifs at h
      · obtain ⟨_, h, -⟩ := bind_ok h
        cases h
      · obtain ⟨_, -, h⟩ := bind_ok h
        obtain ⟨_, -, h⟩ := bind_ok h
        exact (Except.ok.inj h).symm
    · obtain ⟨_, -, h⟩ := bind_ok h
      obtain ⟨_, -, h⟩ := bind_ok h
      exact (Except.ok.inj h).symm
  subst hreturned
  exact ⟨get_of_get? (Publish.item_ok_iff.mp hvalue), hfresh⟩

lemma nodup_of_checkPolicyEntries (h : checkPolicyEntries targets seen es = .ok ()) :
    (es.map (·.get "policy_entry_id")).Nodup ∧ ∀ e ∈ es, e.get "policy_entry_id" ∉ seen := by
  induction es generalizing seen with
  | nil => exact ⟨List.nodup_nil, List.forall_mem_nil _⟩
  | cons e es ih =>
    unfold checkPolicyEntries at h
    obtain ⟨eid, heid, h⟩ := bind_ok h
    obtain ⟨rfl, hfresh⟩ := id_of_checkPolicyEntry heid
    obtain ⟨hnodup, hrest⟩ := ih h
    refine ⟨List.nodup_cons.mpr ⟨fun hmem => ?_, hnodup⟩, List.forall_mem_cons.mpr ⟨hfresh, ?_⟩⟩
    · obtain ⟨e', he', heq⟩ := List.mem_map.mp hmem
      exact hrest e' he' (heq ▸ List.mem_cons_self)
    · exact fun e' he' hmem => hrest e' he' (List.mem_cons_of_mem _ hmem)

/-- The entries of the policy are there under ids of their own, none without a policy. -/
lemma keyed_of_checkComponents {lib : Libraries} {m : Manifest} {verified : List (String × ByteArray)}
    {schema : Json} (hparsed : Parsed lib m verified schema c) (h : checkComponents m c = .ok ()) :
    ∃ es, c.actionPolicy.get? "entries" = some (.arr es) ∧ Keyed "policy_entry_id" es := by
  obtain ⟨-, es, hentries, hnamed⟩ := shaped_of_checkComponents hparsed h
  refine ⟨es, hentries, hnamed, ?_⟩
  obtain ⟨_, -, h⟩ := bind_ok h
  cases hwp6 : m.wp6 with
  | true =>
    rw [hwp6] at h
    obtain ⟨-, h⟩ := ok_of_guard h
    obtain ⟨targets, -, h⟩ := bind_ok h
    rw [records_of_get? hentries] at h
    exact (nodup_of_checkPolicyEntries h).1
  | false =>
    rw [hparsed.policy hwp6] at hentries
    cases hentries
    exact List.nodup_nil

end TrustLens.Loader

namespace TrustLens.Publish

open Loader

end TrustLens.Publish
