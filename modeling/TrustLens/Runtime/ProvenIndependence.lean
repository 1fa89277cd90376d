import Mathlib.Data.Finset.Image
import TrustLens.Lib.Matching
import TrustLens.Lib.SameMembers
import TrustLens.Runtime.AugmentingPaths
import TrustLens.Runtime.DecisionSpec

/-!
# The count of independent evidence

Evidence classes on one side, provenance components on the other, and an edge where an
occurrence group of the class lies in the component: the count is the size of a maximum
matching of this graph. The graph depends on what the groups hold and not on their order.
-/

namespace TrustLens.Runtime

namespace Independence

open Matching

/-- A class is backed by the components that its groups touch. -/
def Backs (S : Setoid String) (entries : List (String × List String)) (cls : String)
    (q : Quotient S) : Prop :=
  ∃ e ∈ entries, e.1 = cls ∧ ∃ ref ∈ e.2, (⟦ref⟧ : Quotient S) = q

/-- The forest in which the components are looked up. -/
def occurrenceForest (entries : List (String × List String)) : Dict :=
  (entries.map Prod.snd).foldl mergeGroup []

/-- The components that some group touches. -/
noncomputable def touched (S : Setoid String) (entries : List (String × List String)) :
    Finset (Quotient S) :=
  open scoped Classical in (entries.flatMap Prod.snd).toFinset.image fun ref => ⟦ref⟧

lemma mem_touched {S : Setoid String} {entries : List (String × List String)} {q : Quotient S} :
    q ∈ touched S entries ↔ ∃ e ∈ entries, ∃ ref ∈ e.2, (⟦ref⟧ : Quotient S) = q := by
  simp only [touched, Finset.mem_image, List.mem_toFinset, List.mem_flatMap]
  constructor
  · rintro ⟨ref, ⟨e, he, href⟩, rfl⟩
    exact ⟨e, he, ref, href, rfl⟩
  · rintro ⟨e, he, ref, href, rfl⟩
    exact ⟨ref, ⟨e, he, href⟩, rfl⟩

/-! ### The graph over the roots -/

/-- The components of a class, as roots of the forest. -/
def rootsOf (entries : List (String × List String)) (cls : String) : List String :=
  (entries.filter (·.1 == cls)).filterMap fun e =>
    e.2.head?.map fun ref => (find (occurrenceForest entries) ref).1

section Entries

variable (entries : List (String × List String))

lemma find_occurrenceForest (x : String) :
    (find (occurrenceForest entries) x).1 = rep (occurrenceForest entries) x :=
  (find_spec (forest_groups _) x).1

lemma find_eq_iff (x y : String) : (find (occurrenceForest entries) x).1 =
    (find (occurrenceForest entries) y).1 ↔ component (entries.map Prod.snd) x y := by
  rw [find_occurrenceForest, find_occurrenceForest]
  exact rep_groups_iff _ x y

/-- Every ref of a group leads to the root under which the group is counted. -/
lemma mem_rootsOf {cls root : String} : root ∈ rootsOf entries cls ↔
    ∃ e ∈ entries, e.1 = cls ∧ ∃ ref ∈ e.2, rep (occurrenceForest entries) ref = root := by
  simp only [rootsOf, List.mem_filterMap, List.mem_filter, beq_iff_eq, Option.map_eq_some_iff,
    find_occurrenceForest]
  constructor
  · rintro ⟨e, ⟨he, hcls⟩, ref, href, hroot⟩
    exact ⟨e, he, hcls, ref, List.mem_of_head? href, hroot⟩
  · rintro ⟨e, he, hcls, ref, href, hroot⟩
    obtain ⟨first, hfirst⟩ : ∃ first, e.2.head? = some first := by
      cases hgroup : e.2 with
      | nil => exact absurd (hgroup ▸ href) List.not_mem_nil
      | cons first rest => exact ⟨first, rfl⟩
    refine ⟨e, ⟨he, hcls⟩, first, hfirst, hroot ▸ (rep_groups_iff _ first ref).mpr ?_⟩
    exact .rel first ref ⟨e.2, List.mem_map_of_mem he, List.mem_of_head? hfirst, href⟩

/-- The matching that the run finds. -/
def foundMatching : Dict := maxBipartiteMatching (entries.map Prod.fst) (rootsOf entries)

lemma provenIndependence_count :
    (provenIndependence entries).count = (foundMatching entries).length := rfl

lemma provenIndependence_classes :
    (provenIndependence entries).classes = sortedUnique ((foundMatching entries).map Prod.snd) := rfl

lemma foundMatching_progress : ∃ done : List String, (∀ x, x ∈ done ↔ x ∈ entries.map Prod.fst) ∧
    Progress (rootsOf entries) done (foundMatching entries) := by
  apply maxBipartiteMatching_progress
  intro x hx
  rw [List.eq_nil_iff_forall_not_mem]
  intro root hroot
  obtain ⟨e, he, rfl, -⟩ := (mem_rootsOf entries).mp hroot
  exact hx (List.mem_map_of_mem he)

/-! ### The maximum matching -/

/-- The matching that the run finds, over the components themselves. -/
noncomputable def matchedPairs :
    Finset (String × Quotient (component (entries.map Prod.snd))) :=
  open scoped Classical in (foundMatching entries).toFinset.image fun e => (e.2, ⟦e.1⟧)

variable {entries}

lemma mem_matchedPairs {cls : String} {q : Quotient (component (entries.map Prod.snd))} :
    (cls, q) ∈ matchedPairs entries ↔ ∃ root, (foundMatching entries).get? root = some cls ∧
      (⟦root⟧ : Quotient (component (entries.map Prod.snd))) = q := by
  obtain ⟨_, -, hprogress⟩ := foundMatching_progress entries
  simp only [matchedPairs, Finset.mem_image, List.mem_toFinset, Prod.mk.injEq]
  constructor
  · rintro ⟨⟨root, cls⟩, hmem, rfl, hq⟩
    exact ⟨root, get?_of_mem hprogress.nodup hmem, hq⟩
  · rintro ⟨root, hroot, hq⟩
    exact ⟨(root, cls), mem_of_get? hroot, rfl, hq⟩

/-- Different roots that are matched lie in different components. -/
lemma root_injective {root root' cls cls' : String}
    (h : (foundMatching entries).get? root = some cls)
    (h' : (foundMatching entries).get? root' = some cls')
    (hjoin : component (entries.map Prod.snd) root root') : root = root' := by
  obtain ⟨_, -, hprogress⟩ := foundMatching_progress entries
  have hfixed : ∀ r c, (foundMatching entries).get? r = some c →
      rep (occurrenceForest entries) r = r := by
    intro r c hr
    obtain ⟨-, -, -, ref, -, rfl⟩ := (mem_rootsOf entries).mp (hprogress.edge r c hr)
    exact rep_rep (forest_groups _) ref
  calc root = rep (occurrenceForest entries) root := (hfixed root cls h).symm
    _ = rep (occurrenceForest entries) root' := (rep_groups_iff _ root root').mpr hjoin
    _ = root' := hfixed root' cls' h'

lemma card_matchedPairs : (matchedPairs entries).card = (foundMatching entries).length := by
  obtain ⟨_, -, hprogress⟩ := foundMatching_progress entries
  classical
  have hinj : Set.InjOn
      (fun e : String × String => ((e.2, ⟦e.1⟧) : String × Quotient (component (entries.map Prod.snd))))
      ((foundMatching entries).toFinset : Set (String × String)) := by
    intro e he e' he' heq
    obtain ⟨hcls, -⟩ := Prod.mk.inj heq
    rw [Finset.mem_coe, List.mem_toFinset] at he he'
    have hroot := hprogress.once e.1 e'.1 e.2 (get?_of_mem hprogress.nodup he)
      (hcls ▸ get?_of_mem hprogress.nodup he')
    exact Prod.ext hroot hcls
  rw [← List.toFinset_card_of_nodup (List.Nodup.of_map _ hprogress.nodup)]
  convert Finset.card_image_of_injOn hinj using 2
  unfold matchedPairs
  congr

lemma matchedPairs_isMatching :
    IsMatching (Backs (component (entries.map Prod.snd)) entries) (matchedPairs entries) := by
  obtain ⟨_, -, hprogress⟩ := foundMatching_progress entries
  refine ⟨?_, ?_, ?_⟩
  · rintro ⟨cls, q⟩ he
    obtain ⟨root, hroot, rfl⟩ := mem_matchedPairs.mp he
    obtain ⟨e, hmem, hcls, ref, href, hrep⟩ := (mem_rootsOf entries).mp (hprogress.edge root cls hroot)
    refine ⟨e, hmem, hcls, ref, href, Quotient.sound ?_⟩
    rw [← hrep]
    exact (rep_groups_iff _ ref _).mp (rep_rep (forest_groups _) ref).symm
  · rintro ⟨cls, q⟩ he ⟨cls', q'⟩ he' heq
    obtain ⟨root, hroot, rfl⟩ := mem_matchedPairs.mp he
    obtain ⟨root', hroot', rfl⟩ := mem_matchedPairs.mp he'
    obtain rfl : cls = cls' := heq
    rw [hprogress.once root root' cls hroot hroot']
  · rintro ⟨cls, q⟩ he ⟨cls', q'⟩ he' heq
    obtain ⟨root, hroot, rfl⟩ := mem_matchedPairs.mp he
    obtain ⟨root', hroot', rfl⟩ := mem_matchedPairs.mp he'
    obtain rfl := root_injective hroot hroot' (Quotient.exact heq)
    obtain rfl := Option.some.inj (hroot.symm.trans hroot')
    rfl

/-- The certificate of the run gives a cover of the graph that is as small as the matching. -/
lemma exists_cover : ∃ (C : Finset String)
    (D : Finset (Quotient (component (entries.map Prod.snd)))),
    (∀ a q, Backs (component (entries.map Prod.snd)) entries a q → a ∈ C ∨ q ∈ D) ∧
      C.card + D.card ≤ (foundMatching entries).length := by
  obtain ⟨done, hdone, hprogress⟩ := foundMatching_progress entries
  obtain ⟨Z, hZ, hcert⟩ := hprogress.certificate
  classical
  have hsub : Z ⊆ ((foundMatching entries).map Prod.fst).toFinset := by
    intro root hroot
    obtain ⟨x, hx, -⟩ := hZ root hroot
    exact List.mem_toFinset.mpr (List.mem_map_of_mem (mem_of_get? hx))
  have hkeys : ((foundMatching entries).map Prod.fst).toFinset.card =
      (foundMatching entries).length := by
    rw [List.toFinset_card_of_nodup hprogress.nodup, List.length_map]
  refine ⟨(((foundMatching entries).map Prod.fst).toFinset \ Z).image
    fun root => ((foundMatching entries).get? root).getD "", Z.image fun root => ⟦root⟧, ?_, ?_⟩
  · rintro a q ⟨e, he, rfl, ref, href, rfl⟩
    have hroot : rep (occurrenceForest entries) ref ∈ rootsOf entries e.1 :=
      (mem_rootsOf entries).mpr ⟨e, he, rfl, ref, href, rfl⟩
    -- a class whose components are all certified is covered on the other side
    have hright : (∀ c ∈ rootsOf entries e.1, c ∈ Z) →
        (⟦ref⟧ : Quotient (component (entries.map Prod.snd))) ∈ Z.image fun root => ⟦root⟧ := by
      intro hreach
      refine Finset.mem_image.mpr ⟨_, hreach _ hroot, Quotient.sound ?_⟩
      exact (rep_groups_iff _ _ ref).mp (rep_rep (forest_groups _) ref)
    rcases hcert e.1 ((hdone e.1).mpr (List.mem_map_of_mem he)) with ⟨root, hx⟩ | hreach
    · by_cases hin : root ∈ Z
      · obtain ⟨x, hx', hreach⟩ := hZ root hin
        obtain rfl := Option.some.inj (hx.symm.trans hx')
        exact .inr (hright hreach)
      · refine .inl (Finset.mem_image.mpr ⟨root, Finset.mem_sdiff.mpr ⟨?_, hin⟩, ?_⟩)
        · exact List.mem_toFinset.mpr (List.mem_map_of_mem (mem_of_get? hx))
        · rw [hx, Option.getD_some]
    · exact .inr (hright hreach)
  · have hleft : _ ≤ (((foundMatching entries).map Prod.fst).toFinset \ Z).card :=
      Finset.card_image_le (f := fun root => ((foundMatching entries).get? root).getD "")
    have hright : (Z.image fun root =>
        (⟦root⟧ : Quotient (component (entries.map Prod.snd)))).card ≤ Z.card :=
      Finset.card_image_le
    have hsplit := Finset.card_sdiff_add_card_eq_card hsub
    omega

/-- The matching that the run finds is a maximum one. -/
theorem matchedPairs_isMaximum :
    IsMaximum (Backs (component (entries.map Prod.snd)) entries) (matchedPairs entries) := by
  obtain ⟨C, D, hcover, hcard⟩ := exists_cover
  refine ⟨matchedPairs_isMatching, fun N hN => ?_⟩
  rw [card_matchedPairs]
  exact (hN.card_le_cover hcover).trans hcard

lemma mem_classes {cls : String} :
    cls ∈ (provenIndependence entries).classes ↔ ∃ q, (cls, q) ∈ matchedPairs entries := by
  obtain ⟨_, -, hprogress⟩ := foundMatching_progress entries
  rw [provenIndependence_classes, mem_sortedUnique, List.mem_map]
  constructor
  · rintro ⟨⟨root, cls⟩, hmem, rfl⟩
    exact ⟨⟦root⟧, mem_matchedPairs.mpr ⟨root, get?_of_mem hprogress.nodup hmem, rfl⟩⟩
  · rintro ⟨q, hq⟩
    obtain ⟨root, hroot, -⟩ := mem_matchedPairs.mp hq
    exact ⟨(root, cls), mem_of_get? hroot, rfl⟩

lemma length_classes :
    (provenIndependence entries).classes.length = (provenIndependence entries).count := by
  obtain ⟨_, -, hprogress⟩ := foundMatching_progress entries
  have hvalues : ((foundMatching entries).map Prod.snd).Nodup := by
    refine (List.nodup_map_iff_inj_on (List.Nodup.of_map _ hprogress.nodup)).mpr fun e he e' he' heq => ?_
    have hroot := hprogress.once e.1 e'.1 e.2 (get?_of_mem hprogress.nodup he)
      (heq ▸ get?_of_mem hprogress.nodup he')
    exact Prod.ext hroot heq
  rw [provenIndependence_classes, provenIndependence_count, sortedUnique, hvalues.dedup,
    List.length_insertionSort, List.length_map]

lemma count_le_classes :
    (provenIndependence entries).count ≤ (sortedUnique (entries.map Prod.fst)).length := by
  have hle : (matchedPairs entries).card ≤ (sortedUnique (entries.map Prod.fst)).toFinset.card := by
    refine matchedPairs_isMatching.card_le_left fun a q ⟨e, he, hcls, _⟩ => ?_
    rw [List.mem_toFinset, mem_sortedUnique]
    exact hcls ▸ List.mem_map_of_mem he
  rw [card_matchedPairs, List.toFinset_card_of_nodup (nodup_sortedUnique _)] at hle
  exact hle

lemma count_le_touched : (provenIndependence entries).count ≤
    (touched (component (entries.map Prod.snd)) entries).card := by
  have hle : (matchedPairs entries).card ≤
      (touched (component (entries.map Prod.snd)) entries).card :=
    matchedPairs_isMatching.card_le_right fun a q ⟨e, he, _, href⟩ => mem_touched.mpr ⟨e, he, href⟩
  rwa [card_matchedPairs] at hle

end Entries

/-- The count depends on which groups back which classes. -/
theorem count_congr {entries entries' : List (String × List String)}
    (h : ∀ e, e ∈ entries ↔ e ∈ entries') :
    (provenIndependence entries).count = (provenIndependence entries').count := by
  have hmax : ∀ entries, ∀ S, component (entries.map Prod.snd) = S →
      ∃ N, IsMaximum (Backs S entries) N ∧ N.card = (provenIndependence entries).count := by
    rintro entries S rfl
    exact ⟨matchedPairs entries, matchedPairs_isMaximum, card_matchedPairs⟩
  have hgroups : ∀ g, g ∈ entries.map Prod.snd ↔ g ∈ entries'.map Prod.snd := fun g => by
    simp only [List.mem_map, h]
  have htouches : Touches (entries.map Prod.snd) = Touches (entries'.map Prod.snd) := by
    funext x y
    simp only [Touches, hgroups]
  obtain ⟨N, hN, hcard⟩ := hmax entries _ rfl
  obtain ⟨N', hN', hcard'⟩ := hmax entries' (component (entries.map Prod.snd)) (by
    rw [component, component, htouches])
  have hbacks : Backs (component (entries.map Prod.snd)) entries' =
      Backs (component (entries.map Prod.snd)) entries := by
    funext cls q
    simp only [Backs, h]
  rw [hbacks] at hN'
  rw [← hcard, ← hcard', hN.card_eq hN']

end Independence

namespace Aggregation

open Independence Matching

/-- The live occurrence groups of an indicator. -/
def liveGroups (c : Candidate) (id : String) : List (List String) :=
  ((c.result.livePositiveProvenance.find? (·.1 == id)).map Prod.snd).getD []

/-- Rules with the same matched indicators and the same occurrence groups for each, the
indicators, the groups and the refs of a group in any order. -/
structure SameProvenance (c c' : Candidate) : Prop where
  indicators : ∀ id, id ∈ c.result.matchedPositiveIndicators ↔
    id ∈ c'.result.matchedPositiveIndicators
  groups : ∀ id, SameMembers (fun g g' => ∀ ref, ref ∈ g ↔ ref ∈ g') (liveGroups c id)
    (liveGroups c' id)

lemma mem_provenanceEntries {rk : RuntimeKnowledge} {eligible : List Candidate}
    {e : String × List String} : e ∈ provenanceEntries rk eligible ↔
      ∃ c ∈ eligible, ∃ id ∈ c.result.matchedPositiveIndicators,
        Evaluator.nonEmpty? ((rk.indicator id).bind (·.evidenceClass)) = some e.1 ∧
          ∃ g ∈ liveGroups c id, g ≠ [] ∧ sortedUnique g = e.2 := by
  simp only [provenanceEntries, List.mem_flatMap]
  refine exists_congr fun c => and_congr_right fun _ => exists_congr fun id =>
    and_congr_right fun _ => ?_
  cases hcls : Evaluator.nonEmpty? ((rk.indicator id).bind (·.evidenceClass)) with
  | none => simp
  | some cls =>
    simp only [List.mem_filterMap, Option.some.injEq]
    constructor
    · rintro ⟨g, hg, heq⟩
      split_ifs at heq with hnil
      obtain rfl := Option.some.inj heq
      exact ⟨rfl, g, hg, hnil, rfl⟩
    · rintro ⟨rfl, g, hg, hnil, hsort⟩
      exact ⟨g, hg, by rw [if_neg hnil, hsort]⟩

lemma mem_provenanceEntries_of_same {rk : RuntimeKnowledge} {eligible eligible' : List Candidate}
    (h : ∀ c ∈ eligible, ∃ c' ∈ eligible', SameProvenance c c') {e : String × List String}
    (he : e ∈ provenanceEntries rk eligible) : e ∈ provenanceEntries rk eligible' := by
  obtain ⟨c, hc, id, hid, hcls, g, hg, hnil, hsort⟩ := mem_provenanceEntries.mp he
  obtain ⟨c', hc', hsame⟩ := h c hc
  obtain ⟨g', hg', hrefs⟩ := (hsame.groups id).1 g hg
  refine mem_provenanceEntries.mpr ⟨c', hc', id, (hsame.indicators id).mp hid, hcls, g', hg', ?_, ?_⟩
  · rintro rfl
    exact hnil (List.eq_nil_iff_forall_not_mem.mpr fun ref href =>
      List.not_mem_nil ((hrefs ref).mp href))
  · rw [← hsort]
    exact sortedUnique_congr fun ref => (hrefs ref).symm

lemma SameProvenance.symm {c c' : Candidate} (h : SameProvenance c c') : SameProvenance c' c where
  indicators id := (h.indicators id).symm
  groups id := by
    obtain ⟨hleft, hright⟩ := h.groups id
    constructor
    · intro g hg
      obtain ⟨g', hg', hrefs⟩ := hright g hg
      exact ⟨g', hg', fun ref => (hrefs ref).symm⟩
    · intro g hg
      obtain ⟨g', hg', hrefs⟩ := hleft g hg
      exact ⟨g', hg', fun ref => (hrefs ref).symm⟩

/-- Refs share a root exactly when a chain of groups joins them; the count is the size of a
maximum matching between evidence classes and the components so joined, its classes are those
of such a matching, and it depends on no order. -/
theorem provenIndependence_maximum (rk : RuntimeKnowledge) (eligible : List Candidate) :
    (∀ x y, (find (occurrenceForest (provenanceEntries rk eligible)) x).1 =
        (find (occurrenceForest (provenanceEntries rk eligible)) y).1 ↔
      Relation.EqvGen (Touches ((provenanceEntries rk eligible).map Prod.snd)) x y) ∧
    (∃ N, IsMaximum (Backs (component ((provenanceEntries rk eligible).map Prod.snd))
        (provenanceEntries rk eligible)) N ∧
      N.card = (provenIndependence (provenanceEntries rk eligible)).count ∧
      (∀ cls, cls ∈ (provenIndependence (provenanceEntries rk eligible)).classes ↔
        ∃ q, (cls, q) ∈ N) ∧
      ∀ cls cls' x y, (cls, ⟦x⟧) ∈ N → (cls', ⟦y⟧) ∈ N →
        Relation.EqvGen (Touches ((provenanceEntries rk eligible).map Prod.snd)) x y → cls = cls') ∧
    (provenIndependence (provenanceEntries rk eligible)).classes.length =
      (provenIndependence (provenanceEntries rk eligible)).count ∧
    (∀ eligible', SameMembers SameProvenance eligible eligible' →
      (provenIndependence (provenanceEntries rk eligible')).count =
        (provenIndependence (provenanceEntries rk eligible)).count) ∧
    (provenIndependence (provenanceEntries rk eligible)).count ≤
      (sortedUnique ((provenanceEntries rk eligible).map Prod.fst)).length ∧
    (provenIndependence (provenanceEntries rk eligible)).count ≤
      (touched (component ((provenanceEntries rk eligible).map Prod.snd))
        (provenanceEntries rk eligible)).card := by
  refine ⟨find_eq_iff _, ⟨matchedPairs _, matchedPairs_isMaximum, card_matchedPairs,
    fun cls => mem_classes, fun cls cls' x y hx hy hjoin => ?_⟩, length_classes,
    fun eligible' h => ?_, count_le_classes, count_le_touched⟩
  · exact congrArg Prod.fst (matchedPairs_isMatching.right hx hy (Quotient.sound hjoin))
  · refine count_congr fun e => ⟨?_, ?_⟩
    · refine mem_provenanceEntries_of_same fun c' hc' => ?_
      obtain ⟨c, hc, hsame⟩ := h.2 c' hc'
      exact ⟨c, hc, hsame.symm⟩
    · exact mem_provenanceEntries_of_same h.1

end Aggregation
end TrustLens.Runtime
