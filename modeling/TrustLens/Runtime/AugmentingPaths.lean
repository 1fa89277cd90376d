import Mathlib.Data.Finset.Card
import Mathlib.Data.Finset.Dedup
import TrustLens.Runtime.Components

/-!
# Augmenting paths

One search of the matching either adds its class to the matched ones or leaves the matching
alone and shows why: everything it reached is owned, and the owners reach nothing else. The
components shown so far are kept as a certificate, which no later search can disturb.
-/

namespace TrustLens.Runtime.Independence

section Search

variable {components : String → List String} {allComps : Finset String}

/-- Components owned by classes that reach nothing else. -/
def Closed (components : String → List String) (M : Dict) (Z : Finset String) : Prop :=
  ∀ c ∈ Z, ∃ x, M.get? c = some x ∧ ∀ c' ∈ components x, c' ∈ Z

/-- What a search for a class may start from. -/
structure Ready (allComps : Finset String) (fuel : ℕ) (cls : String) (s : Search) : Prop where
  nodup : (s.matchComp.map Prod.fst).Nodup
  once : ∀ c c' x, s.matchComp.get? c = some x → s.matchComp.get? c' = some x → c = c'
  seen : ∀ c, s.matchComp.get? c = some cls → c ∈ s.seen
  fuel : (allComps.filter (· ∉ s.seen)).card < fuel

/-- What a search that found a path did to the matching, outside what was seen before. -/
structure Augmented (components : String → List String) (seen : List String) (cls : String)
    (M M' : Dict) : Prop where
  nodup : (M'.map Prod.fst).Nodup
  keep : ∀ c ∈ seen, M'.get? c = M.get? c
  edges : ∀ c x, M'.get? c = some x → M.get? c = some x ∨ c ∈ components x
  once : ∀ c c' x, c ∉ seen → c' ∉ seen → M'.get? c = some x → M'.get? c' = some x → c = c'
  owners : ∀ x, (∃ c, c ∉ seen ∧ M'.get? c = some x) ↔
    x = cls ∨ ∃ c, c ∉ seen ∧ M.get? c = some x
  avoids : ∀ Z, Closed components M Z →
    (∀ c ∈ Z, M'.get? c = M.get? c) ∧ ∃ c ∈ components cls, c ∉ Z

/-- What a search that found no path has seen. -/
structure Exhausted (components : String → List String) (comps : List String) (s s' : Search) :
    Prop where
  same : s'.matchComp = s.matchComp
  seen : ∀ c ∈ s.seen, c ∈ s'.seen
  tried : ∀ c ∈ comps, c ∈ s'.seen
  owned : ∀ c ∈ s'.seen, c ∉ s.seen →
    ∃ x, s.matchComp.get? c = some x ∧ ∀ c' ∈ components x, c' ∈ s'.seen

structure Outcome (components : String → List String) (cls : String) (comps : List String)
    (s : Search) (r : Bool × Search) : Prop where
  found : r.1 = true → Augmented components s.seen cls s.matchComp r.2.matchComp
  failed : r.1 = false → Exhausted components comps s r.2

/-- A path that avoids more is one that avoids less. -/
lemma Augmented.mono {seen seen' : List String} {cls : String} {M M' : Dict}
    (h : Augmented components seen' cls M M') (hsub : ∀ c ∈ seen, c ∈ seen')
    (hcls : ∀ c, M.get? c = some cls → c ∈ seen)
    (honce : ∀ c c' x, M.get? c = some x → M.get? c' = some x → c = c') :
    Augmented components seen cls M M' := by
  -- outside `seen'` a value is new or was there before; inside, nothing moved
  have hmixed : ∀ c c' x, c ∉ seen → c ∈ seen' → c' ∉ seen' → M'.get? c = some x →
      M'.get? c' ≠ some x := by
    intro c c' x hc hc' hout hx hx'
    rw [h.keep c hc'] at hx
    rcases (h.owners x).mp ⟨c', hout, hx'⟩ with rfl | ⟨c₀, hc₀, hx₀⟩
    · exact hc (hcls c hx)
    · exact hc₀ (honce c c₀ x hx hx₀ ▸ hc')
  refine ⟨h.nodup, fun c hc => h.keep c (hsub c hc), h.edges, ?_, fun x => ⟨?_, ?_⟩, h.avoids⟩
  · intro c c' x hc hc' hx hx'
    by_cases hin : c ∈ seen'
    · by_cases hin' : c' ∈ seen'
      · rw [h.keep c hin] at hx
        rw [h.keep c' hin'] at hx'
        exact honce c c' x hx hx'
      · exact absurd hx' (hmixed c c' x hc hin hin' hx)
    · by_cases hin' : c' ∈ seen'
      · exact absurd hx (hmixed c' c x hc' hin' hin hx')
      · exact h.once c c' x hin hin' hx hx'
  · rintro ⟨c, hc, hx⟩
    by_cases hin : c ∈ seen'
    · exact .inr ⟨c, hc, h.keep c hin ▸ hx⟩
    · rcases (h.owners x).mp ⟨c, hin, hx⟩ with hx | ⟨c₀, hc₀, hx₀⟩
      · exact .inl hx
      · exact .inr ⟨c₀, mt (hsub c₀) hc₀, hx₀⟩
  · rintro (hx | ⟨c, hc, hx⟩)
    · obtain ⟨c₀, hc₀, hx₀⟩ := (h.owners x).mpr (.inl hx)
      exact ⟨c₀, mt (hsub c₀) hc₀, hx₀⟩
    · by_cases hin : c ∈ seen'
      · exact ⟨c, hc, (h.keep c hin).trans hx⟩
      · obtain ⟨c₀, hc₀, hx₀⟩ := (h.owners x).mpr (.inr ⟨c, hin, hx⟩)
        exact ⟨c₀, mt (hsub c₀) hc₀, hx₀⟩

/-- A free component ends a path. -/
lemma augmented_free {fuel : ℕ} {cls comp : String} {s : Search} (h : Ready allComps fuel cls s)
    (hcomp : comp ∈ components cls) (hseen : comp ∉ s.seen) (hfree : s.matchComp.get? comp = none) :
    Augmented components s.seen cls s.matchComp (s.matchComp.set comp cls) := by
  have hget : ∀ c, (s.matchComp.set comp cls).get? c =
      if c = comp then some cls else s.matchComp.get? c := get?_set h.nodup comp cls
  have hne : ∀ c x, s.matchComp.get? c = some x → c ≠ comp := by
    rintro c x hx rfl
    rw [hfree] at hx
    cases hx
  refine ⟨nodup_set h.nodup _ _, fun c hc => ?_, fun c x hx => ?_, fun c c' x hc hc' hx hx' => ?_,
    fun x => ⟨?_, ?_⟩, fun Z hZ => ?_⟩
  · rw [hget, if_neg (ne_of_mem_of_not_mem hc hseen)]
  · rw [hget] at hx
    split_ifs at hx with hcc
    · obtain rfl := Option.some.inj hx
      exact .inr (hcc ▸ hcomp)
    · exact .inl hx
  · rw [hget] at hx hx'
    split_ifs at hx hx' with hcc hcc' hcc'
    · rw [hcc, hcc']
    · obtain rfl := Option.some.inj hx
      exact absurd (h.seen c' hx') hc'
    · obtain rfl := Option.some.inj hx'
      exact absurd (h.seen c hx) hc
    · exact h.once c c' x hx hx'
  · rintro ⟨c, hc, hx⟩
    rw [hget] at hx
    split_ifs at hx
    · exact .inl (Option.some.inj hx).symm
    · exact .inr ⟨c, hc, hx⟩
  · rintro (rfl | ⟨c, hc, hx⟩)
    · exact ⟨comp, hseen, by rw [hget, if_pos rfl]⟩
    · exact ⟨c, hc, by rw [hget, if_neg (hne c x hx), hx]⟩
  · have hout : comp ∉ Z := fun hin => by
      obtain ⟨x, hx, -⟩ := hZ comp hin
      exact hne comp x hx rfl
    exact ⟨fun c hc => by rw [hget, if_neg (ne_of_mem_of_not_mem hc hout)], comp, hcomp, hout⟩

/-- A component goes to the class when its owner finds another. -/
lemma augmented_owned {fuel : ℕ} {cls comp owner : String} {s : Search} {M : Dict}
    (h : Ready allComps fuel cls s) (hcomp : comp ∈ components cls) (hseen : comp ∉ s.seen)
    (howner : s.matchComp.get? comp = some owner)
    (hpath : Augmented components (comp :: s.seen) owner s.matchComp M) :
    Augmented components s.seen cls s.matchComp (M.set comp cls) := by
  have hget : ∀ c, (M.set comp cls).get? c = if c = comp then some cls else M.get? c :=
    get?_set hpath.nodup comp cls
  have hcons : ∀ {c}, c ∉ s.seen → c ≠ comp → c ∉ comp :: s.seen := fun hc hne hin =>
    (List.mem_cons.mp hin).elim hne hc
  have hout : ∀ {c}, c ∉ comp :: s.seen → c ∉ s.seen ∧ c ≠ comp := fun hc =>
    ⟨fun hin => hc (List.mem_cons_of_mem _ hin), fun heq => hc (heq ▸ List.mem_cons_self)⟩
  -- the class owns nothing outside what was seen, before or after
  have hcls : ∀ c, c ∉ comp :: s.seen → M.get? c ≠ some cls := by
    intro c hc hx
    rcases (hpath.owners cls).mp ⟨c, hc, hx⟩ with rfl | ⟨c₀, hc₀, hx₀⟩
    · exact hseen (h.seen comp howner)
    · exact (hout hc₀).1 (h.seen c₀ hx₀)
  refine ⟨nodup_set hpath.nodup _ _, fun c hc => ?_, fun c x hx => ?_,
    fun c c' x hc hc' hx hx' => ?_, fun x => ⟨?_, ?_⟩, fun Z hZ => ?_⟩
  · rw [hget, if_neg (ne_of_mem_of_not_mem hc hseen), hpath.keep c (List.mem_cons_of_mem _ hc)]
  · rw [hget] at hx
    split_ifs at hx with hcc
    · obtain rfl := Option.some.inj hx
      exact .inr (hcc ▸ hcomp)
    · exact hpath.edges c x hx
  · rw [hget] at hx hx'
    split_ifs at hx hx' with hcc hcc' hcc'
    · rw [hcc, hcc']
    · obtain rfl := Option.some.inj hx
      exact absurd hx' (hcls c' (hcons hc' hcc'))
    · obtain rfl := Option.some.inj hx'
      exact absurd hx (hcls c (hcons hc hcc))
    · exact hpath.once c c' x (hcons hc hcc) (hcons hc' hcc') hx hx'
  · rintro ⟨c, hc, hx⟩
    rw [hget] at hx
    split_ifs at hx with hcc
    · exact .inl (Option.some.inj hx).symm
    · rcases (hpath.owners x).mp ⟨c, hcons hc hcc, hx⟩ with rfl | ⟨c₀, hc₀, hx₀⟩
      · exact .inr ⟨comp, hseen, howner⟩
      · exact .inr ⟨c₀, (hout hc₀).1, hx₀⟩
  · have hnew : ∀ c, c ∉ comp :: s.seen → M.get? c = some x →
        ∃ c, c ∉ s.seen ∧ (M.set comp cls).get? c = some x := fun c hc hx =>
      ⟨c, (hout hc).1, by rw [hget, if_neg (hout hc).2, hx]⟩
    rintro (rfl | ⟨c, hc, hx⟩)
    · exact ⟨comp, hseen, by rw [hget, if_pos rfl]⟩
    · by_cases hcc : c = comp
      · obtain rfl := Option.some.inj (howner.symm.trans (hcc ▸ hx))
        obtain ⟨c₀, hc₀, hx₀⟩ := (hpath.owners owner).mpr (.inl rfl)
        exact hnew c₀ hc₀ hx₀
      · obtain ⟨c₀, hc₀, hx₀⟩ := (hpath.owners x).mpr (.inr ⟨c, hcons hc hcc, hx⟩)
        exact hnew c₀ hc₀ hx₀
  · obtain ⟨hkeep, c₀, hc₀, hout₀⟩ := hpath.avoids Z hZ
    have hZcomp : comp ∉ Z := fun hin => by
      obtain ⟨x, hx, hreach⟩ := hZ comp hin
      obtain rfl := Option.some.inj (howner.symm.trans hx)
      exact hout₀ (hreach c₀ hc₀)
    refine ⟨fun c hc => ?_, comp, hcomp, hZcomp⟩
    rw [hget, if_neg (ne_of_mem_of_not_mem hc hZcomp), hkeep c hc]

lemma Ready.owner {fuel : ℕ} {cls comp owner : String} {s : Search}
    (h : Ready allComps (fuel + 1) cls s) (hcomp : comp ∈ allComps) (hseen : comp ∉ s.seen)
    (howner : s.matchComp.get? comp = some owner) :
    Ready allComps fuel owner { s with seen := comp :: s.seen } := by
  refine ⟨h.nodup, h.once, fun c hx => ?_, ?_⟩
  · rw [h.once c comp owner hx howner]
    exact List.mem_cons_self
  · have hlt : (allComps.filter (· ∉ comp :: s.seen)).card <
        (allComps.filter (· ∉ s.seen)).card := by
      apply Finset.card_lt_card
      refine ⟨fun c hc => ?_, fun hsub => ?_⟩
      · obtain ⟨hmem, hc⟩ := Finset.mem_filter.mp hc
        exact Finset.mem_filter.mpr ⟨hmem, fun hin => hc (List.mem_cons_of_mem _ hin)⟩
      · have hmem := hsub (Finset.mem_filter.mpr ⟨hcomp, hseen⟩)
        exact (Finset.mem_filter.mp hmem).2 List.mem_cons_self
    exact hlt.trans_le (Nat.lt_succ_iff.mp h.fuel)

lemma Ready.exhausted {fuel : ℕ} {cls : String} {comps : List String} {s s' : Search}
    (h : Ready allComps fuel cls s) (hfail : Exhausted components comps s s') :
    Ready allComps fuel cls s' := by
  refine ⟨hfail.same ▸ h.nodup, hfail.same ▸ h.once, fun c hx => ?_, lt_of_le_of_lt ?_ h.fuel⟩
  · exact hfail.seen c (h.seen c (hfail.same ▸ hx))
  · apply Finset.card_le_card
    intro c hc
    obtain ⟨hmem, hc⟩ := Finset.mem_filter.mp hc
    exact Finset.mem_filter.mpr ⟨hmem, mt (hfail.seen c) hc⟩

/-- The loop over the components of a class, when the recursive searches do their part. -/
lemma tryComponents_spec {fuel : ℕ} {cls : String} {aug : String → Search → Bool × Search}
    (hU : ∀ x, ∀ c ∈ components x, c ∈ allComps)
    (haug : ∀ x s, Ready allComps fuel x s →
      Outcome components x (sortedUnique (components x)) s (aug x s))
    {comps : List String} (hcomps : ∀ c ∈ comps, c ∈ components cls) {s : Search}
    (h : Ready allComps (fuel + 1) cls s) :
    Outcome components cls comps s (tryComponents aug cls comps s) := by
  induction comps generalizing s with
  | nil => exact ⟨nofun, fun _ => ⟨rfl, fun _ => id, nofun, fun c hc hout => absurd hc hout⟩⟩
  | cons comp rest ih =>
    have hcomp := hcomps comp List.mem_cons_self
    have hrest : ∀ c ∈ rest, c ∈ components cls := fun c hc => hcomps c (List.mem_cons_of_mem _ hc)
    rw [tryComponents]
    by_cases hseen : comp ∈ s.seen
    · rw [if_pos hseen]
      obtain ⟨hfound, hfailed⟩ := ih hrest h
      refine ⟨hfound, fun hr => ?_⟩
      have hfail := hfailed hr
      refine ⟨hfail.same, hfail.seen, fun c hc => ?_, hfail.owned⟩
      rcases List.mem_cons.mp hc with rfl | hc
      · exact hfail.seen c hseen
      · exact hfail.tried c hc
    · rw [if_neg hseen]
      cases hget : s.matchComp.get? comp with
      | none =>
        simp only [hget]
        exact ⟨fun _ => augmented_free h hcomp hseen hget, nofun⟩
      | some owner =>
        simp only [hget]
        have hout := haug owner _ (h.owner (hU cls comp hcomp) hseen hget)
        obtain ⟨⟨found, s'⟩, hr⟩ : ∃ r, r = aug owner { s with seen := comp :: s.seen } := ⟨_, rfl⟩
        rw [← hr] at hout ⊢
        cases found with
        | true => exact ⟨fun _ => augmented_owned h hcomp hseen hget (hout.found rfl), nofun⟩
        | false =>
          -- the owner has no other component, and the search goes on with what it saw
          have hfail := hout.failed rfl
          have hsub : ∀ c ∈ s.seen, c ∈ s'.seen := fun c hc =>
            hfail.seen c (List.mem_cons_of_mem _ hc)
          have hhere : comp ∈ s'.seen := hfail.seen comp List.mem_cons_self
          have hwide : Exhausted components [] s s' := by
            refine ⟨hfail.same, hsub, nofun, fun c hc hnew => ?_⟩
            by_cases hcc : c = comp
            · exact ⟨owner, hcc ▸ hget, fun c' hc' => hfail.tried c' (mem_sortedUnique.mpr hc')⟩
            · exact hfail.owned c hc fun hin => (List.mem_cons.mp hin).elim hcc hnew
          obtain ⟨hfound, hfailed⟩ := ih hrest (h.exhausted hwide)
          rw [if_neg Bool.false_ne_true]
          refine ⟨fun hr => ?_, fun hr => ?_⟩
          · have haugmented := hfound hr
            rw [hfail.same] at haugmented
            exact haugmented.mono hsub h.seen h.once
          · have hlater := hfailed hr
            refine ⟨hlater.same.trans hfail.same, fun c hc => hlater.seen c (hsub c hc),
              fun c hc => ?_, fun c hc hnew => ?_⟩
            · rcases List.mem_cons.mp hc with rfl | hc
              · exact hlater.seen c hhere
              · exact hlater.tried c hc
            · by_cases hin : c ∈ s'.seen
              · obtain ⟨x, hx, hreach⟩ := hwide.owned c hin hnew
                exact ⟨x, hx, fun c' hc' => hlater.seen c' (hreach c' hc')⟩
              · obtain ⟨x, hx, hreach⟩ := hlater.owned c hc hin
                exact ⟨x, hfail.same ▸ hx, hreach⟩

theorem augment_spec (hU : ∀ x, ∀ c ∈ components x, c ∈ allComps) {fuel : ℕ} {cls : String}
    {s : Search} (h : Ready allComps fuel cls s) :
    Outcome components cls (sortedUnique (components cls)) s (augment components fuel cls s) := by
  induction fuel generalizing cls s with
  | zero => exact absurd h.fuel (Nat.not_lt_zero _)
  | succ fuel ih =>
    exact tryComponents_spec hU (fun x s hs => ih hs) (fun c hc => mem_sortedUnique.mp hc) h

/-! ### The run over the classes -/

/-- What holds after the searches of some classes. -/
structure Progress (components : String → List String) (done : List String) (M : Dict) : Prop where
  nodup : (M.map Prod.fst).Nodup
  once : ∀ c c' x, M.get? c = some x → M.get? c' = some x → c = c'
  edge : ∀ c x, M.get? c = some x → c ∈ components x
  served : ∀ c x, M.get? c = some x → x ∈ done
  certificate : ∃ Z, Closed components M Z ∧
    ∀ x ∈ done, (∃ c, M.get? c = some x) ∨ ∀ c ∈ components x, c ∈ Z

lemma progress_nil : Progress components [] [] :=
  ⟨List.nodup_nil, nofun, nofun, nofun, ∅, nofun, nofun⟩

lemma Progress.step (hU : ∀ x, ∀ c ∈ components x, c ∈ allComps) {fuel : ℕ}
    (hfuel : allComps.card < fuel) {done : List String} {M : Dict} {cls : String}
    (h : Progress components done M) (hcls : cls ∉ done) :
    Progress components (cls :: done) (augment components fuel cls ⟨[], M⟩).2.matchComp := by
  have hready : Ready allComps fuel cls ⟨[], M⟩ :=
    ⟨h.nodup, h.once, fun c hx => absurd (h.served c cls hx) hcls,
      lt_of_le_of_lt (Finset.card_filter_le _ _) hfuel⟩
  obtain ⟨hfound, hfailed⟩ := augment_spec hU hready
  obtain ⟨Z, hZ, hcert⟩ := h.certificate
  cases hr : (augment components fuel cls ⟨[], M⟩).1 with
  | true =>
    have haug := hfound hr
    refine ⟨haug.nodup, fun c c' x => haug.once c c' x List.not_mem_nil List.not_mem_nil,
      fun c x hx => (haug.edges c x hx).elim (h.edge c x) id, fun c x hx => ?_, Z, ?_, ?_⟩
    · rcases (haug.owners x).mp ⟨c, List.not_mem_nil, hx⟩ with rfl | ⟨c₀, -, hx₀⟩
      · exact List.mem_cons_self
      · exact List.mem_cons_of_mem _ (h.served c₀ x hx₀)
    · intro c hc
      rw [(haug.avoids Z hZ).1 c hc]
      exact hZ c hc
    · intro x hx
      have howned : ∀ x, x = cls ∨ (∃ c, M.get? c = some x) →
          ∃ c, (augment components fuel cls ⟨[], M⟩).2.matchComp.get? c = some x := by
        intro x hx
        obtain ⟨c, -, hc⟩ := (haug.owners x).mpr (hx.imp_right fun ⟨c, hc⟩ =>
          ⟨c, List.not_mem_nil, hc⟩)
        exact ⟨c, hc⟩
      rcases List.mem_cons.mp hx with rfl | hx
      · exact .inl (howned x (.inl rfl))
      · exact (hcert x hx).imp_left fun hx => howned x (.inr hx)
  | false =>
    have hfail := hfailed hr
    rw [hfail.same]
    refine ⟨h.nodup, h.once, h.edge, fun c x hx => List.mem_cons_of_mem _ (h.served c x hx),
      Z ∪ (augment components fuel cls ⟨[], M⟩).2.seen.toFinset, ?_, ?_⟩
    · intro c hc
      rcases Finset.mem_union.mp hc with hc | hc
      · obtain ⟨x, hx, hreach⟩ := hZ c hc
        exact ⟨x, hx, fun c' hc' => Finset.mem_union_left _ (hreach c' hc')⟩
      · obtain ⟨x, hx, hreach⟩ := hfail.owned c (List.mem_toFinset.mp hc) List.not_mem_nil
        exact ⟨x, hx, fun c' hc' => Finset.mem_union_right _ (List.mem_toFinset.mpr (hreach c' hc'))⟩
    · intro x hx
      rcases List.mem_cons.mp hx with rfl | hx
      · exact .inr fun c hc => Finset.mem_union_right _
          (List.mem_toFinset.mpr (hfail.tried c (mem_sortedUnique.mpr hc)))
      · exact (hcert x hx).imp_right fun hreach c hc => Finset.mem_union_left _ (hreach c hc)

lemma Progress.run (hU : ∀ x, ∀ c ∈ components x, c ∈ allComps) {fuel : ℕ}
    (hfuel : allComps.card < fuel) {rest done : List String} {M : Dict}
    (h : Progress components done M) (hrest : rest.Nodup) (hnew : ∀ x ∈ rest, x ∉ done) :
    Progress components (rest.reverse ++ done)
      (rest.foldl (fun found cls => (augment components fuel cls ⟨[], found⟩).2.matchComp) M) := by
  induction rest generalizing done M with
  | nil => exact h
  | cons cls rest ih =>
    obtain ⟨hhead, hrest⟩ := List.nodup_cons.mp hrest
    rw [List.reverse_cons, List.append_assoc, List.foldl_cons]
    refine ih (h.step hU hfuel (hnew cls List.mem_cons_self)) hrest fun x hx hin => ?_
    rcases List.mem_cons.mp hin with rfl | hin
    · exact hhead hx
    · exact hnew x (List.mem_cons_of_mem _ hx) hin

/-- The matching found for the classes, with the certificate that it is a maximum one. -/
theorem maxBipartiteMatching_progress {classes : List String}
    (hclasses : ∀ x, x ∉ classes → components x = []) :
    ∃ done : List String, (∀ x, x ∈ done ↔ x ∈ classes) ∧
      Progress components done (maxBipartiteMatching classes components) := by
  have hU : ∀ x, ∀ c ∈ components x, c ∈ (classes.flatMap components).toFinset := by
    intro x c hc
    have hx : x ∈ classes := by
      by_contra hx
      rw [hclasses x hx] at hc
      cases hc
    exact List.mem_toFinset.mpr (List.mem_flatMap.mpr ⟨x, hx, hc⟩)
  have hfuel : (classes.flatMap components).toFinset.card <
      (classes.flatMap components).length + 1 :=
    Nat.lt_succ_of_le (List.toFinset_card_le _)
  refine ⟨_, fun x => ?_, Progress.run hU hfuel progress_nil (nodup_sortedUnique classes) nofun⟩
  rw [List.append_nil, List.mem_reverse, mem_sortedUnique]

end Search

end TrustLens.Runtime.Independence
