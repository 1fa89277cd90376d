import Mathlib.Order.Nat
import TrustLens.Frontend.Loaders

/-!
# What the loaders show

A watcher of a loader counts the requests that were sent when the list was last started or cancelled,
and collects the pages that later requests bring. The loader shows these pages and nothing else.
-/

namespace TrustLens.Frontend

variable {ω ρ ε : Type}

/-! ### Watching -/

/-- A loader with the number of requests sent before the latest `first` or `cancel` and the pages
obtained since the latest `first`. -/
structure Watch (ω ε : Type) where
  sys : Sys ω ε
  fence : ℕ
  obtained : List (Page String ε)
deriving DecidableEq

/-- The request whose page an action completes, and the page. -/
def Action.page (loader : Loader ω ρ ε) (s : Sys ω ε) : Action ω ρ → Option (ℕ × Page String ε)
  | .answer i (some (items, next)) =>
    match s.requests[i]?, loader.direct items with
    | some r, some page => some (i, ⟨r.cursor, page, next⟩)
    | _, _ => none
  | .loaded i results =>
    match s.requests[i]? with
    | some ⟨_, _, cursor, .loading items next⟩ =>
      some (i, ⟨cursor, loader.combine items results, next⟩)
    | _ => none
  | _ => none

def Watch.fenceAfter (w : Watch ω ε) : Action ω ρ → ℕ
  | .first | .cancel => w.sys.requests.length
  | .more | .answer _ _ | .loaded _ _ => w.fence

def Watch.obtainedAfter (loader : Loader ω ρ ε) (w : Watch ω ε) (a : Action ω ρ) :
    List (Page String ε) :=
  match a, a.page loader w.sys with
  | .first, _ => []
  | _, some (i, page) => if w.fence ≤ i then w.obtained ++ [page] else w.obtained
  | _, none => w.obtained

def watch (loader : Loader ω ρ ε) (w : Watch ω ε) (a : Action ω ρ) : Option (Watch ω ε) :=
  (step loader w.sys a).map fun sys => ⟨sys, w.fenceAfter a, w.obtainedAfter loader a⟩

def watched (loader : Loader ω ρ ε) : System (Watch ω ε) (Action ω ρ) Unit where
  init := ⟨.init, 0, []⟩
  step w a := (watch loader w a).map (·, ())

/-- Every page is free of duplicates. -/
def DistinctPages (itemId : ω → String) (_ : Watch ω ε) : Action ω ρ → Prop
  | .answer _ (some (items, _)) => (items.map itemId).Nodup
  | _ => True

/-- What a loader does with pages of distinct items: show the first as it is, and append of a later
one what is not shown yet. -/
structure Merges (loader : Loader ω ρ ε) (itemId : ω → String) (entryId : ε → String) : Prop where
  direct : ∀ items page, loader.direct items = some page → page.map entryId = items.map itemId
  combine : ∀ items results, results.length = items.length →
    (loader.combine items results).map entryId = items.map itemId
  start : ∀ page, (page.map entryId).Nodup → loader.start page = page
  extend : ∀ entries page, (page.map entryId).Nodup →
    loader.extend entries page = entries ++ unseen entryId (entries.map entryId) page

/-! ### The invariant -/

/-- A request that can still be answered and is not stale. -/
def Watch.Live (w : Watch ω ε) (i : ℕ) (r : Request ω) : Prop :=
  w.fence ≤ i ∧ w.sys.requests[i]? = some r ∧ r.stage ≠ .answered

/-- What a request that is not stale was sent for. -/
def Expected (w : Watch ω ε) (r : Request ω) : Prop :=
  match r.call with
  | .first => w.sys.state = LOADING_STATE ∧ r.cursor = none
  | .more => w.sys.state.status = .AVAILABLE ∧ w.sys.state.loadingMore = true ∧
      r.cursor = w.sys.state.nextCursor ∧ falsy r.cursor = false

/-- The pages that a status stands for. -/
def Status.fits (obtained : List (Page String ε)) : Status → Prop
  | .LOADING | .UNAVAILABLE => obtained = []
  | .EMPTY => ∃ next, obtained = [⟨none, [], next⟩]
  | .AVAILABLE => obtained ≠ []

/-- A state shows the pages that were obtained. -/
structure Shows (entryId : ε → String) (state : LoaderState ε) (obtained : List (Page String ε)) :
    Prop where
  entries : state.entries = firstOccurrences entryId (obtained.flatMap Page.items)
  followed : Followed falsy none obtained
  cursor : state.nextCursor = cursorAfter none obtained
  status : state.status.fits obtained

structure Watch.Inv (itemId : ω → String) (entryId : ε → String) (w : Watch ω ε) : Prop where
  fenced : w.fence ≤ w.sys.requests.length
  generations : ∀ (i : ℕ) r, w.sys.requests[i]? = some r →
    r.mine ≤ w.sys.generation ∧ (r.mine = w.sys.generation ↔ w.fence ≤ i)
  distinct : ∀ (i : ℕ) r items next, w.sys.requests[i]? = some r → r.stage = .loading items next →
    (items.map itemId).Nodup
  single : ∀ i j r q, w.Live i r → w.Live j q → i = j
  expected : ∀ i r, w.Live i r → Expected w r
  shows : Shows entryId w.sys.state w.obtained

variable {itemId : ω → String} {entryId : ε → String} {w : Watch ω ε}

lemma Shows.distinct {state : LoaderState ε} {obtained : List (Page String ε)}
    (h : Shows entryId state obtained) : (state.entries.map entryId).Nodup := by
  rw [h.entries]
  exact nodup_firstOccurrences _

lemma shows_loading : Shows entryId LOADING_STATE [] := ⟨rfl, trivial, rfl, rfl⟩

/-- A page that was expected is shown after the others. -/
lemma shows_arrive {loader : Loader ω ρ ε} (hloader : Merges loader itemId entryId)
    {r : Request ω} {page : List ε} {next : Option String} (hr : Expected w r)
    (hw : Shows entryId w.sys.state w.obtained) (hpage : (page.map entryId).Nodup) :
    Shows entryId (arrive loader r.call w.sys.state page next)
      (w.obtained ++ [⟨r.cursor, page, next⟩]) := by
  unfold Expected at hr
  cases hcall : r.call with
  | first =>
    rw [hcall] at hr
    obtain ⟨hstate, hcursor⟩ := hr
    have hnone : w.obtained = [] := by
      have hstatus := hw.status
      rwa [hstate] at hstatus
    rw [hnone, hcursor, List.nil_append]
    unfold arrive
    dsimp only
    rw [hloader.start page hpage]
    refine ⟨?_, ⟨rfl, fun hne => absurd rfl hne, trivial⟩, rfl, ?_⟩
    · rw [List.flatMap_singleton, firstOccurrences_of_nodup hpage]
    · cases page with
      | nil => exact ⟨next, rfl⟩
      | cons e page => exact List.cons_ne_nil _ _
  | more =>
    rw [hcall] at hr
    obtain ⟨hstatus, -, hcursor, hfalsy⟩ := hr
    refine ⟨?_, ?_, ?_, ?_⟩
    · rw [arrive, hloader.extend _ page hpage, List.flatMap_append, List.flatMap_singleton,
        firstOccurrences_append, hw.entries]
    · exact hw.followed.concat (hcursor.trans hw.cursor) fun _ => hfalsy
    · rw [cursorAfter_concat]
      rfl
    · rw [arrive, hstatus]
      exact List.append_ne_nil_of_right_ne_nil _ (List.cons_ne_nil _ _)

/-- An error shows no page and takes none away. -/
lemma shows_fail {r : Request ω} (hr : Expected w r)
    (hw : Shows entryId w.sys.state w.obtained) :
    Shows entryId (fail r.call w.sys.state) w.obtained := by
  unfold Expected at hr
  cases hcall : r.call with
  | first =>
    rw [hcall] at hr
    have hnone : w.obtained = [] := by
      have hstatus := hw.status
      rwa [hr.1] at hstatus
    rw [hnone]
    exact ⟨rfl, trivial, rfl, rfl⟩
  | more => exact ⟨hw.entries, hw.followed, hw.cursor, hw.status⟩

/-! ### Requests -/

lemma getElem?_mark {s : Sys ω ε} {i j : ℕ} {r q : Request ω} {stage : Stage ω}
    (hi : s.requests[i]? = some r) (h : (s.mark i r stage).requests[j]? = some q) :
    ∃ q0, s.requests[j]? = some q0 ∧ q.mine = q0.mine ∧ q.call = q0.call ∧ q.cursor = q0.cursor ∧
      (q = q0 ∧ j ≠ i ∨ q.stage = stage ∧ j = i ∧ q0 = r) := by
  unfold Sys.mark at h
  dsimp only at h
  by_cases hj : j = i
  · subst hj
    rw [List.getElem?_set_self (List.getElem?_eq_some_iff.mp hi).1] at h
    cases h
    exact ⟨r, hi, rfl, rfl, rfl, .inr ⟨rfl, rfl, rfl⟩⟩
  · rw [List.getElem?_set_ne (Ne.symm hj)] at h
    exact ⟨q, h, rfl, rfl, rfl, .inl ⟨rfl, hj⟩⟩

/-- A request that moves on leaves what is shown as it is. -/
lemma Watch.Inv.mark (h : w.Inv itemId entryId) {i : ℕ} {r : Request ω} {stage : Stage ω}
    (hi : w.sys.requests[i]? = some r) (hopen : r.stage ≠ .answered)
    (hstage : ∀ items next, stage = .loading items next → (items.map itemId).Nodup) :
    Watch.Inv itemId entryId ⟨w.sys.mark i r stage, w.fence, w.obtained⟩ := by
  have hlive : ∀ j q, Watch.Live ⟨w.sys.mark i r stage, w.fence, w.obtained⟩ j q →
      ∃ q0, w.Live j q0 ∧ q.call = q0.call ∧ q.cursor = q0.cursor := by
    rintro j q ⟨hj, hq, hstageq⟩
    obtain ⟨q0, hq0, -, hcall, hcursor, ⟨rfl, -⟩ | ⟨-, rfl, rfl⟩⟩ := getElem?_mark hi hq
    · exact ⟨q, ⟨hj, hq0, hstageq⟩, rfl, rfl⟩
    · exact ⟨q0, ⟨hj, hq0, hopen⟩, hcall, hcursor⟩
  constructor
  · exact h.fenced.trans_eq List.length_set.symm
  · intro j q hq
    obtain ⟨q0, hq0, hmine, -⟩ := getElem?_mark hi hq
    rw [hmine]
    exact h.generations j q0 hq0
  · intro j q items next hq hloading
    obtain ⟨q0, hq0, -, -, -, ⟨rfl, -⟩ | ⟨hqstage, -⟩⟩ := getElem?_mark hi hq
    · exact h.distinct j q items next hq0 hloading
    · exact hstage items next (hqstage.symm.trans hloading)
  · intro j k q p hq hp
    obtain ⟨q0, hq0, -⟩ := hlive j q hq
    obtain ⟨p0, hp0, -⟩ := hlive k p hp
    exact h.single j k q0 p0 hq0 hp0
  · intro j q hq
    obtain ⟨q0, hq0, hcall, hcursor⟩ := hlive j q hq
    have hexpected := h.expected j q0 hq0
    unfold Expected at hexpected ⊢
    rw [hcall, hcursor]
    exact hexpected
  · exact h.shows

/-- The one request that is not stale is answered. -/
lemma Watch.Inv.settle (h : w.Inv itemId entryId) {i : ℕ} {r : Request ω} (hi : w.Live i r)
    {state : LoaderState ε} {obtained : List (Page String ε)}
    (hshows : Shows entryId state obtained) :
    Watch.Inv itemId entryId
      ⟨{ w.sys.mark i r .answered with state := state }, w.fence, obtained⟩ := by
  have hmark : Watch.Inv itemId entryId ⟨w.sys.mark i r .answered, w.fence, w.obtained⟩ :=
    h.mark hi.2.1 hi.2.2 nofun
  have hdead : ∀ j q,
      ¬Watch.Live ⟨{ w.sys.mark i r .answered with state := state }, w.fence, obtained⟩ j q := by
    rintro j q ⟨hj, hq, hstage⟩
    obtain ⟨q0, hq0, -, -, -, ⟨rfl, hne⟩ | ⟨hanswered, -⟩⟩ := getElem?_mark hi.2.1 hq
    · exact hne (h.single j i q r ⟨hj, hq0, hstage⟩ hi)
    · exact hstage hanswered
  refine ⟨hmark.fenced, hmark.generations, hmark.distinct, ?_, ?_, hshows⟩
  · intro j k q p hq
    exact absurd hq (hdead j q)
  · intro j q hq
    exact absurd hq (hdead j q)

/-- Another request is sent while none is live. -/
lemma Watch.Inv.send (h : w.Inv itemId entryId) {generation : ℕ} {r : Request ω} {fence : ℕ}
    {state : LoaderState ε} {obtained : List (Page String ε)}
    (hfence : fence ≤ w.sys.requests.length)
    (hold : ∀ (i : ℕ) q, w.sys.requests[i]? = some q →
      q.mine ≤ generation ∧ (q.mine = generation ↔ fence ≤ i))
    (hdead : ∀ i q, fence ≤ i → ¬w.Live i q)
    (hmine : r.mine = generation) (hstage : r.stage = .listing)
    (hexpected : Expected ⟨⟨generation, state, w.sys.requests ++ [r]⟩, fence, obtained⟩ r)
    (hshows : Shows entryId state obtained) (hlow : w.fence ≤ fence) :
    Watch.Inv itemId entryId ⟨⟨generation, state, w.sys.requests ++ [r]⟩, fence, obtained⟩ := by
  have hget : ∀ (i : ℕ) q, (w.sys.requests ++ [r])[i]? = some q →
      w.sys.requests[i]? = some q ∨ i = w.sys.requests.length ∧ q = r := by
    intro i q hq
    rw [List.getElem?_append] at hq
    split_ifs at hq with hlt
    · exact .inl hq
    · rw [List.getElem?_singleton] at hq
      split_ifs at hq with hlast
      exact .inr ⟨by omega, (Option.some.inj hq).symm⟩
  have hlive : ∀ i q, Watch.Live ⟨⟨generation, state, w.sys.requests ++ [r]⟩, fence, obtained⟩ i q →
      i = w.sys.requests.length ∧ q = r := by
    rintro i q ⟨hi, hq, hopen⟩
    rcases hget i q hq with hq | hq
    · exact absurd ⟨hlow.trans hi, hq, hopen⟩ (hdead i q hi)
    · exact hq
  constructor
  · exact hfence.trans (by simp)
  · intro i q hq
    rcases hget i q hq with hq | ⟨rfl, rfl⟩
    · exact hold i q hq
    · exact ⟨hmine.le, iff_of_true hmine hfence⟩
  · intro i q items next hq hloading
    rcases hget i q hq with hq | ⟨rfl, rfl⟩
    · exact h.distinct i q items next hq hloading
    · rw [hstage] at hloading
      cases hloading
  · intro i j q p hq hp
    exact (hlive i q hq).1.trans (hlive j p hp).1.symm
  · intro i q hq
    obtain ⟨-, rfl⟩ := hlive i q hq
    exact hexpected
  · exact hshows

/-! ### Every step -/

lemma Watch.Inv.live (h : w.Inv itemId entryId) {i : ℕ} {r : Request ω}
    (hi : w.sys.requests[i]? = some r) (hopen : r.stage ≠ .answered)
    (hmine : r.mine = w.sys.generation) : w.Live i r :=
  ⟨(h.generations i r hi).2.mp hmine, hi, hopen⟩

lemma Watch.Inv.stale (h : w.Inv itemId entryId) {i : ℕ} {r : Request ω}
    (hi : w.sys.requests[i]? = some r) (hmine : r.mine ≠ w.sys.generation) : i < w.fence :=
  lt_of_not_ge fun hle => hmine ((h.generations i r hi).2.mpr hle)

/-- While a request is live the loader takes no call for more. -/
lemma Watch.Inv.not_live (h : w.Inv itemId entryId) (hmore : w.sys.state.loadingMore = false)
    (havailable : w.sys.state.status = .AVAILABLE) (i : ℕ) (r : Request ω) : ¬w.Live i r := by
  intro hlive
  have hexpected := h.expected i r hlive
  unfold Expected at hexpected
  cases hcall : r.call with
  | first =>
    rw [hcall] at hexpected
    rw [hexpected.1] at havailable
    cases havailable
  | more =>
    rw [hcall] at hexpected
    rw [hexpected.2.1] at hmore
    cases hmore

lemma Watch.Inv.first (h : w.Inv itemId entryId) :
    Watch.Inv itemId entryId ⟨first w.sys, w.sys.requests.length, []⟩ := by
  refine h.send (le_refl _) (fun i q hq => ?_) (fun i q hi => ?_) rfl rfl ⟨rfl, rfl⟩ shows_loading
    h.fenced
  · have hlt := (List.getElem?_eq_some_iff.mp hq).1
    have hle := (h.generations i q hq).1
    exact ⟨by omega, by omega⟩
  · rintro ⟨-, hq, -⟩
    have hlt := (List.getElem?_eq_some_iff.mp hq).1
    omega

lemma Watch.Inv.more (h : w.Inv itemId entryId) :
    Watch.Inv itemId entryId ⟨more w.sys, w.fence, w.obtained⟩ := by
  unfold Frontend.more
  split_ifs with hrefused
  · exact h
  · rw [not_or, not_or, not_not, Bool.not_eq_true, Bool.not_eq_true] at hrefused
    obtain ⟨hfalsy, hmore, havailable⟩ := hrefused
    refine h.send h.fenced h.generations (fun i q _ => h.not_live hmore havailable i q) rfl rfl ?_ ?_
      (le_refl _)
    · exact ⟨havailable, rfl, rfl, hfalsy⟩
    · exact ⟨h.shows.entries, h.shows.followed, h.shows.cursor, h.shows.status⟩

lemma Watch.Inv.cancel (h : w.Inv itemId entryId) :
    Watch.Inv itemId entryId ⟨cancel w.sys, w.sys.requests.length, w.obtained⟩ := by
  have hdead : ∀ i q, ¬Watch.Live ⟨Frontend.cancel w.sys, w.sys.requests.length, w.obtained⟩ i q := by
    rintro i q ⟨hi, hq, -⟩
    have hlt := (List.getElem?_eq_some_iff.mp hq).1
    unfold Frontend.cancel at hi hlt
    dsimp only at hi hlt
    omega
  refine ⟨le_refl _, fun i q hq => ?_, h.distinct, ?_, ?_, h.shows⟩
  · have hlt := (List.getElem?_eq_some_iff.mp hq).1
    have hle := (h.generations i q hq).1
    unfold Frontend.cancel at hlt ⊢
    dsimp only at hlt ⊢
    exact ⟨by omega, by omega⟩
  · intro i j q p hq
    exact absurd hq (hdead i q)
  · intro i q hq
    exact absurd hq (hdead i q)

/-- A stale answer brings no page. -/
lemma obtainedAfter_stale {loader : Loader ω ρ ε} (a : Action ω ρ) {i : ℕ} (hfirst : a ≠ .first)
    (hpage : ∀ j page, a.page loader w.sys = some (j, page) → j = i) (hi : i < w.fence) :
    w.obtainedAfter loader a = w.obtained := by
  unfold Watch.obtainedAfter
  split
  · exact absurd rfl hfirst
  · rename_i j page _ hsome
    rw [if_neg (by rw [hpage j page hsome]; exact Nat.not_le.mpr hi)]
  · rfl

lemma obtainedAfter_live {loader : Loader ω ρ ε} {a : Action ω ρ} {i : ℕ} {page : Page String ε}
    (hpage : a.page loader w.sys = some (i, page)) (hi : w.fence ≤ i) :
    w.obtainedAfter loader a = w.obtained ++ [page] := by
  unfold Watch.obtainedAfter
  rw [hpage]
  cases a with
  | first | more | cancel => cases hpage
  | answer | loaded => exact if_pos hi

lemma obtainedAfter_none {loader : Loader ω ρ ε} (a : Action ω ρ) (hfirst : a ≠ .first)
    (hpage : a.page loader w.sys = none) : w.obtainedAfter loader a = w.obtained := by
  unfold Watch.obtainedAfter
  rw [hpage]
  cases a with
  | first => exact absurd rfl hfirst
  | more | cancel | answer | loaded => rfl

lemma page_answer {loader : Loader ω ρ ε} {s : Sys ω ε} {i j : ℕ}
    {reply : Option (List ω × Option String)} {page : Page String ε}
    (h : (Action.answer i reply).page loader s = some (j, page)) : j = i := by
  cases reply with
  | none => cases h
  | some reply =>
    unfold Action.page at h
    dsimp only at h
    split at h <;> cases h
    rfl

lemma page_loaded {loader : Loader ω ρ ε} {s : Sys ω ε} {i j : ℕ} {results : List ρ}
    {page : Page String ε} (h : (Action.loaded i results).page loader s = some (j, page)) :
    j = i := by
  unfold Action.page at h
  dsimp only at h
  split at h <;> cases h
  rfl

lemma Watch.Inv.answer {loader : Loader ω ρ ε} (hloader : Merges loader itemId entryId)
    (h : w.Inv itemId entryId) {i : ℕ} {reply : Option (List ω × Option String)} {s' : Sys ω ε}
    (hdistinct : ∀ items next, reply = some (items, next) → (items.map itemId).Nodup)
    (hstep : Frontend.answer loader w.sys i reply = some s') :
    Watch.Inv itemId entryId ⟨s', w.fence, w.obtainedAfter loader (.answer i reply)⟩ := by
  unfold Frontend.answer at hstep
  split at hstep
  · cases hstep
  · rename_i r hi
    split at hstep
    · rename_i hlisting
      have hopen : r.stage ≠ .answered := by rw [hlisting]; nofun
      split_ifs at hstep with hmine
      · cases hstep
        rw [obtainedAfter_stale (.answer i reply) nofun (fun _ _ => page_answer) (h.stale hi hmine)]
        exact h.mark hi hopen nofun
      · have hlive := h.live hi hopen (not_not.mp hmine)
        have hexpected := h.expected i r hlive
        split at hstep
        · cases hstep
          rw [obtainedAfter_none (.answer i none) nofun rfl]
          exact h.settle hlive (shows_fail hexpected h.shows)
        · rename_i items next
          split at hstep
          · rename_i page hdirect
            cases hstep
            have hpage : (Action.answer i (some (items, next))).page loader w.sys =
                some (i, ⟨r.cursor, page, next⟩) := by
              unfold Action.page
              dsimp only
              rw [hi, hdirect]
            rw [obtainedAfter_live hpage hlive.1]
            refine h.settle hlive (shows_arrive hloader hexpected h.shows ?_)
            rw [hloader.direct items page hdirect]
            exact hdistinct items next rfl
          · rename_i hdirect
            cases hstep
            have hpage : (Action.answer i (some (items, next))).page loader w.sys = none := by
              unfold Action.page
              dsimp only
              rw [hdirect]
              cases w.sys.requests[i]? <;> rfl
            rw [obtainedAfter_none (.answer i (some (items, next))) nofun hpage]
            refine h.mark hi hopen fun items' next' hloading => ?_
            cases hloading
            exact hdistinct items next rfl
    · cases hstep
    · cases hstep

lemma Watch.Inv.loaded {loader : Loader ω ρ ε} (hloader : Merges loader itemId entryId)
    (h : w.Inv itemId entryId) {i : ℕ} {results : List ρ} {s' : Sys ω ε}
    (hstep : Frontend.loaded loader w.sys i results = some s') :
    Watch.Inv itemId entryId ⟨s', w.fence, w.obtainedAfter loader (.loaded i results)⟩ := by
  unfold Frontend.loaded at hstep
  split at hstep
  · cases hstep
  · rename_i r hi
    split at hstep
    · rename_i items next hloading
      have hopen : r.stage ≠ .answered := by rw [hloading]; nofun
      split_ifs at hstep with hlength hmine
      · cases hstep
        rw [obtainedAfter_stale (.loaded i results) nofun (fun _ _ => page_loaded) (h.stale hi hmine)]
        exact h.mark hi hopen nofun
      · have hlive := h.live hi hopen (not_not.mp hmine)
        cases hstep
        have hpage : (Action.loaded i results).page loader w.sys =
            some (i, ⟨r.cursor, loader.combine items results, next⟩) := by
          unfold Action.page
          obtain ⟨mine, call, cursor, stage⟩ := r
          cases hloading
          dsimp only
          rw [hi]
        rw [obtainedAfter_live hpage hlive.1]
        refine h.settle hlive (shows_arrive hloader (h.expected i r hlive) h.shows ?_)
        rw [hloader.combine items results (not_not.mp hlength)]
        exact h.distinct i r items next hi hloading
    · cases hstep
    · cases hstep

lemma Watch.Inv.step {loader : Loader ω ρ ε} (hloader : Merges loader itemId entryId)
    (h : w.Inv itemId entryId) {a : Action ω ρ} {w' : Watch ω ε}
    (ha : DistinctPages itemId w a) (hstep : watch loader w a = some w') :
    w'.Inv itemId entryId := by
  obtain ⟨s', hs', rfl⟩ := Option.map_eq_some_iff.mp hstep
  cases a with
  | first =>
    cases hs'
    exact h.first
  | more =>
    cases hs'
    exact h.more
  | cancel =>
    cases hs'
    exact h.cancel
  | answer i reply =>
    refine h.answer hloader (fun items next hreply => ?_) hs'
    rw [hreply] at ha
    exact ha
  | loaded i results => exact h.loaded hloader hs'

lemma inv_reachable {loader : Loader ω ρ ε} (hloader : Merges loader itemId entryId)
    (h : (watched loader).Reachable (DistinctPages itemId) w) : w.Inv itemId entryId := by
  refine h.invariant (P := Watch.Inv itemId entryId) ?_ fun w a w' out hw ha hstep => ?_
  · exact ⟨le_refl _, nofun, nofun, fun _ _ _ _ hq => absurd hq.2.1 nofun,
      fun _ _ hq => absurd hq.2.1 nofun, shows_loading⟩
  · obtain ⟨v, hv, heq⟩ := Option.map_eq_some_iff.mp hstep
    cases heq
    exact hw.step hloader ha hv

/-! ### Neither mixed, lost nor repeated -/

/-- What holds of a loader whatever was called and answered: stale answers change nothing, the
entries are those of the pages followed since the latest `first`, and an error of the latest request
for more can be made good. -/
structure Paged (loader : Loader ω ρ ε) (entryId : ε → String) (w : Watch ω ε) : Prop where
  stale : ∀ i < w.fence, ∀ w', (∃ reply, watch loader w (.answer i reply) = some w') ∨
    (∃ results, watch loader w (.loaded i results) = some w') → w'.sys.state = w.sys.state
  followed : Followed falsy none w.obtained
  shown : w.sys.state.entries = firstOccurrences entryId (w.obtained.flatMap Page.items)
  distinct : (w.sys.state.entries.map entryId).Nodup
  complete : ∀ server all, Serves server falsy none all →
    (∀ p ∈ w.obtained, server p.cursor = (p.items, p.next)) → w.obtained ≠ [] →
      falsy w.sys.state.nextCursor = true → w.sys.state.entries = firstOccurrences entryId all ∧
        ∀ e ∈ all, ∃ e' ∈ w.sys.state.entries, entryId e' = entryId e
  empty : w.sys.state.status = .EMPTY → ∃ next, w.obtained = [⟨none, [], next⟩]
  retried : ∀ i r w', w.fence ≤ i → w.sys.requests[i]? = some r → r.call = .more →
    watch loader w (.answer i none) = some w' →
      w'.sys.state.entries = w.sys.state.entries ∧ ∃ w'', watch loader w' .more = some w'' ∧
        w''.sys.requests =
          w'.sys.requests ++ [⟨w'.sys.generation, .more, r.cursor, .listing⟩]

/-- A stale request is answered in vain. -/
lemma Watch.Inv.answer_stale {loader : Loader ω ρ ε} (h : w.Inv itemId entryId) {i : ℕ}
    (hi : i < w.fence) {reply : Option (List ω × Option String)} {s' : Sys ω ε}
    (hstep : Frontend.answer loader w.sys i reply = some s') : s'.state = w.sys.state := by
  unfold Frontend.answer at hstep
  split at hstep
  · cases hstep
  · rename_i r hr
    have hmine : r.mine ≠ w.sys.generation := fun heq =>
      absurd ((h.generations i r hr).2.mp heq) (Nat.not_le.mpr hi)
    rw [if_pos hmine] at hstep
    split at hstep <;> cases hstep
    rfl

lemma Watch.Inv.loaded_stale {loader : Loader ω ρ ε} (h : w.Inv itemId entryId) {i : ℕ}
    (hi : i < w.fence) {results : List ρ} {s' : Sys ω ε}
    (hstep : Frontend.loaded loader w.sys i results = some s') : s'.state = w.sys.state := by
  unfold Frontend.loaded at hstep
  split at hstep
  · cases hstep
  · rename_i r hr
    have hmine : r.mine ≠ w.sys.generation := fun heq =>
      absurd ((h.generations i r hr).2.mp heq) (Nat.not_le.mpr hi)
    split at hstep
    · split_ifs at hstep
      cases hstep
      rfl
    · cases hstep
    · cases hstep

/-- An error of a request for more opens the way to the next one. -/
lemma Watch.Inv.retried {loader : Loader ω ρ ε} (h : w.Inv itemId entryId) {i : ℕ}
    {r : Request ω} {s' : Sys ω ε} (hi : w.fence ≤ i) (hr : w.sys.requests[i]? = some r)
    (hcall : r.call = .more) (hstep : Frontend.answer loader w.sys i none = some s') :
    s'.state.entries = w.sys.state.entries ∧ (Frontend.more s').requests =
      s'.requests ++ [⟨s'.generation, .more, r.cursor, .listing⟩] := by
  unfold Frontend.answer at hstep
  rw [hr] at hstep
  dsimp only at hstep
  split at hstep
  · rename_i hlisting
    have hmine : r.mine = w.sys.generation := (h.generations i r hr).2.mpr hi
    rw [if_neg (not_not.mpr hmine)] at hstep
    cases hstep
    have hexpected := h.expected i r ⟨hi, hr, by rw [hlisting]; nofun⟩
    rw [Expected, hcall] at hexpected
    obtain ⟨havailable, -, hcursor, hfalsy⟩ := hexpected
    rw [hcall]
    refine ⟨rfl, ?_⟩
    unfold Frontend.more fail
    dsimp only
    rw [← hcursor, hfalsy, havailable, if_neg (by simp)]
  · cases hstep
  · cases hstep

theorem paged_of_inv {loader : Loader ω ρ ε} (h : w.Inv itemId entryId) :
    Paged loader entryId w where
  stale i hi w' hw' := by
    rcases hw' with ⟨reply, hw'⟩ | ⟨results, hw'⟩
    · obtain ⟨s', hs', rfl⟩ := Option.map_eq_some_iff.mp hw'
      exact h.answer_stale hi hs'
    · obtain ⟨s', hs', rfl⟩ := Option.map_eq_some_iff.mp hw'
      exact h.loaded_stale hi hs'
  followed := h.shows.followed
  shown := h.shows.entries
  distinct := h.shows.distinct
  complete server all hserves hanswers hne hend := by
    rw [h.shows.cursor] at hend
    have hall := hserves.items_of_followed h.shows.followed hne hanswers hend
    rw [h.shows.entries, hall]
    refine ⟨rfl, fun e he => ?_⟩
    have hmem := mem_keys_firstOccurrences.mpr (List.mem_map_of_mem (f := entryId) he)
    obtain ⟨e', he', hsame⟩ := List.mem_map.mp hmem
    exact ⟨e', he', hsame⟩
  empty hempty := by
    have hstatus := h.shows.status
    rwa [hempty] at hstatus
  retried i r w' hi hr hcall hw' := by
    obtain ⟨s', hs', rfl⟩ := Option.map_eq_some_iff.mp hw'
    have hanswer : answer loader w.sys i none = some s' := hs'
    obtain ⟨hentries, hrequests⟩ := h.retried hi hr hcall hanswer
    exact ⟨hentries, _, rfl, hrequests⟩

lemma merges_history :
    Merges createHistoryLoader EvaluationView.evaluation_id HistoryEntry.id where
  direct _ _ h := by cases h
  combine items results hlength := by
    induction items generalizing results with
    | nil => rfl
    | cons e items ih =>
      cases results with
      | nil => cases hlength
      | cons r results =>
        have htail := ih results (Nat.succ.inj hlength)
        exact congrArg (e.evaluation_id :: ·) htail
  start page hpage := firstOccurrences_of_nodup hpage
  extend _ _ _ := rfl

lemma merges_enrichment : Merges createEnrichmentLoader EnrichmentView.enrichment_id
    EnrichmentView.enrichment_id where
  direct _ _ h := by
    cases h
    rfl
  combine items results hlength := by
    cases items with
    | nil => rfl
    | cons => cases results with
      | nil => cases hlength
      | cons r => exact r.elim
  start _ _ := rfl
  extend items page hpage := by
    rw [unseen_of_nodup hpage]
    rfl

/-- Both loaders, whatever is called and in whatever order the requests are answered. -/
theorem paged_loaders :
    (∀ w : Watch EvaluationView HistoryEntry, (watched createHistoryLoader).Reachable
      (DistinctPages EvaluationView.evaluation_id) w →
        Paged createHistoryLoader HistoryEntry.id w) ∧
      ∀ w : Watch EnrichmentView EnrichmentView, (watched createEnrichmentLoader).Reachable
        (DistinctPages EnrichmentView.enrichment_id) w →
          Paged createEnrichmentLoader EnrichmentView.enrichment_id w :=
  ⟨fun _ h => paged_of_inv (inv_reachable merges_history h),
    fun _ h => paged_of_inv (inv_reachable merges_enrichment h)⟩

def sampleLookup (id : String) : EnrichmentView :=
  ⟨id, "REPUTATION", "SUCCEEDED", "CLEAN", none, true⟩

def sampleEvaluation (id : String) : EvaluationView := ⟨id, "INITIAL", "COMPLETED", "AVAILABLE"⟩

/-- A second page fails, is asked for again and overlaps the first. -/
def sampleLookups : List (Action EnrichmentView Empty) :=
  [.first, .answer 0 (some ([sampleLookup "a", sampleLookup "b"], some "c")), .more, .answer 1 none,
   .more, .answer 2 (some ([sampleLookup "b", sampleLookup "d"], none))]

/-- The list is started anew while the entries of its page are loaded. -/
def sampleHistory : List (Action EvaluationView (Option String × Option String)) :=
  [.first, .answer 0 (some ([sampleEvaluation "a"], none)), .first,
   .answer 1 (some ([sampleEvaluation "b"], none)), .loaded 0 [(none, some "pending")],
   .loaded 1 [(some "result", none)]]

def afterLookups : Watch EnrichmentView EnrichmentView :=
  ((watched createEnrichmentLoader).exec (watched createEnrichmentLoader).init sampleLookups).getD
    (watched createEnrichmentLoader).init

def afterHistory : Watch EvaluationView HistoryEntry :=
  ((watched createHistoryLoader).exec (watched createHistoryLoader).init sampleHistory).getD
    (watched createHistoryLoader).init

theorem paged_loaders_sample :
    (afterLookups.sys.state.entries.map EnrichmentView.enrichment_id = ["a", "b", "d"] ∧
      Paged createEnrichmentLoader EnrichmentView.enrichment_id afterLookups) ∧
    afterHistory.sys.state.entries.map HistoryEntry.id = ["b"] ∧
      Paged createHistoryLoader HistoryEntry.id afterHistory := by
  have hlookups : (watched createEnrichmentLoader).exec (watched createEnrichmentLoader).init
      sampleLookups = some afterLookups := rfl
  have hhistory : (watched createHistoryLoader).exec (watched createHistoryLoader).init
      sampleHistory = some afterHistory := rfl
  refine ⟨⟨by decide, paged_loaders.2 _ (System.steps_of_exec ?_ hlookups)⟩, by decide,
    paged_loaders.1 _ (System.steps_of_exec ?_ hhistory)⟩
  · simp [sampleLookups, DistinctPages, sampleLookup]
  · simp [sampleHistory, DistinctPages]

/-- A request for more that fails after a `cancel` cannot be made again. -/
def cancelledMore : List (Action EnrichmentView Empty) :=
  [.first, .answer 0 (some ([sampleLookup "a"], some "c")), .more, .cancel]

def afterCancel : Watch EnrichmentView EnrichmentView :=
  ((watched createEnrichmentLoader).exec (watched createEnrichmentLoader).init cancelledMore).getD
    (watched createEnrichmentLoader).init

theorem cancelled_more_not_retried :
    ¬∀ w, (watched createEnrichmentLoader).Reachable
      (DistinctPages EnrichmentView.enrichment_id) w → ∀ i r w', w.sys.requests[i]? = some r →
        r.call = .more → watch createEnrichmentLoader w (.answer i none) = some w' →
          ∃ w'', watch createEnrichmentLoader w' .more = some w'' ∧
            ∃ q, w''.sys.requests = w'.sys.requests ++ [q] ∧ q.cursor = r.cursor := by
  intro h
  have hrun : (watched createEnrichmentLoader).exec (watched createEnrichmentLoader).init
      cancelledMore = some afterCancel := rfl
  have hguard : ∀ a ∈ cancelledMore, ∀ w : Watch EnrichmentView EnrichmentView,
      DistinctPages EnrichmentView.enrichment_id w a := by
    simp [cancelledMore, DistinctPages]
  obtain ⟨w'', hmore, q, hsent, -⟩ := h afterCancel (System.steps_of_exec hguard hrun) 1
    ⟨1, .more, some "c", .listing⟩ _ rfl rfl rfl
  cases hmore
  have hlength := congrArg List.length hsent
  rw [List.length_append, List.length_singleton] at hlength
  exact absurd hlength (Nat.ne_of_lt (Nat.lt_succ_self _))

end TrustLens.Frontend
