import TrustLens.Lib.PagedList
import TrustLens.Lib.Transition

/-!
# Paged loaders

The loaders of the analysis history and of the external lookups. A call acts at once; the requests
it sends are answered in any order, and the generation they carry tells the stale ones.
-/

namespace TrustLens.Frontend

/-- `HistoryStatus` -/
inductive Status where
  | LOADING
  | EMPTY
  | AVAILABLE
  | UNAVAILABLE
deriving DecidableEq

/-- `HistoryState` and `EnrichmentState` -/
structure LoaderState (ε : Type) where
  status : Status
  entries : List ε
  nextCursor : Option String
  loadingMore : Bool
  moreFailed : Bool
deriving DecidableEq

variable {ω ρ ε : Type}

/-- `LOADING_STATE` and `ENRICHMENT_LOADING` -/
def LOADING_STATE : LoaderState ε := ⟨.LOADING, [], none, false, false⟩

/-- A cursor that is absent or empty. -/
def falsy (cursor : Option String) : Bool := cursor.all (· == "")

inductive Call where
  | first
  | more
deriving DecidableEq

/-- What a request waits for: its page, or the entries of the page. -/
inductive Stage (ω : Type) where
  | listing
  | loading (items : List ω) (next_cursor : Option String)
  | answered
deriving DecidableEq

structure Request (ω : Type) where
  mine : ℕ
  call : Call
  cursor : Option String
  stage : Stage ω
deriving DecidableEq

structure Sys (ω ε : Type) where
  generation : ℕ
  state : LoaderState ε
  requests : List (Request ω)
deriving DecidableEq

def Sys.init : Sys ω ε := ⟨0, LOADING_STATE, []⟩

/-- What the loaders do each in their own way: the entries of a page, at once or from what is loaded
for its items, and the entries shown from the first and from a later page. -/
structure Loader (ω ρ ε : Type) where
  direct : List ω → Option (List ε)
  combine : List ω → List ρ → List ε
  start : List ε → List ε
  extend : List ε → List ε → List ε

/-! ### Calls -/

def first (s : Sys ω ε) : Sys ω ε where
  generation := s.generation + 1
  state := LOADING_STATE
  requests := s.requests ++ [⟨s.generation + 1, .first, none, .listing⟩]

def more (s : Sys ω ε) : Sys ω ε :=
  if falsy s.state.nextCursor ∨ s.state.loadingMore = true ∨ s.state.status ≠ .AVAILABLE then s
  else { s with
    state := { s.state with loadingMore := true, moreFailed := false }
    requests := s.requests ++ [⟨s.generation, .more, s.state.nextCursor, .listing⟩] }

def cancel (s : Sys ω ε) : Sys ω ε := { s with generation := s.generation + 1 }

/-! ### Answers -/

/-- The state after the entries of a page. -/
def arrive (loader : Loader ω ρ ε) (call : Call) (state : LoaderState ε) (page : List ε)
    (next_cursor : Option String) : LoaderState ε :=
  match call with
  | .first =>
    let entries := loader.start page
    ⟨if entries.isEmpty then .EMPTY else .AVAILABLE, entries, next_cursor, false, false⟩
  | .more => { state with
      entries := loader.extend state.entries page, nextCursor := next_cursor, loadingMore := false }

/-- The state after an error. -/
def fail (call : Call) (state : LoaderState ε) : LoaderState ε :=
  match call with
  | .first => { LOADING_STATE with status := .UNAVAILABLE }
  | .more => { state with loadingMore := false, moreFailed := true }

def Sys.mark (s : Sys ω ε) (i : ℕ) (r : Request ω) (stage : Stage ω) : Sys ω ε :=
  { s with requests := s.requests.set i { r with stage := stage } }

/-- The answer to a request: a page and its next cursor, or an error. -/
def answer (loader : Loader ω ρ ε) (s : Sys ω ε) (i : ℕ)
    (reply : Option (List ω × Option String)) : Option (Sys ω ε) :=
  match s.requests[i]? with
  | none => none
  | some r =>
    match r.stage with
    | .listing =>
      if r.mine ≠ s.generation then some (s.mark i r .answered)
      else match reply with
        | none => some { s.mark i r .answered with state := fail r.call s.state }
        | some (items, next) =>
          match loader.direct items with
          | some page =>
            some { s.mark i r .answered with state := arrive loader r.call s.state page next }
          | none => some (s.mark i r (.loading items next))
    | .loading _ _ | .answered => none

/-- What is loaded for each item of a page: `loadEntry` settles for every evaluation. -/
def loaded (loader : Loader ω ρ ε) (s : Sys ω ε) (i : ℕ) (results : List ρ) : Option (Sys ω ε) :=
  match s.requests[i]? with
  | none => none
  | some r =>
    match r.stage with
    | .loading items next =>
      if results.length ≠ items.length then none
      else if r.mine ≠ s.generation then some (s.mark i r .answered)
      else some { s.mark i r .answered with
        state := arrive loader r.call s.state (loader.combine items results) next }
    | .listing | .answered => none

inductive Action (ω ρ : Type) where
  | first
  | more
  | cancel
  | answer (request : ℕ) (reply : Option (List ω × Option String))
  | loaded (request : ℕ) (results : List ρ)

def step (loader : Loader ω ρ ε) (s : Sys ω ε) : Action ω ρ → Option (Sys ω ε)
  | .first => some (first s)
  | .more => some (more s)
  | .cancel => some (cancel s)
  | .answer i reply => answer loader s i reply
  | .loaded i results => loaded loader s i results

/-! ### The two loaders -/

structure EvaluationView where
  evaluation_id : String
  origin : String
  state : String
  result_availability : String
deriving DecidableEq

structure HistoryEntry where
  evaluation : EvaluationView
  result : Option String
  note : Option String
deriving DecidableEq

def HistoryEntry.id (e : HistoryEntry) : String := e.evaluation.evaluation_id

/-- `mergeHistory`: the entries of a page that are not yet there, in server order. -/
def mergeHistory (existing page : List HistoryEntry) : List HistoryEntry :=
  existing ++ unseen HistoryEntry.id (existing.map HistoryEntry.id) page

/-- `createHistoryLoader`, where a result and a note are loaded for each evaluation -/
def createHistoryLoader : Loader EvaluationView (Option String × Option String) HistoryEntry where
  direct _ := none
  combine items results := List.zipWith (fun e r => ⟨e, r.1, r.2⟩) items results
  start page := mergeHistory [] page
  extend := mergeHistory

structure EnrichmentView where
  enrichment_id : String
  provider_category : String
  status : String
  reputation_result : String
  observed_at : Option String
  advisory : Bool
deriving DecidableEq

/-- `createEnrichmentLoader` -/
def createEnrichmentLoader : Loader EnrichmentView Empty EnrichmentView where
  direct items := some items
  combine _ _ := []
  start page := page
  extend items page :=
    items ++ page.filter (·.enrichment_id ∉ items.map EnrichmentView.enrichment_id)

end TrustLens.Frontend
