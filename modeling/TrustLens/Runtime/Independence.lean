import TrustLens.Lib.SortedUnique
import Mathlib.Data.String.Basic

/-!
# Proven-independent evidence

Live occurrence groups that share an observation are merged into one provenance
component; the evidence classes are then matched one to one with components.
-/

namespace TrustLens.Runtime.Independence

/-- A dict of texts, in insertion order. -/
abbrev Dict := List (String × String)

def Dict.get? (d : Dict) (key : String) : Option String := (d.find? (·.1 == key)).map Prod.snd

def Dict.set (d : Dict) (key value : String) : Dict :=
  if (d.get? key).isSome then d.map fun e => if e.1 == key then (key, value) else e
  else d ++ [(key, value)]

/-! ### `_UnionFind` -/

/-- The parent of an entry; a new entry is its own parent. -/
def parent (d : Dict) (x : String) : String := (d.get? x).getD x

/-- Walks up to the root. A parent is lexically smaller than its child, so a chain is no longer
than the number of entries. -/
def rootFrom (d : Dict) : ℕ → String → String
  | 0, x => x
  | fuel + 1, x => if parent d x = x then x else rootFrom d fuel (parent d x)

/-- Path compression: every entry on the way points at the root. -/
def compress (root : String) : ℕ → String → Dict → Dict
  | 0, _, d => d
  | fuel + 1, x, d =>
    if parent d x = root then d else compress root fuel (parent d x) (d.set x root)

/-- `find` -/
def find (d : Dict) (x : String) : String × Dict :=
  let d := if (d.get? x).isSome then d else d.set x x
  let root := rootFrom d d.length x
  (root, compress root d.length x d)

/-- `union`: the lexically smaller root wins. -/
def union (d : Dict) (a b : String) : Dict :=
  let (ra, d) := find d a
  let (rb, d) := find d b
  if ra = rb then d else d.set (max ra rb) (min ra rb)

/-- Merges one occurrence group. -/
def mergeGroup (d : Dict) (refs : List String) : Dict :=
  let d := refs.foldl (fun d ref => (find d ref).2) d
  match refs with
  | [] => d
  | first :: rest => rest.foldl (fun d ref => union d first ref) d

/-! ### `_max_bipartite_matching` -/

structure Search where
  seen : List String
  matchComp : Dict

/-- The loop of `augment` over the components of a class. -/
def tryComponents (augment : String → Search → Bool × Search) (cls : String) :
    List String → Search → Bool × Search
  | [], s => (false, s)
  | comp :: rest, s =>
    if comp ∈ s.seen then tryComponents augment cls rest s
    else
      let s := { s with seen := comp :: s.seen }
      match s.matchComp.get? comp with
      | none => (true, { s with matchComp := s.matchComp.set comp cls })
      | some owner =>
        let (found, s) := augment owner s
        if found then (true, { s with matchComp := s.matchComp.set comp cls })
        else tryComponents augment cls rest s

/-- `augment`; every level of the recursion marks one more component as seen. -/
def augment (components : String → List String) : ℕ → String → Search → Bool × Search
  | 0, _, s => (false, s)
  | fuel + 1, cls, s =>
    tryComponents (augment components fuel) cls (sortedUnique (components cls)) s

/-- `_max_bipartite_matching`: the matching as a map from components to classes. -/
def maxBipartiteMatching (classes : List String) (components : String → List String) : Dict :=
  let fuel := (classes.flatMap components).length + 1
  (sortedUnique classes).foldl
    (fun found cls => (augment components fuel cls ⟨[], found⟩).2.matchComp) []

/-! ### `_proven_independence` -/

structure Independent where
  count : ℕ
  classes : List String
  sharedRefs : List String

/-- From the evidence classes with the refs of their live occurrence groups. -/
def provenIndependence (entries : List (String × List String)) : Independent :=
  let forest := (entries.map Prod.snd).foldl mergeGroup []
  let componentsOf (cls : String) : List String :=
    (entries.filter (·.1 == cls)).filterMap fun e => e.2.head?.map fun ref => (find forest ref).1
  let matching := maxBipartiteMatching (entries.map Prod.fst) componentsOf
  let refs := entries.flatMap Prod.snd
  { count := matching.length
    classes := sortedUnique (matching.map Prod.snd)
    sharedRefs := sortedUnique (refs.filter fun ref => 1 < refs.count ref) }

example : (provenIndependence [("PRESSURE", ["o-1", "o-2"]), ("CREDENTIAL_ACTION", ["o-2"]),
    ("CREDENTIAL_ACTION", ["o-3"])]).count = 2 := by decide +kernel

end TrustLens.Runtime.Independence
