import Mathlib.Data.String.Basic
import TrustLens.Lib.JsonSchema
import TrustLens.Lib.SortedUnique
import TrustLens.Runtime.Kleene

/-!
# Condition trees

A condition is plain JSON: an indicator id, or an object with one of `all_of`,
`any_of`, `n_of`. `evalCondition` is the interpreter on whatever JSON a rule
carries; `parse` reads the documents of the grammar as formulas, on which the
interpreter computes their strong Kleene value.
-/

namespace TrustLens.Runtime

open Json (lookup)

/-- `int(value)`. -/
def pyInt : Json → Except Fault ℤ
  | .int n => .ok n
  | .bool b => .ok (if b then 1 else 0)
  | .float (.finite q) => .ok (q.num.tdiv q.den)
  | .float .negZero => .ok 0
  | .float .nan => .error (.valueError "cannot convert float NaN to integer")
  | .float _ => .error (.overflowError "cannot convert float infinity to integer")
  | .str s =>
    match PyText.parseInt? s with
    | some n => .ok n
    | none => .error (.valueError "invalid literal for int() with base 10")
  | _ => .error (.typeError "int() argument must be a string, a bytes-like object or a real number")

namespace Condition

def notIterable : Fault := .typeError "object is not iterable"

mutual
/-- `_eval_condition`: the first of `all_of`, `any_of`, `n_of` present decides the node. -/
def evalCondition (truth : String → Truth) : Json → Except Fault Truth
  | .str s => .ok (truth s)
  | .obj entries =>
    match evalMember truth "all_of" entries with
    | some values => values >>= Kleene.allOf
    | none =>
      match evalMember truth "any_of" entries with
      | some values => values >>= Kleene.anyOf
      | none =>
        match evalNOf truth entries with
        | some value => value
        | none =>
          .error (.evaluatorError (.unknownOperators (sortedUnique (entries.map Prod.fst))))
  | cond => .error (.evaluatorError (.notACondition cond))

/-- The stream of operand values under one key. -/
def evalMember (truth : String → Truth) (key : String) :
    List (String × Json) → Option (Except Fault (List (Except Fault Truth)))
  | [] => none
  | (k, v) :: rest => if k = key then some (evalIter truth v) else evalMember truth key rest

/-- Iterating a string yields its characters, iterating an object its keys. -/
def evalIter (truth : String → Truth) : Json → Except Fault (List (Except Fault Truth))
  | .arr xs => .ok (evalEach truth xs)
  | .str s => .ok (s.toList.map fun c => .ok (truth (String.singleton c)))
  | .obj entries => .ok (entries.map fun e => .ok (truth e.1))
  | _ => .error notIterable

def evalEach (truth : String → Truth) : List Json → List (Except Fault Truth)
  | [] => []
  | x :: xs => evalCondition truth x :: evalEach truth xs

def evalNOf (truth : String → Truth) : List (String × Json) → Option (Except Fault Truth)
  | [] => none
  | (k, v) :: rest => if k = "n_of" then some (evalThreshold truth v) else evalNOf truth rest

/-- The bound is read before any operand, and every operand is evaluated. -/
def evalThreshold (truth : String → Truth) : Json → Except Fault Truth
  | .obj node =>
    match lookup "n" node with
    | none => .error (.keyError "n")
    | some bound => do
      let n ← pyInt bound
      let values ← (evalMember truth "of" node).getD (.ok [])
      Kleene.nOf n (← values.mapM id)
  | _ => .error (.typeError "object is not subscriptable by a string")
end

mutual
/-- `indexes.operands`: every indicator id of the tree, in traversal order. -/
def operands : Json → Except Fault (List String)
  | .str s => .ok [s]
  | .obj entries => operandsEntries entries
  | _ => .ok []

def operandsEntries : List (String × Json) → Except Fault (List String)
  | [] => .ok []
  | (op, value) :: rest => do
    let here ← if op = "n_of" then operandsThreshold value else operandsArray value
    return here ++ (← operandsEntries rest)

def operandsArray : Json → Except Fault (List String)
  | .arr xs => operandsEach xs
  | _ => .ok []

def operandsThreshold : Json → Except Fault (List String)
  | .obj node => operandsOf node
  | _ => .ok []

def operandsOf : List (String × Json) → Except Fault (List String)
  | [] => .ok []
  | (k, v) :: rest => if k = "of" then operandsIter v else operandsOf rest

def operandsIter : Json → Except Fault (List String)
  | .arr xs => operandsEach xs
  | .str s => .ok (s.toList.map String.singleton)
  | .obj entries => .ok (entries.map Prod.fst)
  | _ => .error notIterable

def operandsEach : List Json → Except Fault (List String)
  | [] => .ok []
  | x :: xs => do return (← operands x) ++ (← operandsEach xs)
end

/-- An integer of at least one, written as an integer or as a whole double. -/
def bound? (node : List (String × Json)) : Option ℕ :=
  match lookup "n" node with
  | some (.int n) => if 1 ≤ n then some n.toNat else none
  | some (.float x) =>
    match x.toInt? with
    | some n => if 1 ≤ n then some n.toNat else none
    | none => none
  | _ => none

mutual
/-- The formula a document of the condition grammar stands for. -/
def parse : Json → Option (Formula String)
  | .str s => some (.atom s)
  | .obj [(op, value)] =>
    if op = "all_of" then (parseArray value).map .all
    else if op = "any_of" then (parseArray value).map .any
    else if op = "n_of" then parseThreshold value
    else none
  | _ => none

def parseArray : Json → Option (List (Formula String))
  | .arr xs => parseEach xs
  | _ => none

def parseEach : List Json → Option (List (Formula String))
  | [] => some []
  | x :: xs =>
    match parse x, parseEach xs with
    | some f, some fs => some (f :: fs)
    | _, _ => none

def parseThreshold : Json → Option (Formula String)
  | .obj node =>
    match bound? node, parseOf node with
    | some n, some fs => some (.atLeast n fs)
    | _, _ => none
  | _ => none

def parseOf : List (String × Json) → Option (List (Formula String))
  | [] => none
  | (k, v) :: rest => if k = "of" then parseArray v else parseOf rest
end

lemma pyInt_of_bound {node : List (String × Json)} {n : ℕ} (h : bound? node = some n) :
    1 ≤ n ∧ ∃ bound, lookup "n" node = some bound ∧ pyInt bound = .ok (n : ℤ) := by
  unfold bound? at h
  split at h
  · rename_i k hk
    split_ifs at h with h1
    simp only [Option.some.injEq] at h
    exact ⟨by omega, _, hk, by simp only [pyInt, Except.ok.injEq]; omega⟩
  · rename_i x hx
    split at h
    · rename_i k hk
      split_ifs at h with h1
      simp only [Option.some.injEq] at h
      refine ⟨by omega, _, hx, ?_⟩
      cases x with
      | finite q =>
        simp only [PyFloat.toInt?] at hk
        split_ifs at hk with hd
        simp only [Option.some.injEq] at hk
        have hone : (q.den : ℤ) = 1 := by omega
        simp only [pyInt, hone, Int.tdiv_one, Except.ok.injEq]
        omega
      | negZero =>
        simp only [PyFloat.toInt?, Option.some.injEq] at hk
        omega
      | inf | negInf | nan => simp [PyFloat.toInt?] at hk
    · exact absurd h (by simp)
  · exact absurd h (by simp)

lemma mapM_id_ok (ts : List Truth) :
    (ts.map (Except.ok (ε := Fault))).mapM id = .ok ts := by
  induction ts with
  | nil => rfl
  | cons t ts ih =>
    rw [List.map_cons, List.mapM_cons, ih]
    rfl

mutual
/-- On a document of the grammar the interpreter computes the Kleene value of its formula. -/
theorem evalCondition_of_parse (truth : String → Truth) (c : Json) (f : Formula String)
    (h : parse c = some f) : evalCondition truth c = .ok (f.eval truth) := by
  cases c with
  | str s =>
    simp only [parse, Option.some.injEq] at h
    subst h
    rfl
  | obj entries =>
    match entries, h with
    | [(op, value)], h =>
      simp only [parse] at h
      split_ifs at h with h1 h2 h3
      · subst h1
        obtain ⟨fs, hfs, rfl⟩ := Option.map_eq_some_iff.mp h
        simp only [evalCondition, evalMember, if_true]
        rw [evalIter_of_parse truth value fs hfs]
        exact Kleene.allOf_ok _
      · subst h2
        obtain ⟨fs, hfs, rfl⟩ := Option.map_eq_some_iff.mp h
        simp only [evalCondition, evalMember, if_true, h1, if_false]
        rw [evalIter_of_parse truth value fs hfs]
        exact Kleene.anyOf_ok _
      · subst h3
        simp only [evalCondition, evalMember, evalNOf, h1, h2, if_true, if_false]
        exact evalThreshold_of_parse truth value f h
  | null | bool | int | float | arr => simp [parse] at h

theorem evalIter_of_parse (truth : String → Truth) (c : Json) (fs : List (Formula String))
    (h : parseArray c = some fs) :
    evalIter truth c = .ok ((Formula.evalList truth fs).map .ok) := by
  cases c with
  | arr xs => rw [evalIter, evalEach_of_parse truth xs fs h]
  | null | bool | int | float | str | obj => simp [parseArray] at h

theorem evalEach_of_parse (truth : String → Truth) (xs : List Json) (fs : List (Formula String))
    (h : parseEach xs = some fs) :
    evalEach truth xs = (Formula.evalList truth fs).map .ok := by
  match xs with
  | [] =>
    simp only [parseEach, Option.some.injEq] at h
    subst h
    rfl
  | x :: xs =>
    simp only [parseEach] at h
    split at h
    · rename_i f gs hf hgs
      simp only [Option.some.injEq] at h
      subst h
      rw [evalEach, evalCondition_of_parse truth x f hf, evalEach_of_parse truth xs gs hgs]
      rfl
    · exact absurd h (by simp)

theorem evalThreshold_of_parse (truth : String → Truth) (c : Json) (f : Formula String)
    (h : parseThreshold c = some f) : evalThreshold truth c = .ok (f.eval truth) := by
  cases c with
  | obj node =>
    simp only [parseThreshold] at h
    split at h
    · rename_i n fs hn hfs
      simp only [Option.some.injEq] at h
      subst h
      obtain ⟨h1, bound, hb, hi⟩ := pyInt_of_bound hn
      simp only [evalThreshold, hb, hi, evalOf_of_parse truth node fs hfs, Option.getD_some]
      simp only [bind, Except.bind, mapM_id_ok]
      exact Kleene.nOf_ok n h1 _
    · exact absurd h (by simp)
  | null | bool | int | float | str | arr => simp [parseThreshold] at h

theorem evalOf_of_parse (truth : String → Truth) (node : List (String × Json))
    (fs : List (Formula String)) (h : parseOf node = some fs) :
    evalMember truth "of" node = some (.ok ((Formula.evalList truth fs).map .ok)) := by
  match node with
  | [] => simp [parseOf] at h
  | (k, v) :: rest =>
    simp only [parseOf] at h
    simp only [evalMember]
    split_ifs at h with hk
    · rw [if_pos hk, evalIter_of_parse truth v fs h]
    · rw [if_neg hk, evalOf_of_parse truth rest fs h]
end

mutual
/-- `operands` yields the atoms of the formula, repeats included. -/
theorem operands_of_parse (c : Json) (f : Formula String) (h : parse c = some f) :
    operands c = .ok f.atoms := by
  cases c with
  | str s =>
    simp only [parse, Option.some.injEq] at h
    subst h
    rfl
  | obj entries =>
    match entries, h with
    | [(op, value)], h =>
      simp only [parse] at h
      split_ifs at h with h1 h2 h3
      · subst h1
        obtain ⟨fs, hfs, rfl⟩ := Option.map_eq_some_iff.mp h
        have hv := operandsArray_of_parse value fs hfs
        simp [operands, operandsEntries, hv, bind, Except.bind, pure, Except.pure, Formula.atoms]
      · subst h2
        obtain ⟨fs, hfs, rfl⟩ := Option.map_eq_some_iff.mp h
        have hv := operandsArray_of_parse value fs hfs
        simp [operands, operandsEntries, hv, bind, Except.bind, pure, Except.pure, Formula.atoms]
      · subst h3
        have hv := operandsThreshold_of_parse value f h
        simp [operands, operandsEntries, hv, bind, Except.bind, pure, Except.pure]
  | null | bool | int | float | arr => simp [parse] at h

theorem operandsArray_of_parse (c : Json) (fs : List (Formula String))
    (h : parseArray c = some fs) : operandsArray c = .ok (Formula.atomsList fs) := by
  cases c with
  | arr xs => exact operandsEach_of_parse xs fs h
  | null | bool | int | float | str | obj => simp [parseArray] at h

theorem operandsEach_of_parse (xs : List Json) (fs : List (Formula String))
    (h : parseEach xs = some fs) : operandsEach xs = .ok (Formula.atomsList fs) := by
  match xs with
  | [] =>
    simp only [parseEach, Option.some.injEq] at h
    subst h
    rfl
  | x :: xs =>
    simp only [parseEach] at h
    split at h
    · rename_i f gs hf hgs
      simp only [Option.some.injEq] at h
      subst h
      rw [operandsEach, operands_of_parse x f hf, operandsEach_of_parse xs gs hgs]
      rfl
    · exact absurd h (by simp)

theorem operandsThreshold_of_parse (c : Json) (f : Formula String)
    (h : parseThreshold c = some f) : operandsThreshold c = .ok f.atoms := by
  cases c with
  | obj node =>
    simp only [parseThreshold] at h
    split at h
    · rename_i n fs hn hfs
      simp only [Option.some.injEq] at h
      subst h
      exact operandsOf_of_parse node fs hfs
    · exact absurd h (by simp)
  | null | bool | int | float | str | arr => simp [parseThreshold] at h

theorem operandsOf_of_parse (node : List (String × Json)) (fs : List (Formula String))
    (h : parseOf node = some fs) : operandsOf node = .ok (Formula.atomsList fs) := by
  match node with
  | [] => simp [parseOf] at h
  | (k, v) :: rest =>
    simp only [parseOf] at h
    simp only [operandsOf]
    split_ifs at h with hk
    · rw [if_pos hk]
      cases v with
      | arr xs => exact operandsEach_of_parse xs fs h
      | null | bool | int | float | str | obj => simp [parseArray] at h
    · rw [if_neg hk, operandsOf_of_parse rest fs h]
end

/-- The pattern of an indicator id. -/
def indicatorId : String → Bool :=
  Schema.anchored (Schema.headTail Schema.isUpper
    (fun c => Schema.isUpper c || Schema.isAsciiDigit c || c == '_') 2 63)

mutual
/-- `$defs/operand` of the rule schema: an indicator id or a `$defs/condition`. -/
def operandSchema : Schema.Validator
  | .str s => indicatorId s
  | .obj [(op, value)] =>
    if op = "all_of" then operandArraySchema 1 value
    else if op = "any_of" then operandArraySchema 2 value
    else if op = "n_of" then thresholdSchema value
    else false
  | _ => false

def operandArraySchema (minItems : ℕ) : Schema.Validator
  | .arr xs => minItems ≤ xs.length && operandSchemas xs
  | _ => false

def operandSchemas : List Json → Bool
  | [] => true
  | x :: xs => operandSchema x && operandSchemas xs

def thresholdSchema : Schema.Validator
  | .obj node =>
    (lookup "n" node).isSome && (lookup "of" node).isSome && thresholdMembers node
  | _ => false

def thresholdMembers : List (String × Json) → Bool
  | [] => true
  | (k, v) :: rest =>
    (if k = "n" then Schema.integerFrom 2 v
      else if k = "of" then operandArraySchema 3 v
      else false) && thresholdMembers rest
end

lemma bound_of_members {node : List (String × Json)} (hm : thresholdMembers node = true)
    (hn : (lookup "n" node).isSome = true) : ∃ n, bound? node = some n := by
  obtain ⟨v, hv⟩ := Option.isSome_iff_exists.mp hn
  have hi : Schema.integerFrom 2 v = true := by
    clear hn
    induction node with
    | nil => simp [lookup] at hv
    | cons e rest ih =>
      obtain ⟨k, w⟩ := e
      simp only [thresholdMembers, Bool.and_eq_true] at hm
      simp only [lookup] at hv
      split_ifs at hv with hk
      · simp only [Option.some.injEq] at hv
        subst hv
        simpa [hk] using hm.1
      · exact ih hm.2 hv
  unfold bound?
  rw [hv]
  cases v with
  | int n =>
    have h1 : (1 : ℤ) ≤ n := by simp [Schema.integerFrom] at hi; omega
    exact ⟨n.toNat, if_pos h1⟩
  | float x =>
    simp only [Schema.integerFrom] at hi
    split at hi
    · rename_i n hx
      have h1 : (1 : ℤ) ≤ n := by simp at hi; omega
      exact ⟨n.toNat, by simp only [hx, if_pos h1]⟩
    · exact absurd hi (by decide)
  | null | bool | str | arr | obj => simp [Schema.integerFrom] at hi

mutual
/-- The grammar covers every document the rule schema accepts as an operand. -/
theorem parse_of_operandSchema (c : Json) (h : operandSchema c = true) :
    ∃ f, parse c = some f := by
  cases c with
  | str s => exact ⟨_, rfl⟩
  | obj entries =>
    match entries, h with
    | [(op, value)], h =>
      simp only [operandSchema] at h
      simp only [parse]
      split_ifs at h ⊢ with h1 h2 h3
      · obtain ⟨fs, hfs⟩ := parseArray_of_schema 1 value h
        exact ⟨_, by rw [hfs]; rfl⟩
      · obtain ⟨fs, hfs⟩ := parseArray_of_schema 2 value h
        exact ⟨_, by rw [hfs]; rfl⟩
      · exact parseThreshold_of_schema value h
  | null | bool | int | float | arr => simp [operandSchema] at h

theorem parseArray_of_schema (minItems : ℕ) (c : Json)
    (h : operandArraySchema minItems c = true) : ∃ fs, parseArray c = some fs := by
  cases c with
  | arr xs =>
    simp only [operandArraySchema, Bool.and_eq_true] at h
    exact parseEach_of_schema xs h.2
  | null | bool | int | float | str | obj => simp [operandArraySchema] at h

theorem parseEach_of_schema (xs : List Json) (h : operandSchemas xs = true) :
    ∃ fs, parseEach xs = some fs := by
  match xs with
  | [] => exact ⟨[], rfl⟩
  | x :: xs =>
    simp only [operandSchemas, Bool.and_eq_true] at h
    obtain ⟨f, hf⟩ := parse_of_operandSchema x h.1
    obtain ⟨fs, hfs⟩ := parseEach_of_schema xs h.2
    exact ⟨f :: fs, by simp only [parseEach, hf, hfs]⟩

theorem parseThreshold_of_schema (c : Json) (h : thresholdSchema c = true) :
    ∃ f, parseThreshold c = some f := by
  cases c with
  | obj node =>
    simp only [thresholdSchema, Bool.and_eq_true] at h
    obtain ⟨n, hn⟩ := bound_of_members h.2 h.1.1
    obtain ⟨fs, hfs⟩ := parseOf_of_members node h.2 h.1.2
    exact ⟨.atLeast n fs, by simp only [parseThreshold, hn, hfs]⟩
  | null | bool | int | float | str | arr => simp [thresholdSchema] at h

theorem parseOf_of_members (node : List (String × Json)) (hm : thresholdMembers node = true)
    (ho : (lookup "of" node).isSome = true) : ∃ fs, parseOf node = some fs := by
  match node with
  | [] => simp [lookup] at ho
  | (k, v) :: rest =>
    simp only [thresholdMembers, Bool.and_eq_true] at hm
    simp only [lookup] at ho
    simp only [parseOf]
    by_cases hk : k = "of"
    · subst hk
      rw [if_pos rfl]
      exact parseArray_of_schema 3 v (by simpa using hm.1)
    · rw [if_neg hk]
      rw [if_neg hk] at ho
      exact parseOf_of_members rest hm.2 ho
end

/-- The interpreter is exact: each value it returns is what every completion of the
unknown indicators forces, it is monotone in both orders, and it reads only its operands. -/
theorem evalCondition_exact (c : Json) (f : Formula String) (hc : parse c = some f)
    (truth : String → Truth) :
    ∃ value, evalCondition truth c = .ok value ∧
      (value = .TRUE ↔ ∀ b, Formula.Completes b truth → f.holds b = true) ∧
      (value = .FALSE ↔ ∀ b, Formula.Completes b truth → f.holds b = false) ∧
      (value = .UNKNOWN ↔ ∃ b b', Formula.Completes b truth ∧ Formula.Completes b' truth ∧
        f.holds b ≠ f.holds b') ∧
      (∀ truth', (∀ i, Truth.Refines (truth i) (truth' i)) →
        ∃ value', evalCondition truth' c = .ok value' ∧ Truth.Refines value value') ∧
      (∀ truth', (∀ i, truth i ≤ truth' i) →
        ∃ value', evalCondition truth' c = .ok value' ∧ value ≤ value') ∧
      ∃ ids, operands c = .ok ids ∧
        ∀ truth', (∀ i ∈ ids, truth i = truth' i) → evalCondition truth' c = .ok value := by
  refine ⟨f.eval truth, evalCondition_of_parse truth c f hc, f.eval_eq_TRUE_iff truth,
    f.eval_eq_FALSE_iff truth, f.eval_eq_UNKNOWN_iff truth, ?_, ?_, f.atoms,
    operands_of_parse c f hc, ?_⟩
  · intro truth' h
    exact ⟨_, evalCondition_of_parse truth' c f hc, f.eval_refines h⟩
  · intro truth' h
    exact ⟨_, evalCondition_of_parse truth' c f hc, f.eval_mono h⟩
  · intro truth' h
    rw [evalCondition_of_parse truth' c f hc, Formula.eval_congr f h]

/-- Two of three, one operand nested and occurring twice. -/
def sampleCondition : Json :=
  .obj [("n_of", .obj [("n", .int 2), ("of", .arr [.str "OTP_REQUEST", .str "URGENCY",
    .obj [("any_of", .arr [.str "OTP_REQUEST", .str "PAYMENT_DEMAND"])]])])]

theorem evalCondition_exact_sample :
    ∃ value, evalCondition (fun _ => .UNKNOWN) sampleCondition = .ok value ∧
      (value = .UNKNOWN ↔ ∃ b b', Formula.Completes b (fun _ => .UNKNOWN) ∧
        Formula.Completes b' (fun _ => .UNKNOWN) ∧
        (Formula.atLeast 2 [.atom "OTP_REQUEST", .atom "URGENCY",
          .any [.atom "OTP_REQUEST", .atom "PAYMENT_DEMAND"]]).holds b ≠
        (Formula.atLeast 2 [.atom "OTP_REQUEST", .atom "URGENCY",
          .any [.atom "OTP_REQUEST", .atom "PAYMENT_DEMAND"]]).holds b') := by
  obtain ⟨value, hv, -, -, hu, -⟩ :=
    evalCondition_exact sampleCondition _ rfl (fun _ => .UNKNOWN)
  exact ⟨value, hv, hu⟩

end Condition
end TrustLens.Runtime
