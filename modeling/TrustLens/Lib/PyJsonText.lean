import TrustLens.Lib.PyJson

/-!
# Decoded JSON as documents

A decoded value is a document when its strings and keys are texts: a lone surrogate has no encoding.
The document is read as the value is.
-/

namespace TrustLens

lemma encode_of (s : String) : encode (.of s) = some s := by
  rw [PyStr.of, encode_map_ofChar, String.ofList_toList]

lemma encode_eq_some {s : PyStr} {text : String} : encode s = some text ↔ s = .of text :=
  ⟨fun h => encode_inj h (encode_of text), fun h => h ▸ encode_of text⟩

namespace PyJson

mutual
/-- The document of a value, none where a string holds a lone surrogate. -/
def json? : PyJson → Option Json
  | null => some .null
  | bool b => some (.bool b)
  | int n => some (.int n)
  | float x => some (.float x)
  | str s => (encode s).map .str
  | arr items => (jsonItems? items).map .arr
  | obj entries => (jsonEntries? entries).map .obj

def jsonItems? : List PyJson → Option (List Json)
  | [] => some []
  | j :: js => (json? j).bind fun v => (jsonItems? js).map (v :: ·)

def jsonEntries? : List (PyStr × PyJson) → Option (List (String × Json))
  | [] => some []
  | (k, j) :: es =>
    (encode k).bind fun key => (json? j).bind fun v => (jsonEntries? es).map ((key, v) :: ·)
end

variable {j w : PyJson} {v u : Json}

@[simp] lemma json?_of (s : String) : json? (str (.of s)) = some (.str s) := by
  rw [json?, encode_of, Option.map_some]

lemma eq_of_json?_str {text : String} (h : json? j = some (.str text)) : j = str (.of text) := by
  cases j with
  | str s =>
    rw [json?, Option.map_eq_some_iff] at h
    obtain ⟨t, ht, heq⟩ := h
    cases heq
    rw [encode_eq_some.mp ht]
  | null | bool | int | float => cases h
  | arr | obj =>
    rw [json?, Option.map_eq_some_iff] at h
    obtain ⟨_, -, heq⟩ := h
    cases heq

lemma forall₂_of_jsonItems? {js : List PyJson} {vs : List Json} (h : jsonItems? js = some vs) :
    List.Forall₂ (fun j v => json? j = some v) js vs := by
  induction js generalizing vs with
  | nil =>
    cases h
    exact .nil
  | cons j js ih =>
    rw [jsonItems?] at h
    obtain ⟨v, hv, h⟩ := Option.bind_eq_some_iff.mp h
    obtain ⟨rest, hrest, heq⟩ := Option.map_eq_some_iff.mp h
    cases heq
    exact .cons hv (ih hrest)

lemma lookup_of_jsonEntries? {es : List (PyStr × PyJson)} {vs : List (String × Json)}
    (h : jsonEntries? es = some vs) (key : String) :
    Json.lookup key vs = (lookup (.of key) es).bind json? := by
  induction es generalizing vs with
  | nil =>
    cases h
    rfl
  | cons e es ih =>
    obtain ⟨k, j⟩ := e
    rw [jsonEntries?] at h
    obtain ⟨name, hname, h⟩ := Option.bind_eq_some_iff.mp h
    obtain ⟨v, hv, h⟩ := Option.bind_eq_some_iff.mp h
    obtain ⟨rest, hrest, heq⟩ := Option.map_eq_some_iff.mp h
    cases heq
    have hsame : name = key ↔ k = .of key := by rw [← encode_eq_some, hname, Option.some.injEq]
    rw [Json.lookup, lookup]
    by_cases hkey : name = key
    · rw [if_pos hkey, if_pos (hsame.mp hkey), Option.bind_some, hv]
    · rw [if_neg hkey, if_neg (hkey ∘ hsame.mpr), ih hrest]

lemma json?_of_lookup {es : List (PyStr × PyJson)} {vs : List (String × Json)}
    (h : jsonEntries? es = some vs) {key : PyStr} (hw : lookup key es = some w) :
    ∃ u, json? w = some u := by
  induction es generalizing vs with
  | nil => cases hw
  | cons e es ih =>
    obtain ⟨k, j⟩ := e
    rw [jsonEntries?] at h
    obtain ⟨name, hname, h⟩ := Option.bind_eq_some_iff.mp h
    obtain ⟨v, hv, h⟩ := Option.bind_eq_some_iff.mp h
    obtain ⟨rest, hrest, -⟩ := Option.map_eq_some_iff.mp h
    rw [lookup] at hw
    split_ifs at hw with hkey
    · cases hw
      exact ⟨v, hv⟩
    · exact ih hrest hw

/-- A member of the document is the document of the member. -/
theorem get?_of_json? (h : json? j = some v) (key : String) : v.get? key = (j.get? key).bind json? := by
  cases j with
  | obj es =>
    rw [json?, Option.map_eq_some_iff] at h
    obtain ⟨vs, hvs, heq⟩ := h
    cases heq
    exact lookup_of_jsonEntries? hvs key
  | null | bool | int | float =>
    cases h
    rfl
  | str | arr =>
    rw [json?, Option.map_eq_some_iff] at h
    obtain ⟨_, -, heq⟩ := h
    cases heq
    rfl

lemma exists_member (h : json? j = some v) {key : String} (hw : j.get? key = some w) :
    ∃ u, json? w = some u ∧ v.get? key = some u := by
  have hget := get?_of_json? h key
  rw [hw, Option.bind_some] at hget
  cases j with
  | obj es =>
    rw [json?, Option.map_eq_some_iff] at h
    obtain ⟨vs, hvs, -⟩ := h
    obtain ⟨u, hu⟩ := json?_of_lookup hvs hw
    exact ⟨u, hu, hget.trans hu⟩
  | null | bool | int | float | str | arr => cases hw

/-- The same for a member that reads as null where it is absent. -/
lemma get_of_json? (h : json? j = some v) (key : String) : json? (j.get key) = some (v.get key) := by
  unfold get Json.get
  cases hw : j.get? key with
  | none =>
    rw [get?_of_json? h, hw]
    rfl
  | some w =>
    obtain ⟨u, hu, hget⟩ := exists_member h hw
    rw [hget]
    exact hu

lemma elements_of_json? (h : json? j = some v) :
    List.Forall₂ (fun j v => json? j = some v) j.elements v.items := by
  cases j with
  | arr js =>
    rw [json?, Option.map_eq_some_iff] at h
    obtain ⟨vs, hvs, heq⟩ := h
    cases heq
    exact forall₂_of_jsonItems? hvs
  | null | bool | int | float =>
    cases h
    exact .nil
  | str | obj =>
    rw [json?, Option.map_eq_some_iff] at h
    obtain ⟨_, -, heq⟩ := h
    cases heq
    exact .nil

end PyJson
end TrustLens
