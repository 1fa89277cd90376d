import Mathlib.Data.List.Infix
import Mathlib.Data.List.TakeWhile
import TrustLens.Loader.CheckedManifest

/-!
# Paths the loader admits

Which paths of a manifest pass the checks of the loader: the fixed members do, and of the others
exactly those that are named as rules are.
-/

namespace TrustLens.Loader

variable {rel : String}

/-! ### The fixed members -/

lemma admitted_fixed : ∀ p ∈ fixedMembers, safeResolve p = .ok () ∧ rejectUnexpectedMember p = .ok () := by
  have h : ∀ p ∈ fixedMembers, (safeResolve p).toOption = some () ∧
      (rejectUnexpectedMember p).toOption = some () := by decide +kernel
  exact fun p hp => ⟨eq_ok_of_toOption (h p hp).1, eq_ok_of_toOption (h p hp).2⟩

/-! ### The rules -/

/-- The characters of a rule's path. -/
def IsRuleChar (c : Char) : Prop :=
  c ∈ "rules/TL-.json".toList ∨ Schema.isUpper c = true ∨ PyText.isDigit c = true

/-- The path of a rule: the code of its family in capitals, and three digits. -/
structure RulePath (cs : List Char) : Prop where
  start : cs.take 9 = "rules/TL-".toList
  chars : ∀ c ∈ cs, IsRuleChar c

lemma rulePath_of_isRuleMember (h : isRuleMember rel = true)
    (hjson : ".json".toList.isSuffixOf rel.toList = true) : RulePath rel.toList := by
  rw [isRuleMember, Schema.anchored, Bool.or_eq_true] at h
  rcases h with h | h
  · simp only [Bool.and_eq_true, beq_iff_eq, decide_eq_true_eq, List.all_eq_true] at h
    obtain ⟨⟨⟨⟨⟨⟨hstart, -⟩, -⟩, hdash⟩, -⟩, hdigits⟩, hend⟩ := h
    set cs := rel.toList
    set rest := (cs.drop 9).dropWhile Schema.isUpper
    refine ⟨hstart, fun c hc => ?_⟩
    rw [← List.take_append_drop 9 cs, hstart, List.mem_append,
      ← List.takeWhile_append_dropWhile (p := Schema.isUpper) (l := cs.drop 9), List.mem_append] at hc
    rcases hc with hc | hc | hc
    · exact .inl (List.mem_append_left ".json".toList hc)
    · exact .inr (.inl (List.mem_takeWhile_imp hc))
    · change c ∈ rest at hc
      rw [← List.take_append_drop 4 rest, hend, List.mem_append] at hc
      rcases hc with hc | hc
      · obtain ⟨tail, htail⟩ : ∃ tail, rest = '-' :: tail := by
          cases hrest : rest with
          | nil =>
            rw [hrest] at hdash
            cases hdash
          | cons d tail =>
            rw [hrest] at hdash
            exact ⟨tail, by rw [Option.some.inj hdash]⟩
        rw [htail, List.drop_succ_cons, List.drop_zero] at hdigits
        rw [htail, List.take_succ_cons, List.mem_cons] at hc
        rcases hc with rfl | hc
        · exact .inl (by decide)
        · exact .inr (.inr (hdigits c hc))
      · exact .inl (List.mem_append_right "rules/TL-".toList hc)
  · rw [Bool.and_eq_true, beq_iff_eq] at h
    obtain ⟨hnewline, -⟩ := h
    obtain ⟨before, hbefore⟩ := List.isSuffixOf_iff_suffix.mp hjson
    rw [← hbefore, List.getLast?_append_of_ne_nil _ (by decide)] at hnewline
    exact absurd hnewline (by decide)

namespace RulePath

variable {cs : List Char}

lemma notMem (h : RulePath cs) {c : Char} (hc : ¬IsRuleChar c) : c ∉ cs := fun hmem => hc (h.chars c hmem)

/-- No member that is kept out of a bundle is named as a rule is. -/
lemma allowed (h : RulePath rel.toList) : disallowedSubstrings.any (PyText.isInfix · rel) = false := by
  have habsent : ∀ {needle : String} {c : Char}, c ∈ needle.toList → ¬IsRuleChar c →
      PyText.isInfix needle rel = false := by
    intro needle c hmem hc
    rw [PyText.isInfix, List.any_eq_false]
    intro t ht hstart
    have hsub := (List.isPrefixOf_iff_prefix.mp hstart).sublist.trans ((List.mem_tails t _).mp ht).sublist
    exact h.notMem hc (hsub.subset hmem)
  have hforeign : ¬IsRuleChar 'd' ∧ ¬IsRuleChar 'f' ∧ ¬IsRuleChar 'v' := by
    unfold IsRuleChar
    decide +kernel
  simp only [disallowedSubstrings, List.any_cons, List.any_nil, Bool.or_false, Bool.or_eq_false_iff]
  exact ⟨habsent (by decide) hforeign.1, habsent (by decide) hforeign.2.1,
    habsent (by decide) hforeign.2.2, habsent (by decide) hforeign.1, habsent (by decide) hforeign.1⟩

end RulePath

/-- A rule's path has two parts, and the second is none of the names for a directory. -/
lemma splitOn_rule {tail : List Char} (hflat : '/' ∉ tail) :
    ("rules/".toList ++ tail).splitOn '/' = ["rules".toList, tail] := by
  have hrules : ∀ c ∈ "rules".toList, (c == '/') = false := by simp
  have htail : ∀ c ∈ tail, (c == '/') = false := fun c hc => beq_false_of_ne fun h => hflat (h ▸ hc)
  show List.splitOn '/' ("rules".toList ++ '/' :: tail) = _
  rw [List.splitOn_eq_splitOnP,
    List.splitOnP_append_cons_of_forall_mem hrules '/' rfl, List.splitOnP_eq_singleton htail]

lemma normpath_rule {tail : List Char} (hflat : '/' ∉ tail) (hhead : tail.head? = some 'T') :
    normpath ("rules/".toList ++ tail) = "rules/".toList ++ tail := by
  have hne : ¬(tail = [] ∨ tail = ['.']) ∧ tail ≠ ['.', '.'] := by
    refine ⟨?_, ?_⟩
    · rintro (rfl | rfl) <;> cases hhead
    · rintro rfl
      cases hhead
  have hrules : ¬("rules".toList = [] ∨ "rules".toList = ['.']) ∧ "rules".toList ≠ ['.', '.'] := by
    decide
  rw [normpath, splitOn_rule hflat]
  simp only [List.foldl_cons, List.foldl_nil, if_neg hne.1, if_pos hne.2, if_neg hrules.1,
    if_pos hrules.2]
  simp [List.intercalate]

theorem safeResolve_rule {name : String} (h : RulePath ("rules/" ++ name).toList)
    (hflat : '/' ∉ name.toList) : safeResolve ("rules/" ++ name) = .ok () := by
  have htext : ("rules/" ++ name).toList = "rules/".toList ++ name.toList := String.toList_append
  have hhead : name.toList.head? = some 'T' := by
    have hstart := h.start
    rw [htext] at hstart
    cases hname : name.toList with
    | nil =>
      rw [hname] at hstart
      exact absurd hstart (by decide)
    | cons c tail =>
      rw [hname] at hstart
      exact congrArg (·[6]?) hstart
  have hforeign : ¬IsRuleChar '\x00' ∧ ¬IsRuleChar '\\' := by
    unfold IsRuleChar
    decide +kernel
  have hnul := h.notMem hforeign.1
  have hback := h.notMem hforeign.2
  have hdots : ['.', '.'] ∉ ("rules/".toList ++ name.toList).splitOn '/' := by
    rw [splitOn_rule hflat, List.mem_cons, List.mem_singleton, not_or]
    refine ⟨by decide, fun hdots => ?_⟩
    rw [← hdots] at hhead
    cases hhead
  have hallowed : ¬(allowedPrefixes.any fun p =>
      p.toList.isPrefixOf ("rules/".toList ++ name.toList)) = false := by
    rw [Bool.not_eq_false, List.any_eq_true]
    exact ⟨"rules/", by decide, List.isPrefixOf_iff_prefix.mpr (List.prefix_append _ _)⟩
  unfold safeResolve
  rw [htext] at hnul hback ⊢
  dsimp only
  rw [if_neg (not_or.mpr ⟨by simp, hnul⟩), if_neg (not_or.mpr ⟨by simp, hback⟩),
    if_neg (not_not.mpr (normpath_rule hflat hhead).symm), if_neg hdots, if_neg hallowed]

theorem rejectUnexpectedMember_rule {name : String} (h : isRuleMember ("rules/" ++ name) = true)
    (hjson : ".json".toList.isSuffixOf ("rules/" ++ name).toList = true) :
    rejectUnexpectedMember ("rules/" ++ name) = .ok () := by
  have hallowed := (rulePath_of_isRuleMember h hjson).allowed
  unfold rejectUnexpectedMember
  rw [if_neg (Bool.not_eq_false _ ▸ hjson), if_neg (Bool.not_eq_true _ ▸ hallowed), if_pos (.inr h)]

/-- No fixed member is below the directory of the rules. -/
lemma rule_notMem_fixedMembers (name : String) : "rules/" ++ name ∉ fixedMembers := by
  have hstart : ∀ p ∈ fixedMembers, "rules/".toList.isPrefixOf p.toList = false := by decide
  intro hmem
  have hrule : "rules/".toList.isPrefixOf ("rules/" ++ name).toList = true := by
    rw [String.toList_append]
    exact List.isPrefixOf_iff_prefix.mpr (List.prefix_append _ _)
  rw [hstart _ hmem] at hrule
  cases hrule

/-- What is admitted below the directory of the rules is named as a rule is. -/
theorem isRuleMember_of_rejectUnexpectedMember {name : String}
    (h : rejectUnexpectedMember ("rules/" ++ name) = .ok ()) :
    isRuleMember ("rules/" ++ name) = true := by
  obtain ⟨-, h⟩ := ok_of_guard h
  obtain ⟨-, h⟩ := ok_of_guard h
  split_ifs at h with hmember
  · exact hmember.resolve_left (rule_notMem_fixedMembers name)
  · cases h

/-! ### All members -/

/-- The paths of a manifest pass exactly where each does and none comes twice. -/
theorem checkPaths_ok_iff {seen : List String} {files : List FileEntry} :
    checkPaths seen files = .ok () ↔
      (∀ f ∈ files, safeResolve f.path = .ok () ∧ rejectUnexpectedMember f.path = .ok () ∧
        f.path ∉ seen) ∧ (files.map FileEntry.path).Nodup := by
  induction files generalizing seen with
  | nil => exact iff_of_true rfl ⟨nofun, List.nodup_nil⟩
  | cons f files ih =>
    rw [checkPaths, bind_unit_ok_iff, bind_unit_ok_iff, List.forall_mem_cons, List.map_cons,
      List.nodup_cons]
    have hstep : (if f.path ∈ seen then fail .UnsafePathError "UNSAFE_PATH" f.path
        else checkPaths (f.path :: seen) files) = .ok () ↔
        f.path ∉ seen ∧ checkPaths (f.path :: seen) files = .ok () := by
      split_ifs with hseen
      · exact iff_of_false nofun fun h => h.1 hseen
      · exact (and_iff_right hseen).symm
    rw [hstep, ih]
    constructor
    · rintro ⟨hresolve, hreject, hseen, hall, hnd⟩
      refine ⟨⟨⟨hresolve, hreject, hseen⟩, fun g hg => ?_⟩, fun hmem => ?_, hnd⟩
      · obtain ⟨hresolve, hreject, hnot⟩ := hall g hg
        exact ⟨hresolve, hreject, fun h => hnot (List.mem_cons_of_mem _ h)⟩
      · obtain ⟨g, hg, hpath⟩ := List.mem_map.mp hmem
        exact (hall g hg).2.2 (hpath ▸ List.mem_cons_self)
    · rintro ⟨⟨⟨hresolve, hreject, hseen⟩, hall⟩, hnew, hnd⟩
      refine ⟨hresolve, hreject, hseen, fun g hg => ?_, hnd⟩
      obtain ⟨hresolve, hreject, hnot⟩ := hall g hg
      refine ⟨hresolve, hreject, fun h => ?_⟩
      rcases List.mem_cons.mp h with hpath | h
      · exact hnew (hpath ▸ List.mem_map_of_mem hg)
      · exact hnot h

lemma exists_rule_of_checkRequired {m : Manifest} (h : checkRequired m = .ok ()) :
    ∃ p ∈ m.paths, "rules/".toList.isPrefixOf p.toList = true := by
  rw [checkRequired] at h
  cases hfind : List.find? (fun p => !m.paths.contains p)
      (requiredMembers ++ if m.wp6 = true then [actionPolicyMember] else []) with
  | some absent =>
    rw [hfind] at h
    cases h
  | none =>
    rw [hfind] at h
    obtain ⟨hany, -⟩ := ok_of_guard h
    rwa [Bool.not_eq_false, List.any_eq_true] at hany

end TrustLens.Loader
