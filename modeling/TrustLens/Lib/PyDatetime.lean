import Mathlib.Data.Nat.Digits.Defs
import Mathlib.Tactic.Linarith

/-!
# Python's `datetime` and its ISO 8601 text

The fields of a moment in the Gregorian calendar, the text `isoformat` writes of a moment in UTC,
and the texts `fromisoformat` reads: the extended and the basic format, week dates, any separator
between date and time, and zone offsets to the microsecond.
-/

namespace TrustLens.Py

/-! ### The calendar -/

def isLeap (year : ℕ) : Bool := year % 4 == 0 && (year % 100 != 0 || year % 400 == 0)

def daysInMonth (year month : ℕ) : ℕ :=
  if month = 2 then if isLeap year then 29 else 28
  else if month ∈ [4, 6, 9, 11] then 30
  else 31

def daysBeforeYear (year : ℕ) : ℕ := (year - 1) * 365 + (year - 1) / 4 - (year - 1) / 100 + (year - 1) / 400

def daysBeforeMonth (year month : ℕ) : ℕ := ((List.range (month - 1)).map fun m => daysInMonth year (m + 1)).sum

/-- `toordinal`: the first of January of the year 1 is day 1. -/
def ordinal (year month day : ℕ) : ℕ := daysBeforeYear year + daysBeforeMonth year month + day

/-- The fields of a `datetime`, without its zone. -/
structure DateTime where
  year : ℕ
  month : ℕ
  day : ℕ
  hour : ℕ
  minute : ℕ
  second : ℕ
  microsecond : ℕ
  year_bounds : 1 ≤ year ∧ year ≤ 9999
  month_bounds : 1 ≤ month ∧ month ≤ 12
  day_bounds : 1 ≤ day ∧ day ≤ daysInMonth year month
  clock_bounds : hour < 24 ∧ minute < 60 ∧ second < 60 ∧ microsecond < 1000000
deriving DecidableEq

namespace DateTime

/-- `datetime(…)`, none where it raises a `ValueError`. -/
def mk? (year month day hour minute second microsecond : ℕ) : Option DateTime :=
  if h : (1 ≤ year ∧ year ≤ 9999) ∧ (1 ≤ month ∧ month ≤ 12) ∧
      (1 ≤ day ∧ day ≤ daysInMonth year month) ∧
      (hour < 24 ∧ minute < 60 ∧ second < 60 ∧ microsecond < 1000000) then
    some ⟨year, month, day, hour, minute, second, microsecond, h.1, h.2.1, h.2.2.1, h.2.2.2⟩
  else none

/-- The microseconds up to a moment. -/
def micros (d : DateTime) : ℤ :=
  (((ordinal d.year d.month d.day * 24 + d.hour) * 60 + d.minute) * 60 + d.second) * 1000000 +
    d.microsecond

lemma mk?_self (d : DateTime) :
    mk? d.year d.month d.day d.hour d.minute d.second d.microsecond = some d :=
  dif_pos ⟨d.year_bounds, d.month_bounds, d.day_bounds, d.clock_bounds⟩

end DateTime

/-! ### Numbers of a fixed width -/

/-- `%0*d` of a number that fits. -/
def fixed : ℕ → ℕ → List Char
  | 0, _ => []
  | width + 1, n => fixed width (n / 10) ++ [Nat.digitChar (n % 10)]

def isAsciiDigit (c : Char) : Bool := '0' ≤ c && c ≤ '9'

def number (cs : List Char) : ℕ := cs.foldl (fun n c => 10 * n + (c.toNat - 48)) 0

/-- A number of exactly so many digits. -/
def digits? (width : ℕ) (cs : List Char) : Option ℕ :=
  if cs.length = width ∧ cs.all isAsciiDigit = true then some (number cs) else none

lemma digitChar_spec : ∀ n < 10, isAsciiDigit (Nat.digitChar n) = true ∧
    (Nat.digitChar n).toNat - 48 = n := by
  decide

lemma length_fixed (width n : ℕ) : (fixed width n).length = width := by
  induction width generalizing n with
  | zero => rfl
  | succ width ih => rw [fixed, List.length_append, ih, List.length_singleton]

lemma digit_of_mem_fixed (width n : ℕ) : ∀ c ∈ fixed width n, isAsciiDigit c = true := by
  induction width generalizing n with
  | zero => exact fun _ h => absurd h List.not_mem_nil
  | succ width ih =>
    intro c hc
    rcases List.mem_append.mp hc with hc | hc
    · exact ih _ c hc
    · rw [List.mem_singleton.mp hc]
      exact (digitChar_spec (n % 10) (Nat.mod_lt n (by decide))).1

lemma number_fixed {width n : ℕ} (h : n < 10 ^ width) : number (fixed width n) = n := by
  induction width generalizing n with
  | zero => exact (Nat.lt_one_iff.mp h).symm
  | succ width ih =>
    have hdigit := (digitChar_spec (n % 10) (Nat.mod_lt n (by decide))).2
    have hrest := ih (n := n / 10) (Nat.div_lt_of_lt_mul (by rw [← Nat.pow_succ']; exact h))
    rw [number] at hrest
    rw [fixed, number, List.foldl_append, hrest, List.foldl_cons, List.foldl_nil, hdigit]
    omega

lemma digits?_fixed {width n : ℕ} (h : n < 10 ^ width) : digits? width (fixed width n) = some n := by
  rw [digits?, if_pos ⟨length_fixed width n, List.all_eq_true.mpr (digit_of_mem_fixed width n)⟩,
    number_fixed h]

/-! ### Writing -/

def isoDate (d : DateTime) : List Char :=
  fixed 4 d.year ++ '-' :: (fixed 2 d.month ++ '-' :: fixed 2 d.day)

def isoClock (d : DateTime) : List Char :=
  fixed 2 d.hour ++ ':' :: (fixed 2 d.minute ++ ':' :: (fixed 2 d.second ++
    if d.microsecond = 0 then [] else '.' :: fixed 6 d.microsecond))

/-- The offset of UTC. -/
def utc : List Char := ['+', '0', '0', ':', '0', '0']

/-- `isoformat` of a moment in UTC. -/
def isoformat (d : DateTime) : List Char := isoDate d ++ 'T' :: (isoClock d ++ utc)

/-! ### Reading -/

/-- Where the date ends. -/
def findSeparator (cs : List Char) : Option ℕ :=
  let digitAt (i : ℕ) : Bool := (cs[i]?).any isAsciiDigit
  if cs.length < 7 then none
  else if cs.length = 7 then some 7
  else if cs[4]? = some '-' then
    if cs[5]? = some 'W' then
      if cs[8]? = some '-' then
        if cs.length = 9 then none else if digitAt 10 then some 8 else some 10
      else some 8
    else some 10
  else if cs[4]? = some 'W' then
    let stop := 7 + ((cs.drop 7).takeWhile isAsciiDigit).length
    if stop < 9 then some stop else if stop % 2 = 0 then some 7 else some 8
  else some 8

/-- `_ord2ymd` -/
def ofOrdinal (n : ℕ) : ℕ × ℕ × ℕ :=
  let n := n - 1
  let n400 := n / 146097
  let n := n % 146097
  let n100 := n / 36524
  let n := n % 36524
  let n4 := n / 1461
  let n := n % 1461
  let n1 := n / 365
  let n := n % 365
  let year := n400 * 400 + 1 + n100 * 100 + n4 * 4 + n1
  if n1 = 4 ∨ n100 = 4 then (year - 1, 12, 31)
  else
    let month := (n + 50) / 32
    if n < daysBeforeMonth year month then
      (year, month - 1, n - daysBeforeMonth year (month - 1) + 1)
    else (year, month, n - daysBeforeMonth year month + 1)

/-- `_isoweek_to_gregorian` -/
def ofWeek (year week day : ℕ) : Option (ℕ × ℕ × ℕ) :=
  let first := ordinal year 1 1
  let weekday := (first + 6) % 7
  let monday := if 3 < weekday then first - weekday + 7 else first - weekday
  let long := first % 7 = 4 ∨ first % 7 = 3 ∧ isLeap year = true
  if 1 ≤ year ∧ year ≤ 9999 ∧ 0 < week ∧ (week < 53 ∨ week = 53 ∧ long) ∧ 0 < day ∧ day < 8 then
    some (ofOrdinal (monday + (week - 1) * 7 + (day - 1)))
  else none

def readDate (cs : List Char) : Option (ℕ × ℕ × ℕ) := do
  let year ← digits? 4 (cs.take 4)
  let dashed := cs[4]? = some '-'
  let rest := if dashed then cs.drop 5 else cs.drop 4
  if rest.head? = some 'W' then do
    let week ← digits? 2 ((rest.drop 1).take 2)
    match rest.drop 3 with
    | [] => ofWeek year week 1
    | c :: cs =>
      if c = '-' ↔ dashed then do
        let day ← digits? 1 ((if dashed then cs else c :: cs).take 1)
        ofWeek year week day
      else none
  else do
    let month ← digits? 2 (rest.take 2)
    let after := rest.drop 2
    if after.head? = some '-' ↔ dashed then do
      let day ← digits? 2 ((if dashed then after.drop 1 else after).take 2)
      return (year, month, day)
    else none

/-- `HH[:?MM[:?SS[.f+]]]` -/
def readClock (cs : List Char) : Option (ℕ × ℕ × ℕ × ℕ) := do
  let hour ← digits? 2 (cs.take 2)
  match cs.drop 2 with
  | [] => return (hour, 0, 0, 0)
  | c :: rest => do
    let colons := c = ':'
    let rest := if colons then rest else c :: rest
    let minute ← digits? 2 (rest.take 2)
    match rest.drop 2 with
    | [] => return (hour, minute, 0, 0)
    | c :: rest =>
      if colons ∧ c ≠ ':' then none
      else do
        let rest := if colons then rest else c :: rest
        let second ← digits? 2 (rest.take 2)
        match rest.drop 2 with
        | [] => return (hour, minute, second, 0)
        | c :: fraction =>
          let used := fraction.take 6
          if (c = '.' ∨ c = ',') ∧ used ≠ [] ∧ fraction.all isAsciiDigit = true then
            return (hour, minute, second, number used * 10 ^ (6 - used.length))
          else none

/-- The microseconds of a day. -/
def dayMicros : ℤ := 24 * 60 * 60 * 1000000

/-- The offset of a zone in microseconds, where there is one. -/
def readZone (cs : List Char) : Option (Option ℤ) :=
  match cs with
  | [] => some none
  | sign :: rest =>
    if sign = 'Z' then if rest = [] then some (some 0) else none
    else if rest.length ∈ [0, 1, 3] then none
    else do
      let (hour, minute, second, micro) ← readClock rest
      let offset : ℤ := ((hour * 60 + minute) * 60 + second) * 1000000 + micro
      if offset < dayMicros then some (some (if sign = '-' then -offset else offset)) else none

def startsZone (c : Char) : Bool := c == '+' || c == '-' || c == 'Z'

/-- The clock and the zone. -/
def readTime (cs : List Char) : Option ((ℕ × ℕ × ℕ × ℕ) × Option ℤ) := do
  let time ← readClock (cs.takeWhile fun c => !startsZone c)
  let zone ← readZone (cs.dropWhile fun c => !startsZone c)
  return (time, zone)

/-- `datetime.fromisoformat` of a text, none where it raises a `ValueError`. -/
def fromisoformat (cs : List Char) : Option (DateTime × Option ℤ) := do
  let stop ← findSeparator cs
  let (year, month, day) ← readDate (cs.take stop)
  let rest := cs.drop (stop + 1)
  let ((hour, minute, second, micro), zone) ←
    if rest = [] then some ((0, 0, 0, 0), none) else readTime rest
  let d ← DateTime.mk? year month day hour minute second micro
  return (d, zone)

example : (fromisoformat "2026-W01-4 08:30:00,25-05:30".toList).map
    (fun p => p.1.micros - p.2.getD 0) =
      (fromisoformat "20260101T140000.250Z".toList).map fun p => p.1.micros - p.2.getD 0 := by
  decide +kernel

/-! ### Round trip -/

lemma exists_two {n : ℕ} (h : n < 100) : ∃ a b, fixed 2 n = [a, b] ∧ digits? 2 [a, b] = some n ∧
    isAsciiDigit a = true ∧ isAsciiDigit b = true :=
  ⟨_, _, rfl, (digits?_fixed h : digits? 2 (fixed 2 n) = some n), digit_of_mem_fixed 2 n _ List.mem_cons_self,
    digit_of_mem_fixed 2 n _ (List.mem_cons_of_mem _ List.mem_cons_self)⟩

lemma exists_four {n : ℕ} (h : n < 10000) :
    ∃ a b c e, fixed 4 n = [a, b, c, e] ∧ digits? 4 [a, b, c, e] = some n :=
  ⟨_, _, _, _, rfl, (digits?_fixed h : digits? 4 (fixed 4 n) = some n)⟩

lemma ne_of_digit {c e : Char} (h : isAsciiDigit c = true) (he : isAsciiDigit e = false) : c ≠ e := by
  rintro rfl
  rw [h] at he
  cases he

lemma month_lt (d : DateTime) : d.month < 100 := d.month_bounds.2.trans_lt (by decide)

lemma day_lt (d : DateTime) : d.day < 100 := by
  have hlong : daysInMonth d.year d.month ≤ 31 := by
    unfold daysInMonth
    split_ifs <;> decide
  have := d.day_bounds.2
  omega

lemma length_isoDate (d : DateTime) : (isoDate d).length = 10 := by
  simp only [isoDate, List.length_append, List.length_cons, length_fixed]

lemma length_isoformat_le (d : DateTime) : (isoformat d).length ≤ 32 := by
  by_cases hzero : d.microsecond = 0 <;>
    simp [isoformat, isoClock, utc, length_isoDate, length_fixed, hzero]

lemma findSeparator_isoDate (d : DateTime) {rest : List Char} (h : rest ≠ []) :
    findSeparator (isoDate d ++ rest) = some 10 := by
  obtain ⟨a, b, c, e, hyear, -⟩ := exists_four (n := d.year) (d.year_bounds.2.trans_lt (by decide))
  obtain ⟨m, m', hmonth, -, hm, -⟩ := exists_two (month_lt d)
  have hlen : 10 < (isoDate d ++ rest).length := by
    rw [List.length_append, length_isoDate]
    exact Nat.lt_add_of_pos_right (List.length_pos_iff.mpr h)
  have h4 : (isoDate d ++ rest)[4]? = some '-' := by
    rw [isoDate, hyear]
    rfl
  have h5 : (isoDate d ++ rest)[5]? = some m := by
    rw [isoDate, hyear, hmonth]
    rfl
  have hweek : some m ≠ some 'W' := fun hw => ne_of_digit hm (by decide) (Option.some.inj hw)
  simp only [findSeparator, if_neg (show ¬(isoDate d ++ rest).length < 7 by omega),
    if_neg (show ¬(isoDate d ++ rest).length = 7 by omega), h4, h5, if_true, if_neg hweek]

lemma readDate_isoDate (d : DateTime) : readDate (isoDate d) = some (d.year, d.month, d.day) := by
  obtain ⟨a, b, c, e, hyear, hy⟩ := exists_four (n := d.year) (d.year_bounds.2.trans_lt (by decide))
  obtain ⟨m, m', hmonth, hm, hdigit, -⟩ := exists_two (month_lt d)
  obtain ⟨x, x', hday, hx, -⟩ := exists_two (day_lt d)
  have hweek : some m ≠ some 'W' := fun hw => ne_of_digit hdigit (by decide) (Option.some.inj hw)
  rw [isoDate, hyear, hmonth, hday]
  simp [readDate, hy, hm, hx, hweek]

lemma readClock_isoClock (d : DateTime) :
    readClock (isoClock d) = some (d.hour, d.minute, d.second, d.microsecond) := by
  obtain ⟨hhour, hminute, hsecond, hmicro⟩ := d.clock_bounds
  obtain ⟨h, h', hh, hhour, -⟩ := exists_two (n := d.hour) (by omega)
  obtain ⟨m, m', hm, hminute, -⟩ := exists_two (n := d.minute) (by omega)
  obtain ⟨s, s', hs, hsecond, -⟩ := exists_two (n := d.second) (by omega)
  rw [isoClock, hh, hm, hs]
  by_cases hzero : d.microsecond = 0
  · simp [readClock, hzero, hhour, hminute, hsecond]
  · have hall : (fixed 6 d.microsecond).all isAsciiDigit = true :=
      List.all_eq_true.mpr (digit_of_mem_fixed 6 d.microsecond)
    have htake : (fixed 6 d.microsecond).take 6 = fixed 6 d.microsecond :=
      List.take_of_length_le (length_fixed 6 _).le
    have hne : fixed 6 d.microsecond ≠ [] :=
      List.ne_nil_of_length_pos (by rw [length_fixed]; decide)
    have hnumber : number (fixed 6 d.microsecond) = d.microsecond := number_fixed hmicro
    simp only [readClock, if_neg hzero, List.cons_append, List.nil_append, List.take_succ_cons,
      List.take_zero, List.drop_succ_cons, List.drop_zero, hhour, hminute, hsecond, hall, htake,
      length_fixed, hnumber, hne, Option.bind_eq_bind, Option.bind_some, if_true, ne_eq,
      not_true_eq_false, not_false_eq_true, and_self, and_false, true_or, if_false]
    simp

lemma not_startsZone_of_digit {c : Char} (h : isAsciiDigit c = true) : (!startsZone c) = true := by
  simp [startsZone, ne_of_digit h (show isAsciiDigit '+' = false by decide),
    ne_of_digit h (show isAsciiDigit '-' = false by decide),
    ne_of_digit h (show isAsciiDigit 'Z' = false by decide)]

lemma not_startsZone_of_mem (d : DateTime) : ∀ c ∈ isoClock d, (!startsZone c) = true := by
  have hdigit : ∀ width n, ∀ c ∈ fixed width n, (!startsZone c) = true :=
    fun width n c hc => not_startsZone_of_digit (digit_of_mem_fixed width n c hc)
  intro c hc
  simp only [isoClock, List.mem_append, List.mem_cons, List.mem_ite_nil_left] at hc
  rcases hc with hc | rfl | hc | rfl | hc | ⟨-, rfl | hc⟩
  · exact hdigit _ _ c hc
  · decide
  · exact hdigit _ _ c hc
  · decide
  · exact hdigit _ _ c hc
  · decide
  · exact hdigit _ _ c hc

lemma readZone_utc : readZone utc = some (some 0) := by decide +kernel

lemma readTime_isoClock (d : DateTime) : readTime (isoClock d ++ utc) =
    some ((d.hour, d.minute, d.second, d.microsecond), some 0) := by
  have htake : (isoClock d ++ utc).takeWhile (fun c => !startsZone c) = isoClock d := by
    rw [List.takeWhile_append_of_pos (not_startsZone_of_mem d)]
    exact List.append_nil _
  have hdrop : (isoClock d ++ utc).dropWhile (fun c => !startsZone c) = utc :=
    List.dropWhile_append_of_pos (not_startsZone_of_mem d)
  rw [readTime, htake, hdrop, readClock_isoClock, readZone_utc]
  rfl

/-- The text of a moment is read as that moment. -/
theorem fromisoformat_isoformat (d : DateTime) : fromisoformat (isoformat d) = some (d, some 0) := by
  have hdate : (isoformat d).take 10 = isoDate d := by
    rw [isoformat, List.take_left' (length_isoDate d)]
  have hrest : (isoformat d).drop (10 + 1) = isoClock d ++ utc := by
    rw [isoformat, ← List.drop_drop, List.drop_left' (length_isoDate d)]
    rfl
  have hne : isoClock d ++ utc ≠ [] := List.append_ne_nil_of_right_ne_nil _ (List.cons_ne_nil _ _)
  have hsep : findSeparator (isoformat d) = some 10 := findSeparator_isoDate d (List.cons_ne_nil _ _)
  simp only [fromisoformat, hsep, Option.bind_eq_bind, Option.bind_some, hdate, hrest,
    readDate_isoDate, if_neg hne, readTime_isoClock, DateTime.mk?_self]
  rfl

end TrustLens.Py
