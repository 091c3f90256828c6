/-
AgentPlatform/Py/Isoformat.lean

`datetime.fromisoformat`, after the reference implementation of the `datetime`
module: the separator between date and time is found first, the date is a
calendar or a week date with or without dashes, the time has one to three
components and a fraction of any length (six digits of it count), and an offset
may follow. Digits are the ten of ASCII. Failure is the `ValueError`.

Main result: what `isoformat` writes is read back with offset zero
(`fromisoformat_isoformat`). It rests on the calendar: the date computed from a
day number is a date and has that day number (`dayOfYmd_ymdOfDay`).
-/
import AgentPlatform.Py.Datetime
import AgentPlatform.Py.Json

namespace Py
namespace Datetime

/-! ### Day numbers -/

def isLeap (year : Nat) : Bool := year % 4 = 0 && (year % 100 ≠ 0 || year % 400 = 0)

def daysBeforeYear (year : Nat) : Nat :=
  let y := year - 1
  y * 365 + y / 4 - y / 100 + y / 400

def monthLength (leap : Bool) (month : Nat) : Nat :=
  daysInMonth month + (if month = 2 ∧ leap then 1 else 0)

/-- The days of a year before a month. -/
def daysBefore (leap : Bool) (month : Nat) : Nat :=
  daysBeforeMonth month + (if 2 < month ∧ leap then 1 else 0)

/-- The number of a day, counted from 0001-01-01. -/
def dayOfYmd (year month day : Nat) : Nat :=
  daysBeforeYear year + daysBefore (isLeap year) month + (day - 1)

/-- Year, month and day of a calendar date. -/
def IsDate (year month day : Nat) : Prop :=
  1 ≤ year ∧ year ≤ 9999 ∧ 1 ≤ month ∧ month ≤ 12 ∧ 1 ≤ day ∧ day ≤ monthLength (isLeap year) month

instance (year month day : Nat) : Decidable (IsDate year month day) :=
  inferInstanceAs (Decidable (_ ∧ _))

/-- The day number of a week date: a year, a week of it and a day of the week. -/
def dayOfWeek (year week day : Nat) : Option Nat :=
  let first := daysBeforeYear year + 1
  let weekday := (first + 6) % 7
  let monday := first - weekday + (if 3 < weekday then 7 else 0)
  let long := first % 7 = 4 ∨ (first % 7 = 3 ∧ isLeap year)
  let number := monday + (week - 1) * 7 + (day - 1) - 1
  if 1 ≤ year ∧ year ≤ 9999 ∧ 0 < week ∧ (week < 53 ∨ (week = 53 ∧ long)) ∧ 0 < day ∧ day < 8 ∧
      number < 3652059 then some number
  else none

/-! ### Reading -/

/-- `n` digits and nothing else. -/
def number (n : Nat) (cs : List Char) : Option Nat :=
  if cs.length = n ∧ cs.all Char.isDigit then some (Nat.ofDigitChars 10 cs 0) else none

/-- `_find_isoformat_datetime_separator`. -/
def separatorLocation (s : List Char) : Option Nat :=
  if s.length = 7 then some 7
  else if s[4]? = some '-' then
    if s[5]? = some 'W' then
      if 8 < s.length ∧ s[8]? = some '-' then
        if s.length = 9 then none
        else if s[10]?.any Char.isDigit then some 8
        else some 10
      else some 8
    else some 10
  else if s[4]? = some 'W' then
    let idx := 7 + ((s.drop 7).takeWhile Char.isDigit).length
    if idx < 9 then some idx
    else if idx % 2 = 0 then some 7
    else some 8
  else some 8

/-- `_parse_isoformat_date`, as a day number. -/
def readDate (s : List Char) : Option Nat := do
  let year ← number 4 (s.take 4)
  let dashed := decide ((s.drop 4).head? = some '-')
  let dash := fun r : List Char => if dashed then r.drop 1 else r
  let r := dash (s.drop 4)
  if r.head? = some 'W' then do
    let week ← number 2 ((r.drop 1).take 2)
    let r := r.drop 3
    if r = [] then dayOfWeek year week 1
    else if decide (r.head? = some '-') ≠ dashed then none
    else do
      let day ← number 1 ((dash r).take 1)
      dayOfWeek year week day
  else do
    let month ← number 2 (r.take 2)
    let r := r.drop 2
    if decide (r.head? = some '-') ≠ dashed then none
    else do
      let day ← number 2 ((dash r).take 2)
      if IsDate year month day then some (dayOfYmd year month day) else none

/-- Up to `k` components of two digits, with a colon between them or not; the
rest follows the last one. -/
def readComponents (colons : Bool) : Nat → List Char → Option (List Nat × List Char)
  | 0, s => some ([], s)
  | k + 1, s => do
    let v ← number 2 (s.take 2)
    match k, s.drop 2 with
    | 0, r => some ([v], r)
    | _ + 1, [] => some ([v], [])
    | k + 1, c :: r =>
      if colons then
        if c = ':' then (readComponents colons (k + 1) r).map fun p => (v :: p.1, p.2) else none
      else (readComponents colons (k + 1) (c :: r)).map fun p => (v :: p.1, p.2)

/-- The fraction of a second in microseconds. -/
def readFraction : List Char → Option Nat
  | [] => some 0
  | c :: r =>
    let count := min 6 r.length
    if (c = '.' ∨ c = ',') ∧ 0 < count ∧ (r.drop count).all Char.isDigit then
      (number count (r.take count)).map (· * 10 ^ (6 - count))
    else none

/-- `_parse_hh_mm_ss_ff`: hours, minutes, seconds and microseconds. -/
def readClock (s : List Char) : Option (Nat × Nat × Nat × Nat) := do
  let (comps, r) ← readComponents (s[2]? = some ':') 3 s
  let micros ← readFraction r
  some (comps.getD 0 0, comps.getD 1 0, comps.getD 2 0, micros)

/-- The text before and after the first `c`. -/
def cut (c : Char) (s : List Char) : Option (List Char × List Char) :=
  if c ∈ s then some (s.takeWhile (· ≠ c), (s.dropWhile (· ≠ c)).drop 1) else none

def microsOf (hours minutes seconds micros : Nat) : Nat :=
  ((hours * 60 + minutes) * 60 + seconds) * 1000000 + micros

def microsPerDay : Nat := 86400 * 1000000

/-- The offset an ISO text ends with, after its sign. -/
def readOffset (positive : Bool) (s : List Char) : Option Int := do
  if s.length ∈ [0, 1, 3] then none
  else do
    let (hours, minutes, seconds, micros) ← readClock s
    let offset := microsOf hours minutes seconds micros
    if offset < microsPerDay then some (if positive then offset else -offset) else none

/-- `_parse_isoformat_time`: the time of day and the offset in microseconds. A
dash is looked for first, then a plus, then a `Z`, which must end the text. -/
def readTime (s : List Char) : Option (Nat × Option Int) := do
  let (clock, offset) ←
    match cut '-' s with
    | some (clock, zone) => (readOffset false zone).map fun o => (clock, some o)
    | none =>
      match cut '+' s with
      | some (clock, zone) => (readOffset true zone).map fun o => (clock, some o)
      | none =>
        match cut 'Z' s with
        | some (clock, []) => some (clock, some 0)
        | some (clock, zone) => (readOffset true zone).map fun o => (clock, some o)
        | none => some (s, none)
  let (hours, minutes, seconds, micros) ← readClock clock
  if hours < 24 ∧ minutes < 60 ∧ seconds < 60 then
    some (microsOf hours minutes seconds micros, offset)
  else none

end Datetime

/-- A datetime as written: the local clock in microseconds since 0001-01-01, and
the offset from UTC of an aware one. -/
structure LocalDatetime where
  micros : Nat
  offset : Option Int
  deriving DecidableEq

namespace Datetime

def fromisoformat (text : String) : Option LocalDatetime := do
  let s := text.toList
  if s.length < 7 then none
  else do
    let sep ← separatorLocation s
    let day ← readDate (s.take sep)
    let (time, offset) ←
      match s.drop (sep + 1) with
      | [] => some (0, none)
      | r => readTime r
    some ⟨day * microsPerDay + time, offset⟩

example : fromisoformat "2024-02-29T12:30:15.5+01:00"
    = some ⟨dayOfYmd 2024 2 29 * microsPerDay + microsOf 12 30 15 500000, some (3600 * 1000000)⟩ := by
  decide +kernel

example : fromisoformat "2020W537T00" = fromisoformat "20210103T0000" := by decide +kernel

/-! ### The calendar -/

theorem divMod_of_eq {n m k r : Nat} (hn : n = k * m + r) (hr : r < m) :
    n / m = k ∧ n % m = r := by
  have hm : 0 < m := Nat.zero_lt_of_lt hr
  rw [Nat.div_mod_unique hm, hn, Nat.mul_comm]
  exact ⟨Nat.add_comm _ _, hr⟩

/-- The first day of a year in terms of its position in the cycles of 400, 100
and 4 years. -/
theorem daysBeforeYear_cycles {a b c d : Nat} (hb : b < 4) (hc : c < 25) (hd : d < 4) :
    daysBeforeYear (a * 400 + 1 + b * 100 + c * 4 + d)
      = a * 146097 + b * 36524 + c * 1461 + d * 365 := by
  have h4 : (a * 400 + b * 100 + c * 4 + d) / 4 = a * 100 + b * 25 + c := by omega
  have h100 : (a * 400 + b * 100 + c * 4 + d) / 100 = a * 4 + b := by omega
  have h400 : (a * 400 + b * 100 + c * 4 + d) / 400 = a := by omega
  have hy : a * 400 + 1 + b * 100 + c * 4 + d - 1 = a * 400 + b * 100 + c * 4 + d := by omega
  rw [daysBeforeYear, hy, h4, h100, h400]
  omega

theorem isLeap_cycles {a b c d : Nat} (hb : b < 4) (hc : c < 25) (hd : d < 4) :
    isLeap (a * 400 + 1 + b * 100 + c * 4 + d) = decide (d = 3 ∧ (c ≠ 24 ∨ b = 3)) := by
  rw [isLeap, Bool.eq_iff_iff]
  simp only [Bool.and_eq_true, Bool.or_eq_true, decide_eq_true_eq]
  omega

/-- The month and the day within a year, for a common and for a leap year. -/
theorem month_of_day (leap : Bool) (day : Fin 366) (h : leap = false → day.val < 365) :
    let month := (day.val + 50) / 32
    let preceding := daysBefore leap month
    if day.val < preceding then
      1 ≤ month - 1 ∧ month - 1 ≤ 12 ∧
        preceding - monthLength leap (month - 1) = daysBefore leap (month - 1) ∧
        daysBefore leap (month - 1) ≤ day.val ∧
        day.val - daysBefore leap (month - 1) + 1 ≤ monthLength leap (month - 1)
    else 1 ≤ month ∧ month ≤ 12 ∧ day.val - preceding + 1 ≤ monthLength leap month := by
  revert leap day
  decide +kernel

/-- The date of a day, given its position in the cycles. -/
theorem ymdOfDay_cycles {n a b c d day : Nat} (hb : b < 4) (hc : c < 25) (hd : d < 4)
    (hday : day < 365 ∨ (day = 365 ∧ d = 3 ∧ (c ≠ 24 ∨ b = 3)))
    (hn : n = a * 146097 + b * 36524 + c * 1461 + d * 365 + day) :
    ∃ month dayOfMonth, ymdOfDay n
        = (a * 400 + 1 + b * 100 + c * 4 + d, month, dayOfMonth) ∧
      1 ≤ month ∧ month ≤ 12 ∧ 1 ≤ dayOfMonth ∧
      dayOfMonth ≤ monthLength (decide (d = 3 ∧ (c ≠ 24 ∨ b = 3))) month ∧
      daysBefore (decide (d = 3 ∧ (c ≠ 24 ∨ b = 3))) month + (dayOfMonth - 1) = day := by
  rcases hday with hday | ⟨rfl, rfl, hleap⟩
  · obtain ⟨h400, r400⟩ : n / 146097 = a ∧ n % 146097 = b * 36524 + c * 1461 + d * 365 + day :=
      divMod_of_eq (hn.trans (by ring)) (by omega)
    obtain ⟨h100, r100⟩ : (b * 36524 + c * 1461 + d * 365 + day) / 36524 = b ∧
        (b * 36524 + c * 1461 + d * 365 + day) % 36524 = c * 1461 + d * 365 + day :=
      divMod_of_eq (by omega) (by omega)
    obtain ⟨h4, r4⟩ : (c * 1461 + d * 365 + day) / 1461 = c ∧
        (c * 1461 + d * 365 + day) % 1461 = d * 365 + day :=
      divMod_of_eq (by omega) (by omega)
    obtain ⟨h1, r1⟩ : (d * 365 + day) / 365 = d ∧ (d * 365 + day) % 365 = day :=
      divMod_of_eq (by omega) (by omega)
    have hnot : ¬(d = 4 ∨ b = 4) := by omega
    set leap := decide (d = 3 ∧ (c ≠ 24 ∨ b = 3)) with hl
    have hm := month_of_day leap ⟨day, by omega⟩ (fun _ => hday)
    unfold ymdOfDay
    simp only [h400, r400, h100, r100, h4, r4, h1, r1, if_neg hnot, ← hl]
    simp only at hm
    by_cases hlt : day < daysBefore leap ((day + 50) / 32)
    · rw [if_pos hlt] at hm
      obtain ⟨hm1, hm2, hprec, hle, hlen⟩ := hm
      refine ⟨(day + 50) / 32 - 1, day - daysBefore leap ((day + 50) / 32 - 1) + 1, ?_, hm1, hm2,
        by omega, hlen, by omega⟩
      rw [← hprec]
      exact if_pos hlt
    · rw [if_neg hlt] at hm
      obtain ⟨hm1, hm2, hlen⟩ := hm
      exact ⟨(day + 50) / 32, day - daysBefore leap ((day + 50) / 32) + 1, if_neg hlt, hm1, hm2,
        by omega, hlen, by omega⟩
  · -- the last day of a leap year
    refine ⟨12, 31, ?_, by decide, by decide, by decide, ?_, ?_⟩
    · by_cases hlast : c = 24 ∧ b = 3
      · obtain ⟨rfl, rfl⟩ := hlast
        obtain ⟨h400, r400⟩ : n / 146097 = a ∧ n % 146097 = 146096 :=
          divMod_of_eq (hn.trans (by ring)) (by omega)
        simp only [ymdOfDay, h400, r400]
        rw [if_pos (.inr (by decide)), Prod.mk.injEq]
        exact ⟨by omega, rfl⟩
      · obtain ⟨h400, r400⟩ : n / 146097 = a ∧ n % 146097 = b * 36524 + (c * 1461 + 1460) :=
          divMod_of_eq (hn.trans (by ring)) (by omega)
        obtain ⟨h100, r100⟩ : (b * 36524 + (c * 1461 + 1460)) / 36524 = b ∧
            (b * 36524 + (c * 1461 + 1460)) % 36524 = c * 1461 + 1460 :=
          divMod_of_eq (by omega) (by omega)
        obtain ⟨h4, r4⟩ : (c * 1461 + 1460) / 1461 = c ∧ (c * 1461 + 1460) % 1461 = 1460 :=
          divMod_of_eq (by omega) (by omega)
        simp only [ymdOfDay, h400, r400, h100, r100, h4, r4]
        rw [if_pos (.inl (by decide)), Prod.mk.injEq]
        exact ⟨by omega, rfl⟩
    · rw [decide_eq_true ⟨rfl, hleap⟩]
      decide
    · rw [decide_eq_true ⟨rfl, hleap⟩]
      decide

/-- **The date of a day is a date with that day number.** -/
theorem dayOfYmd_ymdOfDay {n : Nat} (h : n < 3652059) :
    ∃ year month day, ymdOfDay n = (year, month, day) ∧ IsDate year month day ∧
      dayOfYmd year month day = n := by
  obtain ⟨a, b, c, d, day, hb, hc, hd, hday, hn⟩ : ∃ a b c d day, b < 4 ∧ c < 25 ∧ d < 4 ∧
      (day < 365 ∨ (day = 365 ∧ d = 3 ∧ (c ≠ 24 ∨ b = 3))) ∧
      n = a * 146097 + b * 36524 + c * 1461 + d * 365 + day := by
    by_cases h100 : n % 146097 / 36524 = 4
    · exact ⟨n / 146097, 3, 24, 3, 365, by omega⟩
    · by_cases h1 : n % 146097 % 36524 % 1461 / 365 = 4
      · exact ⟨n / 146097, n % 146097 / 36524, n % 146097 % 36524 / 1461, 3, 365, by omega⟩
      · exact ⟨n / 146097, n % 146097 / 36524, n % 146097 % 36524 / 1461,
          n % 146097 % 36524 % 1461 / 365, n % 146097 % 36524 % 1461 % 365, by omega⟩
  obtain ⟨month, dayOfMonth, hymd, hm1, hm2, hd1, hd2, hsum⟩ := ymdOfDay_cycles hb hc hd hday hn
  refine ⟨_, month, dayOfMonth, hymd, ⟨by omega, by omega, hm1, hm2, hd1, ?_⟩, ?_⟩
  · rw [isLeap_cycles hb hc hd]
    exact hd2
  · rw [dayOfYmd, isLeap_cycles hb hc hd, daysBeforeYear_cycles hb hc hd]
    omega

/-! ### Reading back -/

theorem padded_length {k n : Nat} (hk : 0 < k) (h : n < 10 ^ k) : (padded k n).toList.length = k := by
  have hlen : (Nat.toDigits 10 n).length ≤ k := (Nat.length_toDigits_le_iff (by decide) hk).mpr h
  simp only [padded, String.toList_append, String.toList_ofList, Nat.toList_repr,
    List.length_append, List.length_replicate, ← String.length_toList]
  omega

/-- A padded number is read back. -/
theorem number_padded {k n : Nat} (hk : 0 < k) (h : n < 10 ^ k) :
    number k (padded k n).toList = some n := by
  have hdigits : (padded k n).toList.all Char.isDigit = true :=
    List.all_eq_true.mpr (padded_isDigit k n)
  rw [number, if_pos ⟨padded_length hk h, hdigits⟩]
  simp only [padded, String.toList_append, String.toList_ofList, Nat.toList_repr,
    Nat.ofDigitChars_append, Nat.ofDigitChars_replicate_zero, Nat.mul_zero,
    Nat.ofDigitChars_ten_toDigits]

theorem cut_of_notMem {c : Char} {l : List Char} (h : c ∉ l) : cut c l = none := by
  rw [cut, if_neg h]

theorem cut_append {c : Char} {l : List Char} (h : c ∉ l) (r : List Char) :
    cut c (l ++ c :: r) = some (l, r) := by
  have hl : ∀ x ∈ l, decide (x ≠ c) = true := by
    intro x hx
    simp only [decide_eq_true_eq]
    rintro rfl
    exact h hx
  rw [cut, if_pos (by simp), List.takeWhile_append_of_pos hl, List.dropWhile_append_of_pos hl]
  simp

/-- What is cut is put together again. -/
theorem append_of_cut {c : Char} {s l r : List Char} (h : cut c s = some (l, r)) :
    s = l ++ c :: r := by
  rw [cut] at h
  split at h
  · next hmem =>
    obtain ⟨rfl, rfl⟩ := Prod.mk.inj (Option.some.inj h)
    cases hrest : s.dropWhile (· ≠ c) with
    | nil =>
      have hnil := List.dropWhile_eq_nil_iff.mp hrest c hmem
      simp at hnil
    | cons x xs =>
      have hx : x = c := by
        have hhead := List.head?_dropWhile_not (fun x => decide (x ≠ c)) s
        rw [hrest] at hhead
        simpa using hhead
      rw [List.drop_one, List.tail_cons, ← hx, ← hrest, hx, List.takeWhile_append_dropWhile]
  · cases h

theorem readFraction_padded {n : Nat} (h : n < 1000000) :
    readFraction ('.' :: (padded 6 n).toList) = some n := by
  have hlen : (padded 6 n).toList.length = 6 := padded_length (by decide) h
  have hnumber : number 6 (padded 6 n).toList = some n := number_padded (by decide) h
  generalize (padded 6 n).toList = digits at hlen hnumber ⊢
  have hdrop : digits.drop 6 = [] := List.drop_eq_nil_of_le (by omega)
  have htake : digits.take 6 = digits := List.take_of_length_le (by omega)
  rw [readFraction, hlen]
  simp only [Nat.min_self]
  rw [hdrop, htake, if_pos (by decide), hnumber]
  simp

/-- The clock of a text, with or without a fraction. -/
def clockText (hours minutes seconds micros : Nat) : List Char :=
  (padded 2 hours).toList ++ ':' :: ((padded 2 minutes).toList ++ ':' ::
    ((padded 2 seconds).toList ++ (if micros = 0 then [] else '.' :: (padded 6 micros).toList)))

theorem readClock_clockText {hours minutes seconds micros : Nat} (hh : hours < 100)
    (hm : minutes < 100) (hs : seconds < 100) (hf : micros < 1000000) :
    readClock (clockText hours minutes seconds micros) = some (hours, minutes, seconds, micros) := by
  have h₁ := padded_length (k := 2) (by decide) hh
  have h₂ := padded_length (k := 2) (by decide) hm
  have h₃ := padded_length (k := 2) (by decide) hs
  have n₁ := number_padded (k := 2) (by decide) hh
  have n₂ := number_padded (k := 2) (by decide) hm
  have n₃ := number_padded (k := 2) (by decide) hs
  have hfraction : readFraction (if micros = 0 then [] else '.' :: (padded 6 micros).toList)
      = some micros := by
    split
    · next h =>
      rw [h]
      rfl
    · exact readFraction_padded hf
  unfold clockText
  generalize (if micros = 0 then [] else '.' :: (padded 6 micros).toList) = fraction at hfraction ⊢
  obtain ⟨a, b, hab⟩ := List.length_eq_two.mp h₁
  obtain ⟨c, d, hcd⟩ := List.length_eq_two.mp h₂
  obtain ⟨e, f, hef⟩ := List.length_eq_two.mp h₃
  rw [hab] at n₁ ⊢
  rw [hcd] at n₂ ⊢
  rw [hef] at n₃ ⊢
  simp [readClock, readComponents, n₁, n₂, n₃, hfraction]

theorem clockText_chars (hours minutes seconds micros : Nat) :
    ∀ c ∈ clockText hours minutes seconds micros, c.isDigit = true ∨ c ∈ [':', '.'] := by
  intro c hc
  simp only [clockText, List.mem_append, List.mem_cons] at hc
  rcases hc with hc | rfl | hc | rfl | hc | hc
  · exact .inl (padded_isDigit _ _ c hc)
  · exact .inr (by decide)
  · exact .inl (padded_isDigit _ _ c hc)
  · exact .inr (by decide)
  · exact .inl (padded_isDigit _ _ c hc)
  · split at hc
    · cases hc
    · rcases List.mem_cons.mp hc with rfl | hc
      · exact .inr (by decide)
      · exact .inl (padded_isDigit _ _ c hc)

theorem readTime_clockText {hours minutes seconds micros : Nat} (hh : hours < 24)
    (hm : minutes < 60) (hs : seconds < 60) (hf : micros < 1000000) {positive : Bool}
    {zone : List Char} {o : Int} (hdash : '-' ∉ zone) (hzone : readOffset positive zone = some o) :
    readTime (clockText hours minutes seconds micros ++ (if positive then '+' else '-') :: zone)
      = some (microsOf hours minutes seconds micros, some o) := by
  have hchars := clockText_chars hours minutes seconds micros
  have hread := readClock_clockText (Nat.lt_trans hh (by decide)) (Nat.lt_trans hm (by decide))
    (Nat.lt_trans hs (by decide)) hf
  generalize clockText hours minutes seconds micros = clock at hchars hread ⊢
  have hminus : '-' ∉ clock := fun h => absurd (hchars _ h) (by decide)
  have hplus : '+' ∉ clock := fun h => absurd (hchars _ h) (by decide)
  cases positive with
  | false =>
    rw [if_neg (by decide), readTime, cut_append hminus]
    simp only
    rw [hzone]
    simp only [Option.map_some, Option.bind_eq_bind, Option.bind_some]
    rw [hread]
    simp only [Option.bind_some]
    rw [if_pos ⟨hh, hm, hs⟩]
  | true =>
    have hno : '-' ∉ clock ++ '+' :: zone := by
      rw [List.mem_append, List.mem_cons]
      rintro (h | h | h)
      · exact hminus h
      · exact absurd h (by decide)
      · exact hdash h
    rw [if_pos rfl, readTime, cut_of_notMem hno]
    simp only
    rw [cut_append hplus]
    simp only
    rw [hzone]
    simp only [Option.map_some, Option.bind_eq_bind, Option.bind_some]
    rw [hread]
    simp only [Option.bind_some]
    rw [if_pos ⟨hh, hm, hs⟩]

theorem IsDate.widths {year month day : Nat} (h : IsDate year month day) :
    year < 10 ^ 4 ∧ month < 10 ^ 2 ∧ day < 10 ^ 2 := by
  obtain ⟨-, hy, -, hm, -, hd⟩ := h
  have key : ∀ leap : Bool, ∀ m : Fin 13, monthLength leap m < 100 := by decide
  exact ⟨by omega, by omega, Nat.lt_of_le_of_lt hd (key _ ⟨month, by omega⟩)⟩

theorem readDate_padded {year month day : Nat} (h : IsDate year month day) :
    readDate ((padded 4 year).toList ++ '-' :: ((padded 2 month).toList ++ '-' ::
      (padded 2 day).toList)) = some (dayOfYmd year month day) := by
  obtain ⟨hyear, hmonth, hday⟩ := h.widths
  have h₁ := padded_length (k := 4) (by decide) hyear
  have h₂ := padded_length (k := 2) (by decide) hmonth
  have h₃ := padded_length (k := 2) (by decide) hday
  have n₁ := number_padded (k := 4) (by decide) hyear
  have n₂ := number_padded (k := 2) (by decide) hmonth
  have n₃ := number_padded (k := 2) (by decide) hday
  have hdigit := padded_isDigit 2 month
  obtain ⟨e, f, hef⟩ := List.length_eq_two.mp h₂
  obtain ⟨g, i, hgi⟩ := List.length_eq_two.mp h₃
  rw [hef] at n₂ hdigit ⊢
  rw [hgi] at n₃ ⊢
  -- a month does not look like a week
  have hweek : e ≠ 'W' := by
    rintro rfl
    exact absurd (hdigit 'W' (by simp)) (by decide)
  generalize (padded 4 year).toList = y at h₁ n₁ ⊢
  have htake : (y ++ '-' :: ([e, f] ++ '-' :: [g, i])).take 4 = y := by
    rw [← h₁, List.take_left']
    rfl
  have hdrop : (y ++ '-' :: ([e, f] ++ '-' :: [g, i])).drop 4 = '-' :: ([e, f] ++ '-' :: [g, i]) := by
    rw [← h₁, List.drop_left']
    rfl
  rw [readDate, htake, hdrop, n₁]
  simp [hweek, n₂, n₃, h]

theorem isoLocal_toList (t : Datetime) : ∃ year month day hours minutes seconds micros,
    t.isoLocal.toList = (padded 4 year).toList ++ '-' :: ((padded 2 month).toList ++ '-' ::
      ((padded 2 day).toList ++ 'T' :: clockText hours minutes seconds micros)) ∧
      IsDate year month day ∧ hours < 24 ∧ minutes < 60 ∧ seconds < 60 ∧ micros < 1000000 ∧
      t.micros = dayOfYmd year month day * microsPerDay + microsOf hours minutes seconds micros := by
  have hrange : t.micros / 1000000 / 86400 < 3652059 := by
    have := t.inRange
    rw [Nat.div_div_eq_div_mul, Nat.div_lt_iff_lt_mul (by decide)]
    exact this
  obtain ⟨year, month, day, hymd, hdate, hnumber⟩ := dayOfYmd_ymdOfDay hrange
  refine ⟨year, month, day, t.micros / 1000000 % 86400 / 3600, t.micros / 1000000 % 86400 / 60 % 60,
    t.micros / 1000000 % 86400 % 60, t.micros % 1000000, ?_, hdate, by omega, by omega, by omega,
    by omega, ?_⟩
  · have hfraction : (if t.micros % 1000000 = 0 then "" else "." ++ padded 6 (t.micros % 1000000)).toList
        = if t.micros % 1000000 = 0 then [] else '.' :: (padded 6 (t.micros % 1000000)).toList := by
      split
      · rfl
      · rw [String.toList_append]
        rfl
    simp only [isoLocal, hymd, String.toList_append, hfraction, clockText]
    simp [List.append_assoc]
  · rw [hnumber, microsPerDay, microsOf]
    omega

/-- **What `isoformat` writes is read back**, with any offset that is. -/
theorem fromisoformat_isoLocal (t : Datetime) (positive : Bool) (zone : List Char) {o : Int}
    (hdash : '-' ∉ zone) (hzone : readOffset positive zone = some o) :
    fromisoformat (t.isoLocal ++ String.ofList ((if positive then '+' else '-') :: zone))
      = some ⟨t.micros, some o⟩ := by
  obtain ⟨year, month, day, hours, minutes, seconds, micros, htext, hdate, hh, hm, hs, hf, hmicros⟩ :=
    t.isoLocal_toList
  have hdigit := padded_isDigit 2 month
  have hread := readDate_padded hdate
  have htime := readTime_clockText hh hm hs hf hdash hzone
  obtain ⟨hy, hmo, hd⟩ := hdate.widths
  have h₁ := padded_length (k := 4) (by decide) hy
  obtain ⟨e, f, hef⟩ := List.length_eq_two.mp (padded_length (k := 2) (by decide) hmo)
  obtain ⟨g, i, hgi⟩ := List.length_eq_two.mp (padded_length (k := 2) (by decide) hd)
  rw [hef, hgi] at htext hread
  rw [hef] at hdigit
  have hweek : e ≠ 'W' := by
    rintro rfl
    exact absurd (hdigit 'W' (by simp)) (by decide)
  generalize hoffset : (if positive then '+' else '-') :: zone = offset at htime ⊢
  obtain ⟨z, zs, hrest⟩ : ∃ z zs, clockText hours minutes seconds micros ++ offset = z :: zs := by
    apply List.exists_cons_of_ne_nil
    rw [← hoffset]
    simp
  have hall : (t.isoLocal ++ String.ofList offset).toList
      = (padded 4 year).toList ++ '-' :: ([e, f] ++ '-' :: ([g, i] ++ 'T' :: z :: zs)) := by
    rw [String.toList_append, String.toList_ofList, htext, ← hrest]
    simp
  rw [hrest] at htime
  generalize (padded 4 year).toList = y at h₁ hall hread
  match y, h₁ with
  | [a, b, c, d], _ =>
    generalize t.isoLocal ++ String.ofList offset = text at hall ⊢
    have hsep : separatorLocation text.toList = some 10 := by
      rw [hall]
      simp [separatorLocation, hweek]
    have htake : text.toList.take 10 = [a, b, c, d] ++ '-' :: ([e, f] ++ '-' :: [g, i]) := by
      rw [hall]
      rfl
    have hdrop : text.toList.drop 11 = z :: zs := by
      rw [hall]
      rfl
    have hlong : ¬text.toList.length < 7 := by
      rw [hall]
      simp only [List.cons_append, List.nil_append, List.length_cons]
      omega
    rw [fromisoformat]
    simp only
    rw [if_neg hlong, hsep]
    simp only [Option.bind_eq_bind, Option.bind_some]
    rw [htake, hdrop, hread, hmicros]
    simp only [Option.bind_some]
    rw [htime]
    rfl

theorem fromisoformat_isoformat (t : Datetime) :
    fromisoformat t.isoformat = some ⟨t.micros, some 0⟩ :=
  fromisoformat_isoLocal t true "00:00".toList (by decide) (by decide)

theorem isoformat_injective {t t' : Datetime} (h : t.isoformat = t'.isoformat) : t = t' := by
  have hread := fromisoformat_isoformat t
  rw [h, fromisoformat_isoformat] at hread
  obtain ⟨micros, _⟩ := t
  cases hread
  rfl

/-- `text.replace("Z", "+00:00")`. -/
def spellOffset (text : String) : String :=
  String.ofList (text.toList.flatMap fun c => if c = 'Z' then "+00:00".toList else [c])

theorem spellOffset_isoformatZ (t : Datetime) : spellOffset t.isoformatZ = t.isoformat := by
  have hlocal : t.isoLocal.toList.flatMap (fun c => if c = 'Z' then "+00:00".toList else [c])
      = t.isoLocal.toList := by
    have hno : ∀ c ∈ t.isoLocal.toList, (if c = 'Z' then "+00:00".toList else [c]) = [c] := by
      intro c hc
      rw [if_neg]
      rintro rfl
      rcases t.isoLocal_chars _ hc with h | h <;> revert h <;> decide
    rw [List.flatMap_congr hno, List.flatMap_singleton']
  rw [spellOffset, isoformatZ, isoformat, String.toList_append, List.flatMap_append, hlocal]
  apply String.toList_inj.mp
  simp

/-- The text of an instant in JSON is read back. -/
theorem fromisoformat_isoformatZ (t : Datetime) :
    fromisoformat (spellOffset t.isoformatZ) = some ⟨t.micros, some 0⟩ := by
  rw [spellOffset_isoformatZ, fromisoformat_isoformat]

end Datetime
end Py
