/-
AgentPlatform/Py/Datetime.lean

Aware Python datetimes, seen after `astimezone(UTC)`: an instant is a number of
microseconds since 0001-01-01T00:00:00Z, below the end of the year 9999.

Comparison is comparison of instants. Adding seconds may leave the range, where
Python raises `OverflowError`. `isoformat` is the text Python prints for a UTC
datetime; the calendar follows `datetime._ord2ymd`.
-/
import AgentPlatform.Py.Chars

namespace Py

/-- Microseconds between 0001-01-01 and 10000-01-01. -/
def maxMicros : Nat := 315537897600000000

theorem zero_lt_maxMicros : 0 < maxMicros := by decide

theorem one_lt_maxMicros : 1 < maxMicros := by decide

/-- An aware datetime, as an instant in UTC. -/
structure Datetime where
  micros : Nat
  inRange : micros < maxMicros
  deriving DecidableEq

namespace Datetime

instance : LE Datetime := ⟨fun a b => a.micros ≤ b.micros⟩
instance : LT Datetime := ⟨fun a b => a.micros < b.micros⟩
instance (a b : Datetime) : Decidable (a ≤ b) := inferInstanceAs (Decidable (a.micros ≤ b.micros))
instance (a b : Datetime) : Decidable (a < b) := inferInstanceAs (Decidable (a.micros < b.micros))

instance : Preorder Datetime where
  le_refl a := Nat.le_refl a.micros
  le_trans _ _ _ := Nat.le_trans
  lt_iff_le_not_ge _ _ := Nat.lt_iff_le_and_not_ge

theorem not_le {a b : Datetime} : ¬ a ≤ b ↔ b < a := Nat.not_le

/-- `self + timedelta(seconds=n)`; `none` is the `OverflowError`. -/
def addSeconds (t : Datetime) (n : Nat) : Option Datetime :=
  if h : t.micros + n * 1000000 < maxMicros then some ⟨t.micros + n * 1000000, h⟩ else none

/-- `self + timedelta(microseconds=d)`; `none` is the `OverflowError`. -/
def addMicros (t : Datetime) (d : Int) : Option Datetime :=
  if h : 0 ≤ t.micros + d ∧ (t.micros + d).toNat < maxMicros then some ⟨(t.micros + d).toNat, h.2⟩
  else none

/-! ### The calendar -/

/-- Days before each month of a common year. -/
def daysBeforeMonth (month : Nat) : Nat :=
  [0, 0, 31, 59, 90, 120, 151, 181, 212, 243, 273, 304, 334].getD month 0

def daysInMonth (month : Nat) : Nat :=
  [0, 31, 28, 31, 30, 31, 30, 31, 31, 30, 31, 30, 31].getD month 0

/-- Year, month and day of the day number `n`, counted from 0001-01-01. -/
def ymdOfDay (n : Nat) : Nat × Nat × Nat :=
  let n400 := n / 146097
  let r400 := n % 146097
  let n100 := r400 / 36524
  let r100 := r400 % 36524
  let n4 := r100 / 1461
  let r4 := r100 % 1461
  let n1 := r4 / 365
  let day := r4 % 365
  let year := n400 * 400 + 1 + n100 * 100 + n4 * 4 + n1
  if n1 = 4 ∨ n100 = 4 then (year - 1, 12, 31)
  else
    let leap := decide (n1 = 3 ∧ (n4 ≠ 24 ∨ n100 = 3))
    -- an estimate of the month that is exact or one too large
    let month := (day + 50) / 32
    let preceding := daysBeforeMonth month + (if 2 < month ∧ leap then 1 else 0)
    if day < preceding then
      let before := preceding - (daysInMonth (month - 1) + (if month - 1 = 2 ∧ leap then 1 else 0))
      (year, month - 1, day - before + 1)
    else (year, month, day - preceding + 1)

/-! ### Text -/

/-- Decimal digits of `n`, at least `width` of them. -/
def padded (width n : Nat) : String :=
  let digits := n.repr
  String.ofList (List.replicate (width - digits.length) '0') ++ digits

/-- Date and time without an offset. -/
def isoLocal (t : Datetime) : String :=
  let seconds := t.micros / 1000000
  let micros := t.micros % 1000000
  let (year, month, day) := ymdOfDay (seconds / 86400)
  let ofDay := seconds % 86400
  padded 4 year ++ "-" ++ padded 2 month ++ "-" ++ padded 2 day ++ "T"
    ++ padded 2 (ofDay / 3600) ++ ":" ++ padded 2 (ofDay / 60 % 60) ++ ":" ++ padded 2 (ofDay % 60)
    ++ (if micros = 0 then "" else "." ++ padded 6 micros)

theorem padded_isDigit (width n : Nat) : ∀ c ∈ (padded width n).toList, c.isDigit = true := by
  intro c hc
  simp only [padded, String.toList_append, String.toList_ofList, List.mem_append,
    List.mem_replicate, Nat.toList_repr] at hc
  rcases hc with ⟨-, rfl⟩ | hc
  · rfl
  · exact Nat.isDigit_of_mem_toDigits (by decide) (by decide) hc

/-- The text holds digits and separators only. -/
theorem isoLocal_chars (t : Datetime) :
    ∀ c ∈ t.isoLocal.toList, c.isDigit = true ∨ c ∈ ['-', 'T', ':', '.'] := by
  intro c hc
  simp only [isoLocal, String.toList_append, List.mem_append] at hc
  have sep : ∀ s ∈ ["-", "T", ":", ".", ""], c ∈ s.toList → c ∈ ['-', 'T', ':', '.'] := by
    intro s hs hm
    simp only [List.mem_cons, List.not_mem_nil, or_false] at hs
    rcases hs with rfl | rfl | rfl | rfl | rfl <;> simp_all
  rcases hc with (((((((((((hc | hc) | hc) | hc) | hc) | hc) | hc) | hc) | hc) | hc) | hc) | hc)
  · exact .inl (padded_isDigit _ _ c hc)
  · exact .inr (sep "-" (by decide) hc)
  · exact .inl (padded_isDigit _ _ c hc)
  · exact .inr (sep "-" (by decide) hc)
  · exact .inl (padded_isDigit _ _ c hc)
  · exact .inr (sep "T" (by decide) hc)
  · exact .inl (padded_isDigit _ _ c hc)
  · exact .inr (sep ":" (by decide) hc)
  · exact .inl (padded_isDigit _ _ c hc)
  · exact .inr (sep ":" (by decide) hc)
  · exact .inl (padded_isDigit _ _ c hc)
  · split at hc
    · exact .inr (sep "" (by decide) hc)
    · rw [String.toList_append, List.mem_append] at hc
      rcases hc with hc | hc
      · exact .inr (sep "." (by decide) hc)
      · exact .inl (padded_isDigit _ _ c hc)

/-- `self.isoformat()` for a UTC datetime. -/
def isoformat (t : Datetime) : String := t.isoLocal ++ "+00:00"

/-- `self.isoformat().replace("+00:00", "Z")`. -/
def isoformatZ (t : Datetime) : String := t.isoLocal ++ "Z"

theorem isoformatZ_no_nul (t : Datetime) : '\x00' ∉ t.isoformatZ.toList := by
  intro h
  rw [isoformatZ, String.toList_append, List.mem_append] at h
  rcases h with h | h
  · rcases t.isoLocal_chars _ h with h | h <;> revert h <;> decide
  · revert h
    decide

end Datetime
end Py
