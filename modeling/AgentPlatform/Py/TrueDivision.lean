/-
AgentPlatform/Py/TrueDivision.lean

`a / b` of two integers in Python: the exact quotient, rounded to the nearest
double, ties to even, and `OverflowError` where that is too large. Only the
values are modelled: a positive double is `m * 2 ^ e` with `m` of at most 53
bits and `e` at least -1074.

`math.ceil` of the result is exact (`ceil`), but the division before it is not:
it may drop a small positive remainder of a large quotient.
-/
import Mathlib

namespace Py

/-- The number of the two neighbours of `n / d` that is nearer; ties to even. -/
def roundHalfEven (n d : Nat) : Nat :=
  let q := n / d
  let r := n % d
  if 2 * r < d then q
  else if d < 2 * r then q + 1
  else if q % 2 = 0 then q
  else q + 1

/-- A non-negative double `m * 2 ^ e`. -/
structure Double where
  significand : Nat
  exponent : Int
  deriving DecidableEq, Repr

namespace Double

/-- `n / d` as a fraction of powers of two: numerator and denominator of
`n / (d * 2 ^ e)`. -/
def scaled (n d : Nat) (e : Int) : Nat × Nat :=
  if 0 ≤ e then (n, d * 2 ^ e.toNat) else (n * 2 ^ (-e).toNat, d)

/-- The largest `k` with `2 ^ k ≤ n / d`, for positive `n` and `d`. -/
def log2Quotient (n d : Nat) : Int :=
  let k : Int := (Nat.log2 n : Int) - Nat.log2 d
  let (a, b) := scaled n d k
  if b ≤ a then k else k - 1

/-- The double nearest to `n / d`; `none` is the `OverflowError`. -/
def ofQuotient (n d : Nat) : Option Double :=
  if n = 0 then some ⟨0, 0⟩
  else
    let e : Int := max (-1074) (log2Quotient n d - 52)
    let (a, b) := scaled n d e
    let m := roundHalfEven a b
    if (2 : Nat) ^ 1024 ≤ m * 2 ^ e.toNat ∧ 0 ≤ e then none else some ⟨m, e⟩

/-- `math.ceil` of a non-negative double. -/
def ceil (x : Double) : Nat :=
  if 0 ≤ x.exponent then x.significand * 2 ^ x.exponent.toNat
  else (x.significand + (2 ^ (-x.exponent).toNat - 1)) / 2 ^ (-x.exponent).toNat

/-- `math.floor` of a non-negative double. -/
def floor (x : Double) : Nat :=
  if 0 ≤ x.exponent then x.significand * 2 ^ x.exponent.toNat
  else x.significand / 2 ^ (-x.exponent).toNat

end Double

/-- `math.ceil(n / d)` for an integer `n` and a positive `d`. -/
def ceilTrueDiv (n : Int) (d : Nat) : Option Int :=
  if 0 ≤ n then (Double.ofQuotient n.toNat d).map fun x => (x.ceil : Int)
  else (Double.ofQuotient (-n).toNat d).map fun x => -(x.floor : Int)

/-- Small quotients are rounded up as they should be. -/
example : ceilTrueDiv 2500001 1000000 = some 3 := by decide +kernel

end Py
