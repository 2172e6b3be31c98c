/-!
# Binary floating point numbers of 64 bits

A finite number is a sign, a significand `m` and an exponent `e`, and stands for `± m · 2^e`. In
canonical form `m` has 53 bits, or fewer if `e` is the least exponent, so every number is written
in one way only. `ofRatio` rounds a quotient of natural numbers to the nearest number, a half to
the even significand.
-/

namespace BenchPlan

/-- A number of the 64-bit binary format. -/
inductive Binary64 where
  | finite (negative : Bool) (significand : Nat) (exponent : Int)
  | infinite (negative : Bool)
  | nan
  deriving DecidableEq, Repr, Inhabited

namespace Binary64

/-- The exponent of the smallest numbers. -/
def minExponent : Int := -1074

/-- The exponent of the largest numbers. -/
def maxExponent : Int := 971

/-- The least significand of 53 bits. -/
def leastFull : Nat := 0x10000000000000

/-- Canonical form of a significand and an exponent. -/
def IsCanonical (m : Nat) (e : Int) : Prop :=
  m < 2 * leastFull ∧ minExponent ≤ e ∧ e ≤ maxExponent ∧ (m < leastFull → e = minExponent)

instance (m : Nat) (e : Int) : Decidable (IsCanonical m e) := by
  unfold IsCanonical; infer_instance

/-- Zero with a sign. -/
def zero (negative : Bool) : Binary64 := .finite negative 0 minExponent

/-- `num / (den · 2^e)` as numerator and denominator. -/
def scaled (num den : Nat) (e : Int) : Nat × Nat :=
  if 0 ≤ e then (num, den <<< e.toNat) else (num <<< (-e).toNat, den)

/-- The exponent at which the quotient has a significand of 53 bits, or the least exponent. -/
def exponentOf (num den : Nat) : Int :=
  let e : Int := (num.log2 : Int) - den.log2 - 52
  let (a, b) := scaled num den e
  max minExponent (if a / b < leastFull then e - 1 else e)

/-- The natural number nearest to `a / b`; a half goes to the even one. -/
def roundHalfEven (a b : Nat) : Nat :=
  let q := a / b
  let r := a % b
  if 2 * r < b then q
  else if 2 * r > b then q + 1
  else if q % 2 = 0 then q
  else q + 1

/-- The number with this significand and exponent, where a significand of 54 bits is halved. -/
def ofParts (negative : Bool) (m : Nat) (e : Int) : Binary64 :=
  let (m, e) := if m = 2 * leastFull then (leastFull, e + 1) else (m, e)
  if e > maxExponent then .infinite negative else .finite negative m e

/-- The number nearest to `± num / den`. -/
def ofRatio (negative : Bool) (num den : Nat) : Binary64 :=
  if num = 0 then zero negative
  else
    let e := exponentOf num den
    let (a, b) := scaled num den e
    ofParts negative (roundHalfEven a b) e

/-- The number nearest to `± digits · 10^exponent`. Exponents so large or so small that the answer
does not hang on the digits are answered without the power. -/
def ofDecimal (negative : Bool) (digits : Nat) (exponent : Int) : Binary64 :=
  if digits = 0 then zero negative
  else if exponent > 400 then .infinite negative
  else if exponent + (Nat.log2 digits : Int) < -1200 then zero negative
  else if 0 ≤ exponent then ofRatio negative (digits * Nat.pow 10 exponent.toNat) 1
  else ofRatio negative digits (Nat.pow 10 (-exponent).toNat)

/-- The number nearest to an integer. -/
def ofInt (n : Int) : Binary64 := ofDecimal (decide (n < 0)) n.natAbs 0

/-- Whether the number is neither infinite nor a NaN. -/
def isFinite : Binary64 → Bool
  | finite .. => true
  | _ => false

/-- Whether two numbers count as one key: zeros of both signs are one, and so is the NaN. -/
def sameKey : Binary64 → Binary64 → Bool
  | finite _ 0 _, finite _ 0 _ => true
  | a, b => a == b

end Binary64

end BenchPlan
