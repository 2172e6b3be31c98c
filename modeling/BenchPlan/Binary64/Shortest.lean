import BenchPlan.Binary64.Basic

/-!
# Shortest decimals

Of the decimals that read back as a given number, the ones with the fewest digits are looked for,
and of those the nearest; of two that are as near, either the upper or the even one is taken. All
comparisons are between natural numbers. The decimals that read back form an interval around the
number: it reaches half way to each neighbour, and its ends belong to it if the significand is even.
-/

namespace BenchPlan.Binary64

/-- The decimal `digits · 10^exponent`. -/
structure Decimal where
  digits : Nat
  exponent : Int
  deriving DecidableEq, Repr, Inhabited

/-- Which of two decimals is taken that are as near to a number. -/
inductive Tie where
  | upper
  /-- The one whose last digit is even. -/
  | even
  deriving DecidableEq, Repr, Inhabited

/-- Whether the upper of two decimals is taken, `d` being the digits of the lower one. -/
def Tie.goesUp (t : Tie) (d : Nat) : Bool :=
  match t with
  | upper => true
  | even => d % 2 = 1

/-- How many decimal digits a natural number has. -/
def digitCount (n : Nat) : Nat := (Nat.toDigits 10 n).length

/-- The number `num / den` and the ends of the interval that reads back as it. -/
structure Interval where
  /-- The denominator of all three. -/
  den : Nat
  low : Nat
  value : Nat
  high : Nat
  /-- Whether the ends belong to the interval. -/
  closed : Bool
  deriving Repr, Inhabited

/-- The interval of `m · 2^e`. Below a power of two the neighbour is half as far away. -/
def interval (m : Nat) (e : Int) : Interval :=
  let gap := if m = leastFull ∧ minExponent < e then 1 else 2
  let (value, den) := if 2 ≤ e then ((4 * m) <<< (e - 2).toNat, 1) else (4 * m, 1 <<< (2 - e).toNat)
  let unit := if 2 ≤ e then 1 <<< (e - 2).toNat else 1
  ⟨den, value - gap * unit, value, value + 2 * unit, m % 2 = 0⟩

/-- The exponent of the first decimal digit of `num / den`: the `k` with
`10^k ≤ num / den < 10^(k+1)`. -/
def leadingExponent (num den : Nat) : Int :=
  if den ≤ num then (digitCount (num / den) : Int) - 1
  else
    let j := digitCount (den / num)
    if num * Nat.pow 10 (j - 1) = den then -((j : Int) - 1) else -(j : Int)

/-- The ratio `num / den` in units of `10^k`, as numerator and denominator. -/
def inUnits (num den : Nat) (k : Int) : Nat × Nat :=
  if 0 ≤ k then (num, den * Nat.pow 10 k.toNat) else (num * Nat.pow 10 (-k).toNat, den)

/-- Whether `d · 10^k` lies in the interval. -/
def Interval.holds (i : Interval) (d : Nat) (k : Int) : Bool :=
  let (d, unit) := if 0 ≤ k then (d * Nat.pow 10 k.toNat, 1) else (d, Nat.pow 10 (-k).toNat)
  let x := d * i.den
  let lo := i.low * unit
  let hi := i.high * unit
  if i.closed then lo ≤ x && x ≤ hi else lo < x && x < hi

/-- The decimal nearest to the number on the grid of `10^k`, of the two beside it, that lies in the
interval. -/
def Interval.onGrid? (i : Interval) (tie : Tie) (k : Int) : Option Nat :=
  let (a, b) := inUnits i.value i.den k
  let d := a / b
  let r := a % b
  match i.holds d k, i.holds (d + 1) k with
  | true, true => some (if b < 2 * r ∨ (2 * r = b ∧ tie.goesUp d) then d + 1 else d)
  | true, false => some d
  | false, true => some (d + 1)
  | false, false => none

/-- Looks through the grids with `n`, `n + 1`, … digits, `fuel` of them. -/
def Interval.search (i : Interval) (tie : Tie) (leading : Int) (n : Nat) : Nat → Decimal
  | 0 => ⟨i.value, 0⟩
  | fuel + 1 =>
    let k := leading + 1 - n
    match i.onGrid? tie k with
    | some d => ⟨d, k⟩
    | none => i.search tie leading (n + 1) fuel

/-- Removes `fuel` trailing zeros at most. -/
def Decimal.trim (d : Decimal) : Nat → Decimal
  | 0 => d
  | fuel + 1 =>
    if d.digits ≠ 0 ∧ d.digits % 10 = 0 then trim ⟨d.digits / 10, d.exponent + 1⟩ fuel else d

/-- The shortest decimal that reads back as `m · 2^e`, for a positive `m`. Seventeen digits always
suffice. -/
def shortest (tie : Tie) (m : Nat) (e : Int) : Decimal :=
  let i := interval m e
  (i.search tie (leadingExponent i.value i.den) 1 17).trim 17

end BenchPlan.Binary64
