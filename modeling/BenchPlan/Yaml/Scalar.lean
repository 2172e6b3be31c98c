import BenchPlan.Binary64.Text
import BenchPlan.Text.Digit
import BenchPlan.Yaml.Tag
import BenchPlan.Yaml.Token
import BenchPlan.Yaml.Value

/-!
# Scalars

What a scalar means. Only plain scalars can be anything else than texts: the null, truth values,
integers in four notations, and floating point numbers. A tag of the core schema forces the type of
a scalar, also of a quoted one.
-/

namespace BenchPlan.Yaml

/-- A scalar as it is written in a document. -/
structure Scalar where
  text : String
  style : Style
  tag : Option Tag
  deriving DecidableEq, Repr, Inhabited

/-- What a scalar is read as. Integers that fit into 64 bits, with or without a sign, are apart from
those that need 128. -/
inductive Typed where
  | null
  | bool (b : Bool)
  | int (n : Int)
  | wideInt (n : Int)
  | float (x : Binary64)
  | text (s : String)
  deriving DecidableEq, Repr, Inhabited

namespace Scalar

/-- The words for null. -/
def isNullWord (s : String) : Bool := s == "null" || s == "Null" || s == "NULL" || s == "~"

/-- The words for truth values. -/
def boolWord? (s : String) : Option Bool :=
  if s == "true" || s == "True" || s == "TRUE" then some true
  else if s == "false" || s == "False" || s == "FALSE" then some false
  else none

/-- A sign of either kind. -/
def isSign (c : Char) : Bool := c == '+' || c == '-'

/-- The number that digits of a base write; there must be one at least. -/
def natural? (base : Nat) : List Char → Option Nat
  | [] => none
  | cs =>
    cs.foldl (fun n c => do
      let d ← Text.digitValue? c
      if d < base then return (← n) * base + d else none) (some 0)

/-- Digits with a zero in front, and maybe a sign, that write no number. -/
def isZeroPadded (cs : List Char) : Bool :=
  let ds :=
    match cs with
    | c :: rest => if isSign c then rest else cs
    | [] => []
  1 < ds.length && ds.head? == some '0' && ds.all Char.isDigit

/-- Digits behind a mark for their base, or decimal digits. -/
def unsigned? : List Char → Option Nat
  | '0' :: 'x' :: rest => natural? 16 rest
  | '0' :: 'o' :: rest => natural? 8 rest
  | '0' :: 'b' :: rest => natural? 2 rest
  | cs => if isZeroPadded cs then none else natural? 10 cs

/-- An integer without a minus sign; a plus sign may stand in front. -/
def positive? : List Char → Option Nat
  | '+' :: cs => unsigned? cs
  | cs => unsigned? cs

/-- An integer with a minus sign. -/
def negative? : List Char → Option Int
  | '-' :: cs => (unsigned? cs).map fun n => -(n : Int)
  | _ => none

/-- An integer with or without a sign. -/
def integer? (cs : List Char) : Option Int :=
  match positive? cs with
  | some n => some n
  | none => negative? cs

/-- The floating point number that a plain scalar writes. -/
def float? (s : String) : Option Binary64 :=
  let finite (s : String) := (Binary64.parse? s).filter Binary64.isFinite
  match s with
  | ".inf" => some (.infinite false)
  | ".Inf" => some (.infinite false)
  | ".INF" => some (.infinite false)
  | "+.inf" => some (.infinite false)
  | "+.Inf" => some (.infinite false)
  | "+.INF" => some (.infinite false)
  | "-.inf" => some (.infinite true)
  | "-.Inf" => some (.infinite true)
  | "-.INF" => some (.infinite true)
  | ".nan" => some .nan
  | ".NaN" => some .nan
  | ".NAN" => some .nan
  | s =>
    match s.toList with
    | '+' :: c :: rest => if isSign c then none else finite (String.ofList (c :: rest))
    | _ => finite s

/-- Whether an integer fits into 64 bits with a sign. -/
def fitsInt64 (n : Int) : Bool := -0x8000000000000000 ≤ n && n < 0x8000000000000000

/-- Whether an integer fits into 64 bits, with a sign if it is negative. -/
def fitsWord (n : Int) : Bool := -0x8000000000000000 ≤ n && n < 0x10000000000000000

/-- Whether an integer fits into 128 bits, with a sign if it is negative. -/
def fitsDoubleWord (n : Int) : Bool :=
  -0x80000000000000000000000000000000 ≤ n && n < 0x100000000000000000000000000000000

/-- An integer by the bits that it needs; beyond 128 bits it counts as none. -/
def ofInteger? (n : Int) : Option Typed :=
  if fitsWord n then some (.int n)
  else if fitsDoubleWord n then some (.wideInt n)
  else none

/-- The integer that a scalar writes. -/
def typedInteger? (s : String) : Option Typed := (integer? s.toList).bind ofInteger?

/-- What a plain scalar without a tag is read as. -/
def ofPlain (s : String) : Typed :=
  if s.isEmpty || isNullWord s then .null
  else
    match boolWord? s with
    | some b => .bool b
    | none =>
      match typedInteger? s with
      | some t => t
      | none =>
        if isZeroPadded s.toList then .text s
        else
          match float? s with
          | some x => .float x
          | none => .text s

/-- Why a scalar cannot be what its tag says. -/
structure TagMismatch where
  text : String
  expected : String
  deriving DecidableEq, Repr, Inhabited

/-- What a scalar is read as. `untagged` says to leave its tag out of account. -/
def typed (s : Scalar) (untagged : Bool) : Except TagMismatch Typed :=
  let byStyle := if s.style = .plain then ofPlain s.text else .text s.text
  let force (t : Option Typed) (expected : String) : Except TagMismatch Typed :=
    match t with
    | some t => .ok t
    | none => .error ⟨s.text, expected⟩
  match (if untagged then none else s.tag) with
  | none => .ok byStyle
  | some .bool => force ((boolWord? s.text).map .bool) "a boolean"
  | some .int => force (typedInteger? s.text) "an integer"
  | some .float => force ((float? s.text).map .float) "a float"
  | some .null => force (if isNullWord s.text then some .null else none) "null"
  | some t => .ok (if t.isLocal then byStyle else .text s.text)

/-- Whether the scalar is an empty plain one, which stands for an empty collection where one is
wanted. -/
def isBlank (s : Scalar) : Bool := s.text.isEmpty && s.style = .plain

end Scalar

end BenchPlan.Yaml
