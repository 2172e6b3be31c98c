import BenchPlan.Binary64.Shortest

/-!
# Decimal texts of floating point numbers

Two forms are written, both with the shortest digits: `text` is positional for numbers of moderate
size and scientific for the others, `positional` never is scientific. `textFrom` leaves open where
the first form becomes positional and what becomes of ties. `parse?` reads the usual
decimal notation, and with it `inf`, `infinity` and `nan` in any case.
-/

namespace BenchPlan.Binary64

/-- `digits · 10^exponent` without an exponent, with a point only if there is a fraction. -/
def Decimal.positional (d : Decimal) : String :=
  let ds := Nat.toDigits 10 d.digits
  if 0 ≤ d.exponent then String.ofList (ds ++ List.replicate d.exponent.toNat '0')
  else
    let places := (-d.exponent).toNat
    if places < ds.length then
      String.ofList (ds.take (ds.length - places) ++ '.' :: ds.drop (ds.length - places))
    else
      "0." ++ String.ofList (List.replicate (places - ds.length) '0' ++ ds)

/-- `digits · 10^exponent` with one digit before the point. -/
def Decimal.scientific (d : Decimal) : String :=
  let ds := Nat.toDigits 10 d.digits
  let exponent := d.exponent + (ds.length - 1 : Nat)
  let fraction := ds.drop 1
  String.ofList (ds.take 1) ++ (if fraction.isEmpty then "" else "." ++ String.ofList fraction) ++
    "e" ++ toString exponent

/-- The exponent of the first digit. -/
def Decimal.leading (d : Decimal) : Int := d.exponent + ((digitCount d.digits : Int) - 1)

/-- Appends `.0` to digits without a point. -/
def withPoint (s : String) : String := if s.toList.contains '.' then s else s ++ ".0"

/-- A sign in front of a text. -/
def signed (negative : Bool) (s : String) : String := if negative then "-" ++ s else s

/-- The shortest text, always with a fraction or an exponent: positional from `10^least` up to but
not including `10^16`. -/
def textFrom (tie : Tie) (least : Int) : Binary64 → String
  | nan => "NaN"
  | infinite negative => signed negative "inf"
  | finite negative 0 _ => signed negative "0.0"
  | finite negative m e =>
    let d := shortest tie m e
    signed negative
      (if least ≤ d.leading ∧ d.leading < 16 then withPoint d.positional else d.scientific)

/-- The shortest text, positional from `10^-4` on; a tie goes up. -/
def text (x : Binary64) : String := x.textFrom .upper (-4)

/-- The shortest positional text, always with a fraction; a tie goes up. -/
def positional : Binary64 → String
  | nan => "NaN"
  | infinite negative => signed negative "inf"
  | finite negative 0 _ => signed negative "0.0"
  | finite negative m e => signed negative (withPoint (shortest .upper m e).positional)

/-- The value of a list of decimal digits. -/
def digitsValue (ds : List Char) : Nat :=
  ds.foldl (fun n c => n * 10 + (c.toNat - '0'.toNat)) 0

/-- An optional exponent: `e` or `E`, a sign if there is one, and digits up to the end. -/
def parseExponent? : List Char → Option Int
  | [] => some 0
  | c :: rest =>
    if c = 'e' ∨ c = 'E' then
      let (negative, ds) : Bool × List Char :=
        match rest with
        | '+' :: ds => (false, ds)
        | '-' :: ds => (true, ds)
        | ds => (false, ds)
      if ds.isEmpty ∨ !ds.all Char.isDigit then none
      else some (if negative then -(digitsValue ds : Int) else digitsValue ds)
    else none

/-- An unsigned decimal number: digits with at most one point among or around them, then an
optional exponent. -/
def parseUnsigned? (negative : Bool) (cs : List Char) : Option Binary64 :=
  let whole := cs.takeWhile Char.isDigit
  let (fraction, rest) : List Char × List Char :=
    match cs.dropWhile Char.isDigit with
    | '.' :: rest => (rest.takeWhile Char.isDigit, rest.dropWhile Char.isDigit)
    | rest => ([], rest)
  if whole.isEmpty && fraction.isEmpty then none
  else
    (parseExponent? rest).map fun exponent =>
      ofDecimal negative (digitsValue (whole ++ fraction)) (exponent - fraction.length)

/-- Reads a decimal number with an optional sign. -/
def parse? (s : String) : Option Binary64 :=
  let (negative, cs) : Bool × List Char :=
    match s.toList with
    | '-' :: cs => (true, cs)
    | '+' :: cs => (false, cs)
    | cs => (false, cs)
  match String.ofList (cs.map Char.toLower) with
  | "inf" => some (.infinite negative)
  | "infinity" => some (.infinite negative)
  | "nan" => some .nan
  | _ => parseUnsigned? negative cs

end BenchPlan.Binary64
