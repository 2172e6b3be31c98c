import BenchPlan.Yaml.Decode

/-!
# Reading values of any kind

A node is read as a value, whatever it is. There are two uses of such values. As data they keep
local tags, and no key of a mapping may come twice. As the first half of reading something that may
have one of several shapes, they must not have local tags, keys are not compared, and a zero with a
minus sign is not the natural number.
-/

namespace BenchPlan.Yaml

/-- What a value is read for. -/
inductive Purpose where
  | data
  | choice
  deriving DecidableEq, Repr, Inhabited

namespace Purpose

/-- What is expected, for a reader. -/
def expected : Purpose → String
  | data => "any YAML value"
  | choice => "any value"

end Purpose

namespace Decode

variable (purpose : Purpose)

/-- The integer that a scalar writes as a value. -/
def integerValue (s : Scalar) (n : Int) : Value :=
  if purpose = .choice && n = 0 && s.text.toList.head? == some '-' then .negativeZero else .int n

/-- A scalar as a value; integers of more than 64 bits are none. -/
def scalarValue (s : Scalar) (untagged : Bool) : Decode Value :=
  match s.typed untagged with
  | .error e => fail (.invalidValue (.text e.text) e.expected)
  | .ok .null => pure .null
  | .ok (.bool b) => pure (.bool b)
  | .ok (.int n) => pure (integerValue purpose s n)
  | .ok (.wideInt n) => fail (.invalidType (.wideInt n) purpose.expected)
  | .ok (.float x) => pure (.float x)
  | .ok (.text t) => pure (.text t)

/-- Adds a local tag to a value that is read with or without it in mind. -/
def tagged (tag : Option Tag) (value : Bool → Decode Value) : Decode Value :=
  match tag.bind Tag.name? with
  | none => value false
  | some name =>
    match purpose with
    | .data => Value.tagged name <$> value true
    | .choice => fail .taggedVariant

/-- The entries of a mapping, after those that were read. -/
def valueEntries (inner : Path → Node → Decode Value) (path : Path) (read : List (Value × Value)) :
    List (Node × Node) → Decode (List (Value × Value))
  | [] => pure []
  | (k, v) :: rest => do
    let key ← inner path k
    if purpose = .data && read.any (fun e => e.1.sameKey key) then fail (.duplicateEntry key)
    else
      let x ← inner (segment k :: path) v
      let xs ← valueEntries inner path ((key, x) :: read) rest
      pure ((key, x) :: xs)

/-- The items of a sequence, the first of them at position `i`. -/
def valueItems (inner : Path → Node → Decode Value) (path : Path) :
    Nat → List Node → Decode (List Value)
  | _, [] => pure []
  | i, n :: ns => do
    let x ← inner (.index i :: path) n
    let xs ← valueItems inner path (i + 1) ns
    pure (x :: xs)

/-- A node as a value, where `inner` reads the members of collections, if they may be entered. -/
def valueWith (inner : Option (Path → Node → Decode Value)) (path : Path) (n : Node) :
    Decode Value :=
  located path do
    match ← follow n with
    | .scalar s => tagged purpose s.tag (scalarValue purpose s)
    | .sequence tag ns =>
      tagged purpose tag fun _ =>
        match inner with
        | some inner => Value.sequence <$> valueItems inner path 0 ns
        | none => throw .tooDeep
    | .mapping tag es =>
      tagged purpose tag fun _ =>
        match inner with
        | some inner => Value.mapping <$> valueEntries purpose inner path [] es
        | none => throw .tooDeep
    | .alias _ => breakOff
    | .cut => breakOff

/-- A node as a value, with collections nested up to a depth. -/
def valueAt : Nat → Path → Node → Decode Value
  | 0 => valueWith purpose none
  | depth + 1 => valueWith purpose (some (valueAt depth))

/-- A node as a value. -/
def value (n : Node) (p : Place) : Decode Value := valueAt purpose p.depth p.path n

end Decode

end BenchPlan.Yaml
