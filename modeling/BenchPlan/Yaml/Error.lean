import BenchPlan.Text.Quoted
import BenchPlan.Yaml.Scalar

/-!
# Errors of reading

A document is either not well formed, or does not have the shape that is wanted. An error of shape
says where in the document it is.
-/

namespace BenchPlan.Yaml

/-- A step on the way to a part of a document. -/
inductive Segment where
  | key (name : String)
  | index (i : Nat)
  /-- The value of a key that is no scalar. -/
  | unnamed
  deriving DecidableEq, Repr, Inhabited

/-- The way to a part of a document, the last step first. -/
abbrev Path := List Segment

/-- The way as it is printed: names joined by points, positions in brackets, and a point alone for
the whole document. -/
def Path.render : Path → String
  | [] => "."
  | .index i :: parent => Path.render parent ++ "[" ++ toString i ++ "]"
  | s :: parent =>
    let lead := if parent.isEmpty then "" else Path.render parent ++ "."
    match s with
    | .key name => lead ++ name
    | _ => lead ++ "?"

/-- What stands in a document in place of what is wanted. -/
inductive Found where
  | unit
  | bool (b : Bool)
  | int (n : Int)
  | wideInt (n : Int)
  | float (x : Binary64)
  | text (s : String)
  | sequence
  | mapping
  deriving DecidableEq, Repr, Inhabited

namespace Found

/-- What a scalar is. -/
def ofTyped : Typed → Found
  | .null => unit
  | .bool b => bool b
  | .int n => int n
  | .wideInt n => wideInt n
  | .float x => float x
  | .text s => text s

/-- What stands there, for a reader. -/
def describe : Found → String
  | unit => "unit value"
  | bool b => "boolean `" ++ toString b ++ "`"
  | int n => "integer `" ++ toString n ++ "`"
  | wideInt n => "integer `" ++ toString n ++ "` as " ++ (if n < 0 then "i128" else "u128")
  | float x => "floating point `" ++ x.positional ++ "`"
  | text s => "string " ++ Text.quote s
  | sequence => "sequence"
  | mapping => "map"

end Found

/-- What is wrong with the shape of a document. -/
inductive Mismatch where
  | invalidType (found : Found) (expected : String)
  | invalidValue (found : Found) (expected : String)
  | missingField (name : String)
  | duplicateField (name : String)
  | duplicateEntry (key : Value)
  | noVariant (name : String)
  | taggedVariant
  deriving Repr, Inhabited

namespace Mismatch

/-- A floating point number as a document would have it: positional from `10^-5` on, and a tie goes
to the even digit. -/
def floatKey : Binary64 → String
  | .nan => ".nan"
  | .infinite negative => Binary64.signed negative ".inf"
  | x => x.textFrom .even (-5)

/-- A key that occurs twice, for a reader. -/
def describeKey : Value → String
  | .null => "with null key"
  | .bool b => "with key `" ++ toString b ++ "`"
  | .int n => "with key " ++ toString n
  | .negativeZero => "with key 0"
  | .float x => "with key " ++ floatKey x
  | .text s => "with key " ++ Text.quote s
  | _ => "in YAML map"

/-- What is wrong, for a reader. -/
def describe : Mismatch → String
  | invalidType f e => "invalid type: " ++ f.describe ++ ", expected " ++ e
  | invalidValue f e => "invalid value: " ++ f.describe ++ ", expected " ++ e
  | missingField n => "missing field `" ++ n ++ "`"
  | duplicateField n => "duplicate field `" ++ n ++ "`"
  | duplicateEntry k => "duplicate entry " ++ describeKey k
  | noVariant n => "data did not match any variant of untagged enum " ++ n
  | taggedVariant => "untagged and internally tagged enums do not support enum input"

end Mismatch

/-- Why a document cannot be read. -/
inductive Error where
  /-- The text is no document. -/
  | malformed
  /-- An alias has no anchor. -/
  | unknownAnchor
  /-- There is more than one document. -/
  | severalDocuments
  /-- Collections are nested too deeply. -/
  | tooDeep
  /-- Aliases are followed too often. -/
  | tooManyAliases
  /-- The shape is wrong; the place is known once a part that knows its own passes the error on. -/
  | shape (mismatch : Mismatch) (place : Option Path)
  deriving Repr, Inhabited

namespace Error

/-- The error with a place, if it has none yet. -/
def locate (path : Path) : Error → Error
  | shape m none => shape m (some path)
  | e => e

/-- The error for a reader. -/
def message : Error → String
  | malformed => "the text is not well formed"
  | unknownAnchor => "unknown anchor"
  | severalDocuments => "deserializing from YAML containing more than one document is not supported"
  | tooDeep => "recursion limit exceeded"
  | tooManyAliases => "repetition limit exceeded"
  | shape m none => m.describe
  | shape m (some path) =>
    let place := path.render
    if place == "." then m.describe else place ++ ": " ++ m.describe

/-- Whether the error is about the shape of a document. -/
def isShape : Error → Bool
  | shape .. => true
  | _ => false

end Error

end BenchPlan.Yaml
