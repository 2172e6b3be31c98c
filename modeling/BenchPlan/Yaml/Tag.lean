/-!
# Tags

A tag says what a value is. Four tags of the core schema force the type of a scalar. A local tag,
which begins with an exclamation mark, is kept with the value. All other tags say no more than that
a scalar is a text.
-/

namespace BenchPlan.Yaml

/-- A tag as far as it makes a difference. -/
inductive Tag where
  | bool
  | int
  | float
  | null
  /-- The exclamation mark alone. -/
  | mark
  /-- A local tag and its name. -/
  | named (name : String)
  /-- A local tag whose octets form no text. -/
  | unreadable
  | foreign
  deriving DecidableEq, Repr, Inhabited

namespace Tag

/-- The octets before the name of a tag of the core schema. -/
def coreLead : List UInt8 := "tag:yaml.org,2002:".toUTF8.toList

/-- A text without an exclamation mark in front, unless it is nothing else. -/
def dropMark (s : String) : String :=
  match s.toList with
  | '!' :: c :: cs => String.ofList (c :: cs)
  | _ => s

/-- The tag of a sequence of octets, which a null octet ends. -/
def ofOctets (octets : List UInt8) : Tag :=
  let octets := octets.takeWhile (· ≠ 0)
  match String.fromUTF8? octets.toByteArray with
  | some "tag:yaml.org,2002:bool" => bool
  | some "tag:yaml.org,2002:int" => int
  | some "tag:yaml.org,2002:float" => float
  | some "tag:yaml.org,2002:null" => null
  | some "!" => mark
  | some s => if octets.head? = some 0x21 then named (dropMark (dropMark s)) else foreign
  | none => if octets.head? = some 0x21 then unreadable else foreign

/-- The name of a local tag that can be kept with a value. -/
def name? : Tag → Option String
  | mark => some "!"
  | named n => some n
  | _ => none

/-- Whether the tag is local. -/
def isLocal : Tag → Bool
  | mark => true
  | named _ => true
  | unreadable => true
  | _ => false

end Tag

end BenchPlan.Yaml
