import BenchPlan.Binary64.Basic

/-!
# Values of a document

What a document says once anchors and spellings are gone. Mappings keep the order of their entries;
that order does not count when two values are compared as keys.
-/

namespace BenchPlan.Yaml

/-- A value of a document. -/
inductive Value where
  | null
  | bool (b : Bool)
  | int (n : Int)
  /-- The integer zero with a minus sign, which is told apart only where a choice is read. -/
  | negativeZero
  | float (x : Binary64)
  | text (s : String)
  | sequence (items : List Value)
  | mapping (entries : List (Value × Value))
  | tagged (tag : String) (value : Value)
  deriving Repr, Inhabited

namespace Value

mutual

/-- Whether two values are the same key. -/
def sameKey : Value → Value → Bool
  | null, null => true
  | bool a, bool b => a == b
  | int a, int b => a == b
  | negativeZero, negativeZero => true
  | float a, float b => a.sameKey b
  | text a, text b => a == b
  | sequence as, sequence bs => sameItems as bs
  | mapping as, mapping bs => as.length == bs.length && sameEntries as bs
  | tagged t a, tagged u b => t == u && sameKey a b
  | _, _ => false

/-- Whether two lists are the same item by item. -/
def sameItems : List Value → List Value → Bool
  | [], [] => true
  | a :: as, b :: bs => sameKey a b && sameItems as bs
  | _, _ => false

/-- Whether every entry of the first list has its like in the second, wherever it stands. -/
def sameEntries : List (Value × Value) → List (Value × Value) → Bool
  | [], _ => true
  | (k, v) :: as, bs => bs.any (fun e => sameKey k e.1 && sameKey v e.2) && sameEntries as bs

end

end Value

end BenchPlan.Yaml
