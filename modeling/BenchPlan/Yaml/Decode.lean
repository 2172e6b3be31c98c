import BenchPlan.Table
import BenchPlan.Yaml.Error
import BenchPlan.Yaml.Node

/-!
# Reading typed data

Readers for texts, numbers, lists, tables and records, over the tree of a document. A reader looks
at the nodes in the order of the document and stops at the first thing that it cannot use. Aliases
are followed where they are met; how often is limited, and so is how deep collections are entered.
-/

namespace BenchPlan.Yaml

/-- Reading from a document, with the number of aliases followed so far. -/
abbrev Decode := ReaderT Document (StateT Nat (Except Error))

/-- A place in a document: the way to it, and how many collections may still be entered. -/
structure Place where
  path : Path
  depth : Nat
  deriving Repr, Inhabited

/-- How deep collections may be nested. -/
def maxDepth : Nat := 128

/-- The place of a whole document. -/
def Place.root : Place := ⟨[], maxDepth⟩

namespace Decode

/-- Stops because the shape is wrong; whoever knows the place adds it. -/
def fail {α : Type} (m : Mismatch) : Decode α := throw (.shape m none)

/-- Adds the place to errors that have none. -/
def located {α : Type} (path : Path) (x : Decode α) : Decode α :=
  fun doc n => (x doc n).mapError (Error.locate path)

/-- Stops where the document breaks off. -/
def breakOff {α : Type} : Decode α := do
  match (← read).ending with
  | .dangling => throw .unknownAnchor
  | _ => throw .malformed

/-- What an alias stands for. Aliases are followed at most a hundred times for every event of the
document. -/
def follow : Node → Decode Node
  | .alias id => do
    let doc ← read
    let n ← get
    if doc.events * 100 < n + 1 then throw .tooManyAliases
    else
      set (n + 1)
      pure ((doc.anchors.lookup id).getD .cut)
  | n => pure n

/-- Stops because a node is not what is expected. -/
def mismatched {α : Type} (n : Node) (expected : String) : Decode α :=
  match n with
  | .scalar s =>
    match s.typed false with
    | .ok t => fail (.invalidType (Found.ofTyped t) expected)
    | .error e => fail (.invalidValue (.text e.text) e.expected)
  | .sequence .. => fail (.invalidType .sequence expected)
  | .mapping .. => fail (.invalidType .mapping expected)
  | .alias _ => breakOff
  | .cut => breakOff

/-- The same place with one collection less to enter. -/
def enter (p : Place) : Decode Place :=
  match p.depth with
  | 0 => throw .tooDeep
  | d + 1 => pure ⟨p.path, d⟩

/-- The step from a mapping to the value of a key. -/
def segment : Node → Segment
  | .scalar s => .key s.text
  | _ => .unnamed

/-- Any scalar, for its text. -/
def textAs (expected : String) (n : Node) (p : Place) : Decode String :=
  located p.path do
    match ← follow n with
    | .scalar s => pure s.text
    | n => mismatched n expected

/-- A text. -/
def text (n : Node) (p : Place) : Decode String := textAs "a string" n p

/-- Whether a scalar stands for nothing where something optional is wanted. A tag may force it
to. -/
def isAbsent (s : Scalar) : Except Mismatch Bool :=
  if s.style ≠ .plain then .ok false
  else
    match s.tag with
    | none => .ok (s.text.isEmpty || Scalar.isNullWord s.text)
    | some .null =>
      if Scalar.isNullWord s.text then .ok true
      else .error (.invalidValue (.text s.text) "null")
    | some _ => .ok false

/-- Something optional. -/
def optional {α : Type} (value : Node → Place → Decode α) (n : Node) (p : Place) :
    Decode (Option α) := do
  match ← follow n with
  | .scalar s =>
    match isAbsent s with
    | .ok true => pure none
    | .ok false => some <$> value (.scalar s) p
    | .error m => fail m
  | n => some <$> value n p

/-- Whether a scalar may write an integer where one is wanted. -/
def mayBeInteger (s : Scalar) : Bool :=
  s.style = .plain || (s.style = .literal && s.tag = some .int)

/-- A natural number of 32 bits. -/
def uint32 (n : Node) (p : Place) : Decode UInt32 :=
  located p.path do
    let n ← follow n
    match n with
    | .scalar s =>
      match (if mayBeInteger s then Scalar.positive? s.text.toList else none) with
      | some v =>
        if v < UInt32.size then pure (UInt32.ofNat v)
        else if v < UInt64.size then fail (.invalidValue (.int v) "u32")
        else mismatched n "u32"
      | none => mismatched n "u32"
    | n => mismatched n "u32"

/-- An integer of 64 bits. -/
def int64 (n : Node) (p : Place) : Decode Int64 :=
  located p.path do
    let n ← follow n
    match n with
    | .scalar s =>
      match (if mayBeInteger s then Scalar.integer? s.text.toList else none) with
      | some v => if Scalar.fitsInt64 v then pure (Int64.ofInt v) else mismatched n "i64"
      | none => mismatched n "i64"
    | n => mismatched n "i64"

/-- The items of a list, the first of them at position `i`. -/
def items {α : Type} (item : Node → Place → Decode α) (p : Place) :
    Nat → List Node → Decode (List α)
  | _, [] => pure []
  | i, n :: ns => do
    let x ← item n ⟨.index i :: p.path, p.depth⟩
    let xs ← items item p (i + 1) ns
    pure (x :: xs)

/-- A list; an empty plain scalar is one. -/
def list {α : Type} (item : Node → Place → Decode α) (n : Node) (p : Place) : Decode (List α) :=
  located p.path do
    match ← follow n with
    | .sequence _ ns => items item (← enter p) 0 ns
    | .scalar s => if s.isBlank then pure [] else mismatched (.scalar s) "a sequence"
    | n => mismatched n "a sequence"

/-- The entries of a table, put in after those that are there. -/
def tableEntries {α : Type} (value : Node → Place → Decode α) (p : Place) (t : Table α) :
    List (Node × Node) → Decode (Table α)
  | [] => pure t
  | (k, v) :: rest => do
    let name ← text k p
    let x ← value v ⟨segment k :: p.path, p.depth⟩
    tableEntries value p (t.insert name x) rest

/-- A table; an empty plain scalar is one. -/
def table {α : Type} (value : Node → Place → Decode α) (n : Node) (p : Place) :
    Decode (Table α) :=
  located p.path do
    match ← follow n with
    | .mapping _ es => tableEntries value (← enter p) Table.empty es
    | .scalar s => if s.isBlank then pure Table.empty else mismatched (.scalar s) "a map"
    | n => mismatched n "a map"

mutual

/-- Whether nothing is cut off inside a node. -/
def isWhole : Node → Bool
  | .sequence _ ns => areWhole ns
  | .mapping _ es => entriesAreWhole es
  | .cut => false
  | _ => true

/-- Whether nothing is cut off inside some nodes. -/
def areWhole : List Node → Bool
  | [] => true
  | n :: ns => isWhole n && areWhole ns

/-- Whether nothing is cut off inside some entries. -/
def entriesAreWhole : List (Node × Node) → Bool
  | [] => true
  | (k, v) :: es => isWhole k && isWhole v && entriesAreWhole es

end

/-- Passes over a node, whatever it is. -/
def ignore (n : Node) : Decode Unit := if isWhole n then pure () else breakOff

end Decode

/-- The fields of a kind of record: their names, and how the value of each is read. -/
structure Schema where
  /-- The name of the kind of record. -/
  kind : String
  Field : Type
  field? : String → Option Field
  decEq : DecidableEq Field
  name : Field → String
  Content : Field → Type
  read : (f : Field) → Node → Place → Decode (Content f)

namespace Schema

variable (S : Schema)

/-- The fields that a record has. -/
def Draft : Type := (f : S.Field) → Option (S.Content f)

/-- The record without fields. -/
def Draft.empty : S.Draft := fun _ => none

variable {S}

/-- The record with one more field. -/
def Draft.set (d : S.Draft) (f : S.Field) (x : S.Content f) : S.Draft :=
  fun g =>
    match S.decEq f g with
    | .isTrue h => some (h ▸ x)
    | .isFalse _ => d g

/-- Reads the fields of a record in the order of the document. Keys that name no field are passed
over; no field may come twice. -/
def fields (S : Schema) (p : Place) (d : S.Draft) : List (Node × Node) → Decode S.Draft
  | [] => pure d
  | (k, v) :: rest => do
    let name ← Decode.textAs "field identifier" k p
    match S.field? name with
    | none =>
      Decode.ignore v
      fields S p d rest
    | some f =>
      if (d f).isSome then Decode.fail (.duplicateField name)
      else
        let x ← S.read f v ⟨Decode.segment k :: p.path, p.depth⟩
        fields S p (d.set f x) rest

/-- A record, finished by `build`; an empty plain scalar is one without fields. -/
def record {α : Type} (S : Schema) (build : S.Draft → Decode α) (n : Node) (p : Place) :
    Decode α :=
  Decode.located p.path do
    match ← Decode.follow n with
    | .mapping _ es => build (← S.fields (← Decode.enter p) (Draft.empty S) es)
    | .scalar s =>
      if s.isBlank then build (Draft.empty S)
      else Decode.mismatched (.scalar s) ("struct " ++ S.kind)
    | n => Decode.mismatched n ("struct " ++ S.kind)

/-- What a field that has to be there holds. -/
def Draft.required (d : S.Draft) (f : S.Field) : Decode (S.Content f) :=
  match d f with
  | some x => pure x
  | none => Decode.fail (.missingField (S.name f))

end Schema

end BenchPlan.Yaml
