import BenchPlan.Yaml.Event
import BenchPlan.Yaml.Scalar
import BenchPlan.Yaml.Token.Scan

/-!
# Nodes

The tree of a document. Aliases are kept, since what they stand for is read anew at each of them.
Where reading the document broke off, the tree ends in a `cut`: whoever gets there finds nothing
more, but what comes before can still be read.
-/

namespace BenchPlan.Yaml

/-- A part of a document. -/
inductive Node where
  | scalar (s : Scalar)
  | sequence (tag : Option Tag) (items : List Node)
  | mapping (tag : Option Tag) (entries : List (Node × Node))
  | alias (anchor : Nat)
  | cut
  deriving Inhabited

namespace Node

/-- A collection that is not complete yet. -/
inductive Frame where
  | sequence (serial : Nat) (tag : Option Tag) (items : List Node)
  | mapping (serial : Nat) (tag : Option Tag) (entries : List (Node × Node)) (key : Option Node)

/-- The state of building a tree. Nodes with an anchor are numbered in the order of their beginning;
each such number, or serial, belongs to the number of an anchor. -/
structure Builder where
  /-- The names of anchors so far, with the numbers that they have now. -/
  names : List (String × Nat)
  /-- Anchor numbers and serials, the last first. -/
  serials : List (Nat × Nat)
  /-- Complete nodes by their serials. -/
  complete : List (Nat × Node)
  /-- The collections that are open, innermost first, with their members in reverse. -/
  frames : List Frame
  /-- The root, once it is complete. -/
  root : Option Node
  /-- How many events were taken in. -/
  count : Nat

namespace Builder

/-- Nothing built yet. -/
def start : Builder := ⟨[], [], [], [], none, 0⟩

/-- Gives a number to an anchor: how many names there are. -/
def anchor (b : Builder) : Option String → Builder
  | none => b
  | some name =>
    let id := b.names.length
    { b with
      names := (name, id) :: b.names.filter (fun e => e.1 ≠ name)
      serials := (id, b.count) :: b.serials }

/-- Adds a complete node to the innermost collection. -/
def add (b : Builder) (n : Node) : Builder :=
  match b.frames with
  | [] => { b with root := some n }
  | .sequence s t items :: fs => { b with frames := .sequence s t (n :: items) :: fs }
  | .mapping s t entries none :: fs => { b with frames := .mapping s t entries (some n) :: fs }
  | .mapping s t entries (some k) :: fs =>
    { b with frames := .mapping s t ((k, n) :: entries) none :: fs }

/-- Adds a node that is complete, and remembers it by its serial. -/
def addComplete (b : Builder) (serial : Nat) (n : Node) : Builder :=
  { b with complete := (serial, n) :: b.complete }.add n

/-- The node of an open collection; what is missing is cut. -/
def close : Frame → Nat × Node
  | .sequence s t items => (s, .sequence t items.reverse)
  | .mapping s t entries none => (s, .mapping t entries.reverse)
  | .mapping s t entries (some k) => (s, .mapping t ((k, .cut) :: entries).reverse)

/-- Ends the innermost collection. -/
def pop (b : Builder) : Builder :=
  match b.frames with
  | [] => b
  | f :: fs =>
    let (serial, n) := close f
    { b with frames := fs }.addComplete serial n

/-- Takes in an event; an alias without an anchor cannot be taken in. -/
def take? (b : Builder) (e : Event) : Option Builder :=
  let next (b : Builder) : Builder := { b with count := b.count + 1 }
  match e with
  | .alias name => (b.names.lookup name).map fun id => next (b.add (.alias id))
  | .scalar a t text style =>
    some (next ((b.anchor a).addComplete b.count (.scalar ⟨text, style, t⟩)))
  | .sequenceStart a t =>
    let b' := b.anchor a
    some (next { b' with frames := .sequence b.count t [] :: b.frames })
  | .mappingStart a t =>
    let b' := b.anchor a
    some (next { b' with frames := .mapping b.count t [] none :: b.frames })
  | .sequenceEnd => some (next b.pop)
  | .mappingEnd => some (next b.pop)

/-- Takes in events, and says whether all could be taken in. -/
def takeAll : Builder → List Event → Builder × Bool
  | b, [] => (b, true)
  | b, e :: es =>
    match b.take? e with
    | some b => takeAll b es
    | none => (b, false)

/-- Cuts the innermost collection off. -/
def cutFrame : Frame → Frame
  | .sequence s t items => .sequence s t (.cut :: items)
  | .mapping s t entries none => .mapping s t ((.cut, .cut) :: entries) none
  | .mapping s t entries (some k) => .mapping s t ((k, .cut) :: entries) none

/-- Ends all open collections behind a cut. `fuel` is their number. -/
def cutOff : Nat → Builder → Builder
  | 0, b => b
  | fuel + 1, b =>
    match b.frames with
    | [] => b
    | f :: fs => cutOff fuel { b with frames := cutFrame f :: fs }.pop

end Builder

end Node

/-- How the first document of a text ends. -/
inductive Ending where
  /-- With the end of the text. -/
  | whole
  /-- Something follows that does not belong to it. -/
  | followed
  /-- Reading broke off inside it. -/
  | broken
  /-- Reading broke off inside it at an alias without an anchor. -/
  | dangling
  deriving DecidableEq, Repr, Inhabited

/-- A document: its tree, what its anchors stand for, how many events it has, and how it ends. -/
structure Document where
  root : Node
  anchors : List (Nat × Node)
  events : Nat
  ending : Ending

namespace Document

/-- The document of a list of events. -/
def ofEvents (events : List Event) (rest : Option (List Token)) : Document :=
  let (b, all) := Node.Builder.start.takeAll events
  let ending : Ending :=
    match all, rest with
    | true, some rest => if Event.endsStream rest then .whole else .followed
    | true, none => .broken
    | false, _ => .dangling
  let b := b.cutOff b.frames.length
  let anchors := b.serials.filterMap fun e => (b.complete.lookup e.2).map fun n => (e.1, n)
  ⟨b.root.getD .cut, anchors, b.count, ending⟩

/-- The document without content, which stands for a text without documents. -/
def blank : Document := ⟨.scalar ⟨"", .plain, none⟩, [], 1, .whole⟩

/-- The first document of a text. -/
def ofText (text : String) : Document :=
  match Event.firstDocument (tokensOf (Source.ofText text)) with
  | .absent => blank
  | .events es rest => ofEvents es rest

end Document

end BenchPlan.Yaml
