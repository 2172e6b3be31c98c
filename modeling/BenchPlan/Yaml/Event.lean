import BenchPlan.Yaml.Tag
import BenchPlan.Yaml.Token

/-!
# Events

The tokens of a document are brought into the order of its tree: a collection begins, its members
follow, it ends. Members that are left out become empty scalars. Reading stops where a token cannot
stand; the events before it remain.
-/

namespace BenchPlan.Yaml

/-- A step through the tree of a document. -/
inductive Event where
  | alias (name : String)
  | scalar (anchor : Option String) (tag : Option Tag) (text : String) (style : Style)
  | sequenceStart (anchor : Option String) (tag : Option Tag)
  | sequenceEnd
  | mappingStart (anchor : Option String) (tag : Option Tag)
  | mappingEnd
  deriving DecidableEq, Repr, Inhabited

namespace Event

/-- The empty scalar in place of something left out. -/
def blank : Event := .scalar none none "" .plain

/-- What is expected next. -/
inductive Expect where
  | blockNode
  | documentContent
  | documentEnd
  | blockSequenceFirst
  | blockSequenceEntry
  | indentlessSequenceEntry
  | blockMappingFirst
  | blockMappingKey
  | blockMappingValue
  | flowSequenceFirst
  | flowSequenceEntry
  | flowPairKey
  | flowPairValue
  | flowPairEnd
  | flowMappingFirst
  | flowMappingKey
  | flowMappingValue
  | flowMappingEmptyValue
  deriving DecidableEq, Repr, Inhabited

/-- The state of reading a document. -/
structure Parser where
  tokens : List Token
  state : Expect
  /-- What is expected once the present member is complete. -/
  stack : List Expect
  /-- What the handles of tags stand for. -/
  handles : List (String × List UInt8)

namespace Parser

/-- Goes back to what was expected before. -/
def pop (p : Parser) : Parser :=
  match p.stack with
  | e :: es => { p with state := e, stack := es }
  | [] => { p with state := .documentEnd }

/-- Expects something next. -/
def expect (p : Parser) (e : Expect) : Parser := { p with state := e }

/-- Expects something after the next member. -/
def push (p : Parser) (e : Expect) : Parser := { p with stack := e :: p.stack }

/-- Leaves out the next token. -/
def skip (p : Parser) : Parser := { p with tokens := p.tokens.tail }

/-- The tag that a handle and a suffix write; a handle has to be defined. -/
def resolveTag (p : Parser) (handle : String) (suffix : List UInt8) : Option Tag :=
  if handle.isEmpty then some (Tag.ofOctets suffix)
  else (p.handles.lookup handle).map fun lead =>
    Tag.ofOctets (lead.takeWhile (· ≠ 0) ++ suffix)

/-- Reads an anchor and a tag in either order, each at most once. -/
def properties (p : Parser) : Option (Option String × Option Tag × Parser) :=
  match p.tokens with
  | .anchor a :: .tag h s :: _ => do
    some (some a, some (← p.resolveTag h s), p.skip.skip)
  | .anchor a :: _ => some (some a, none, p.skip)
  | .tag h s :: .anchor a :: _ => do
    some (some a, some (← p.resolveTag h s), p.skip.skip)
  | .tag h s :: _ => do some (none, some (← p.resolveTag h s), p.skip)
  | _ => some (none, none, p)

/-- Reads the beginning of a member: an alias, a scalar, or the beginning of a collection. Block
collections are read only in block style, and a sequence that is not indented only where
`indentless` allows it. -/
def node (p : Parser) (block indentless : Bool) : Option (Event × Parser) :=
  match p.tokens with
  | .alias name :: _ => some (.alias name, p.skip.pop)
  | _ => do
    let (anchor, tag, p) ← p.properties
    match p.tokens with
    | [] => none
    | .scalar text style :: _ => some (.scalar anchor tag text style, p.skip.pop)
    | .flowSequenceStart :: _ => some (.sequenceStart anchor tag, p.expect .flowSequenceFirst)
    | .flowMappingStart :: _ => some (.mappingStart anchor tag, p.expect .flowMappingFirst)
    | t :: _ =>
      if indentless && t == .blockEntry then
        some (.sequenceStart anchor tag, p.expect .indentlessSequenceEntry)
      else if block && t == .blockSequenceStart then
        some (.sequenceStart anchor tag, p.expect .blockSequenceFirst)
      else if block && t == .blockMappingStart then
        some (.mappingStart anchor tag, p.expect .blockMappingFirst)
      else if anchor.isSome || tag.isSome then some (.scalar anchor tag "" .plain, p.pop)
      else none

/-- Reads a member unless one of the tokens `ends` shows that it is left out. -/
def nodeUnless (p : Parser) (ends : List Token) (block indentless : Bool) (after : Expect) :
    Option (Event × Parser) :=
  match p.tokens with
  | [] => none
  | t :: _ =>
    if ends.contains t then some (blank, p.expect after)
    else (p.push after).node block indentless

/-- An item of a block sequence, or its end. -/
def blockSequence (p : Parser) : Option (Event × Parser) :=
  match p.tokens with
  | .blockEntry :: _ => p.skip.nodeUnless [.blockEntry, .blockEnd] true false .blockSequenceEntry
  | .blockEnd :: _ => some (.sequenceEnd, p.skip.pop)
  | _ => none

/-- A key of a block mapping, or its end. -/
def blockMapping (p : Parser) : Option (Event × Parser) :=
  match p.tokens with
  | .key :: _ => p.skip.nodeUnless [.key, .value, .blockEnd] true true .blockMappingValue
  | .blockEnd :: _ => some (.mappingEnd, p.skip.pop)
  | _ => none

/-- An item of a flow sequence, or its end. -/
def flowSequence (p : Parser) : Option (Event × Parser) :=
  match p.tokens with
  | [] => none
  | .flowSequenceEnd :: _ => some (.sequenceEnd, p.skip.pop)
  | .key :: _ => some (.mappingStart none none, p.skip.expect .flowPairKey)
  | _ => (p.push .flowSequenceEntry).node false false

/-- A key of a flow mapping, or its end. -/
def flowMapping (p : Parser) : Option (Event × Parser) :=
  match p.tokens with
  | [] => none
  | .flowMappingEnd :: _ => some (.mappingEnd, p.skip.pop)
  | .key :: _ =>
    p.skip.nodeUnless [.value, .flowEntry, .flowMappingEnd] false false .flowMappingValue
  | _ => (p.push .flowMappingEmptyValue).node false false

/-- The next event. -/
def step (p : Parser) : Option (Event × Parser) :=
  match p.state with
  | .documentEnd => none
  | .blockNode => p.node true false
  | .documentContent =>
    match p.tokens with
    | [] => none
    | .versionDirective .. :: _ => some (blank, p.pop)
    | .tagDirective .. :: _ => some (blank, p.pop)
    | .documentStart :: _ => some (blank, p.pop)
    | .documentEnd :: _ => some (blank, p.pop)
    | .streamEnd :: _ => some (blank, p.pop)
    | _ => p.node true false
  | .blockSequenceFirst => p.skip.blockSequence
  | .blockSequenceEntry => p.blockSequence
  | .indentlessSequenceEntry =>
    match p.tokens with
    | [] => none
    | .blockEntry :: _ =>
      p.skip.nodeUnless [.blockEntry, .key, .value, .blockEnd] true false .indentlessSequenceEntry
    | _ => some (.sequenceEnd, p.pop)
  | .blockMappingFirst => p.skip.blockMapping
  | .blockMappingKey => p.blockMapping
  | .blockMappingValue =>
    match p.tokens with
    | [] => none
    | .value :: _ => p.skip.nodeUnless [.key, .value, .blockEnd] true true .blockMappingKey
    | _ => some (blank, p.expect .blockMappingKey)
  | .flowSequenceFirst => p.skip.flowSequence
  | .flowSequenceEntry =>
    match p.tokens with
    | .flowSequenceEnd :: _ => p.flowSequence
    | .flowEntry :: _ => p.skip.flowSequence
    | _ => none
  | .flowPairKey =>
    match p.tokens with
    | [] => none
    | .value :: _ => some (blank, p.skip.expect .flowPairValue)
    | .flowEntry :: _ => some (blank, p.skip.expect .flowPairValue)
    | .flowSequenceEnd :: _ => some (blank, p.skip.expect .flowPairValue)
    | _ => (p.push .flowPairValue).node false false
  | .flowPairValue =>
    match p.tokens with
    | [] => none
    | .value :: _ => p.skip.nodeUnless [.flowEntry, .flowSequenceEnd] false false .flowPairEnd
    | _ => some (blank, p.expect .flowPairEnd)
  | .flowPairEnd =>
    if p.tokens.isEmpty then none else some (.mappingEnd, p.expect .flowSequenceEntry)
  | .flowMappingFirst => p.skip.flowMapping
  | .flowMappingKey =>
    match p.tokens with
    | .flowMappingEnd :: _ => p.flowMapping
    | .flowEntry :: _ => p.skip.flowMapping
    | _ => none
  | .flowMappingValue =>
    match p.tokens with
    | [] => none
    | .value :: _ => p.skip.nodeUnless [.flowEntry, .flowMappingEnd] false false .flowMappingKey
    | _ => some (blank, p.expect .flowMappingKey)
  | .flowMappingEmptyValue =>
    if p.tokens.isEmpty then none else some (blank, p.expect .flowMappingKey)

/-- The events up to the end of the document, and the tokens behind it; no tokens if reading broke
off. `fuel` bounds the number of events. -/
def events : Nat → Parser → List Event × Option (List Token)
  | 0, _ => ([], none)
  | fuel + 1, p =>
    if p.state = .documentEnd then
      match p.tokens with
      | [] => ([], none)
      | .documentEnd :: rest => ([], some rest)
      | rest => ([], some rest)
    else
      match p.step with
      | none => ([], none)
      | some (e, p) =>
        let (es, rest) := events fuel p
        (e :: es, rest)

end Parser

/-- What the handles stand for that need not be defined. -/
def defaultHandles : List (String × List UInt8) :=
  [("!", "!".toUTF8.toList), ("!!", Tag.coreLead)]

/-- Reads directives: at most one for the version, which has to be 1.1 or 1.2, and one for each
handle. -/
def directives (versioned : Bool) (handles : List (String × List UInt8)) :
    List Token → Option (List (String × List UInt8) × List Token)
  | .versionDirective major minor :: rest =>
    if versioned || major ≠ 1 || (minor ≠ 1 && minor ≠ 2) then none
    else directives true handles rest
  | .tagDirective h lead :: rest =>
    if (handles.lookup h).isSome then none else directives versioned (handles ++ [(h, lead)]) rest
  | rest => some (handles, rest)

/-- The first document of a text. -/
inductive FirstDocument where
  /-- There is none. -/
  | absent
  /-- Its events, and the tokens behind it; no tokens if reading broke off. -/
  | events (events : List Event) (rest : Option (List Token))
  deriving Inhabited

/-- Reads the first document. -/
def firstDocument (tokens : List Token) : FirstDocument :=
  let read (state : Expect) (handles : List (String × List UInt8)) (tokens : List Token) :=
    let p : Parser := ⟨tokens, state, [.documentEnd], handles ++ defaultHandles⟩
    let (es, rest) := p.events (8 * tokens.length + 16)
    FirstDocument.events es rest
  let explicit : FirstDocument :=
    match directives false [] tokens with
    | some (handles, .documentStart :: rest) => read .documentContent handles rest
    | _ => .events [] none
  match tokens with
  | [] => .events [] none
  | .streamEnd :: _ => .absent
  | .versionDirective .. :: _ => explicit
  | .tagDirective .. :: _ => explicit
  | .documentStart :: _ => explicit
  | _ => read .blockNode [] tokens

/-- Whether only the end of the text follows a document. -/
def endsStream (rest : List Token) : Bool :=
  (rest.dropWhile (· == .documentEnd)).head? == some .streamEnd

end Event

end BenchPlan.Yaml
