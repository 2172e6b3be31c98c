import BenchPlan.Yaml.Token
import BenchPlan.Yaml.Token.Block
import BenchPlan.Yaml.Token.Plain
import BenchPlan.Yaml.Token.Quoted
import BenchPlan.Yaml.Token.Tag

/-!
# Scanning

A document is cut into tokens from left to right. Whether something is a key of a mapping is known
only when its colon is found, so tokens are held back as long as they may turn out to be the first
of a key. A key has to fit on one line and into 1024 bytes. When scanning fails, the tokens
held back are lost, and only those let go before are the result.
-/

namespace BenchPlan.Yaml

/-- Something that may turn out to be a key. -/
structure PendingKey where
  /-- The number of its first token. -/
  token : Nat
  /-- Whether nothing else than a key can stand here. -/
  required : Bool
  pos : Pos
  deriving Repr, Inhabited

/-- The state of scanning. -/
structure Scanner where
  /-- The length of the text, which bounds the number of steps of every loop. -/
  size : Nat
  rest : List Char
  pos : Pos
  torn : Bool
  /-- Whether a key may begin here. -/
  keyAllowed : Bool
  /-- The column of the innermost block collection, or -1. -/
  indent : Int
  /-- The columns around it. -/
  outer : List Int
  /-- What may turn out to be a key: in the block style, and in each open bracket, innermost
  first. -/
  keys : List (Option PendingKey)
  /-- The tokens held back. -/
  held : List Token
  /-- How many tokens were let go. -/
  released : Nat
  /-- Whether the end was reached. -/
  finished : Bool

namespace Scanner

/-- The state at the beginning of a text. -/
def start (s : Source) : Scanner where
  size := s.chars.length
  rest := s.chars
  pos := Pos.start
  torn := s.torn
  keyAllowed := true
  indent := -1
  outer := []
  keys := [none]
  held := []
  released := 0
  finished := false

/-- Whether brackets are open. -/
def inFlow (s : Scanner) : Bool := 1 < s.keys.length

/-- The number of the next token. -/
def nextToken (s : Scanner) : Nat := s.released + s.held.length

/-- Adds a token. -/
def emit (s : Scanner) (t : Token) : Scanner := { s with held := s.held ++ [t] }

/-- Inserts a token before the token with this number. -/
def emitAt (s : Scanner) (number : Nat) (t : Token) : Scanner :=
  let i := number - s.released
  { s with held := s.held.take i ++ t :: s.held.drop i }

/-- Goes on behind `n` characters of the line. -/
def skip (s : Scanner) (n : Nat) : Scanner :=
  { s with rest := s.rest.drop n, pos := s.pos.past (s.rest.take n) }

/-- Whether a possible key is too far back to be one. -/
def isStale (s : Scanner) (k : PendingKey) : Bool :=
  k.pos.line < s.pos.line || k.pos.index + 1024 < s.pos.index

/-- Gives up the possible keys that are too far back; one that is required must not be. -/
def dropStale (s : Scanner) : Option Scanner :=
  if s.keys.any (fun k => k.any fun k => s.isStale k && k.required) then none
  else some { s with keys := s.keys.map fun k => k.filter fun k => !s.isStale k }

/-- Gives up the innermost possible key; one that is required must not be. -/
def removeKey (s : Scanner) : Option Scanner :=
  match s.keys with
  | some k :: ks => if k.required then none else some { s with keys := none :: ks }
  | _ => some s

/-- Notes that the next token may be the first of a key. -/
def saveKey (s : Scanner) : Option Scanner :=
  if s.keyAllowed then do
    let k : PendingKey :=
      ⟨s.nextToken, !s.inFlow && decide (s.indent = (s.pos.column : Int)), s.pos⟩
    let s ← s.removeKey
    some { s with keys := some k :: s.keys.tail }
  else some s

/-- Opens a block collection at a column, if it is further in than the innermost one. -/
def openBlock (s : Scanner) (column : Nat) (number : Nat) (t : Token) : Scanner :=
  if !s.inFlow && decide (s.indent < (column : Int)) then
    { s with outer := s.indent :: s.outer, indent := column }.emitAt number t
  else s

/-- Closes the columns further in than `column` of a list of columns, innermost first. -/
def closeColumns (column : Int) (indent : Int) : List Int → Int × List Int × Nat
  | [] => if column < indent then (-1, [], 1) else (indent, [], 0)
  | o :: os =>
    if column < indent then
      let (indent, os, n) := closeColumns column o os
      (indent, os, n + 1)
    else (indent, o :: os, 0)

/-- Closes the block collections further in than a column. -/
def closeBlocks (s : Scanner) (column : Int) : Scanner :=
  if s.inFlow then s
  else
    let (indent, outer, n) := closeColumns column s.indent s.outer
    { s with indent := indent, outer := outer, held := s.held ++ List.replicate n .blockEnd }

/-- Skips white space, comments and line breaks between tokens. Tabs are skipped where no key may
begin; in the block style a key may begin on each new line. `fuel` bounds the number of lines. -/
def toNextToken : Nat → Scanner → Scanner
  | 0, s => s
  | fuel + 1, s =>
    let s := if s.pos.column = 0 && s.rest.head? == some '\uFEFF' then s.skip 1 else s
    let tabs := s.inFlow || !s.keyAllowed
    let s := s.skip (s.rest.takeWhile fun c => c == ' ' || (tabs && c == '\t')).length
    let s :=
      if s.rest.head? == some '#' then s.skip (s.rest.takeWhile fun c => !isBreak c).length else s
    match takeBreak? s.pos s.rest with
    | some (_, p, rest) =>
      toNextToken fuel
        { s with rest := rest, pos := p, keyAllowed := s.keyAllowed || !s.inFlow }
    | none => s

/-- The end of the text. -/
def fetchEnd (s : Scanner) : Option Scanner := do
  let s := if s.pos.column = 0 then s else { s with pos := ⟨s.pos.index, s.pos.line + 1, 0⟩ }
  let s ← (s.closeBlocks (-1)).removeKey
  some { s.emit .streamEnd with keyAllowed := false, finished := true }

/-- A directive and the rest of its line. -/
def fetchDirective (s : Scanner) : Option Scanner := do
  let s ← (s.closeBlocks (-1)).removeKey
  let (t, rest) ← TagText.directive (s.rest.drop 1)
  let (p, rest) ← Block.restOfLine (s.pos.upTo s.rest rest) rest
  some { s.emit t with keyAllowed := false, pos := p, rest := rest }

/-- A mark between documents. -/
def fetchDocumentMark (s : Scanner) (t : Token) : Option Scanner := do
  let s ← (s.closeBlocks (-1)).removeKey
  some { (s.skip 3).emit t with keyAllowed := false }

/-- An opening bracket. -/
def fetchOpen (s : Scanner) (t : Token) : Option Scanner := do
  let s ← s.saveKey
  some { (s.skip 1).emit t with keyAllowed := true, keys := none :: s.keys }

/-- A closing bracket. -/
def fetchClose (s : Scanner) (t : Token) : Option Scanner := do
  let s ← s.removeKey
  let keys := if s.inFlow then s.keys.tail else s.keys
  some { (s.skip 1).emit t with keyAllowed := false, keys := keys }

/-- A comma between entries in brackets. -/
def fetchFlowEntry (s : Scanner) : Option Scanner := do
  let s ← s.removeKey
  some { (s.skip 1).emit .flowEntry with keyAllowed := true }

/-- The hyphen of an item. -/
def fetchBlockEntry (s : Scanner) : Option Scanner := do
  if !s.inFlow && !s.keyAllowed then none
  else
    let s := s.openBlock s.pos.column s.nextToken .blockSequenceStart
    let s ← s.removeKey
    some { (s.skip 1).emit .blockEntry with keyAllowed := true }

/-- The question mark of a key. -/
def fetchKey (s : Scanner) : Option Scanner := do
  if !s.inFlow && !s.keyAllowed then none
  else
    let s := s.openBlock s.pos.column s.nextToken .blockMappingStart
    let s ← s.removeKey
    some { (s.skip 1).emit .key with keyAllowed := !s.inFlow }

/-- The colon of a value, which may make a key of what came before. -/
def fetchValue (s : Scanner) : Option Scanner :=
  match s.keys with
  | some k :: ks =>
    let s := (s.emitAt k.token .key).openBlock k.pos.column k.token .blockMappingStart
    some { (s.skip 1).emit .value with keyAllowed := false, keys := none :: ks }
  | _ =>
    if !s.inFlow && !s.keyAllowed then none
    else
      let s := s.openBlock s.pos.column s.nextToken .blockMappingStart
      some { (s.skip 1).emit .value with keyAllowed := !s.inFlow }

/-- An anchor or an alias: a name of ASCII letters, digits, hyphens and underscores. -/
def fetchAnchor (s : Scanner) (t : String → Token) : Option Scanner := do
  let s ← s.saveKey
  let name := (s.rest.drop 1).takeWhile isNameChar
  let rest := (s.rest.drop 1).dropWhile isNameChar
  if name.isEmpty then none
  else if atWordEnd rest || rest.head?.any (fun c => "?:,]\x7d%@`".toList.contains c) then
    some { (s.skip (1 + name.length)).emit (t (String.ofList name)) with keyAllowed := false }
  else none

/-- A tag. -/
def fetchTag (s : Scanner) : Option Scanner := do
  let s ← s.saveKey
  let (t, rest) ← TagText.read s.inFlow s.rest
  some { (s.skip (s.rest.length - rest.length)).emit t with keyAllowed := false }

/-- A block scalar. -/
def fetchBlockScalar (s : Scanner) (style : Style) : Option Scanner := do
  let s ← s.removeKey
  let (text, p, rest) ← Block.read s.size (style == .folded) s.indent (s.skip 1).pos (s.rest.drop 1)
  some { s.emit (.scalar (String.ofList text) style) with
    keyAllowed := true, pos := p, rest := rest }

/-- A quoted scalar. -/
def fetchQuoted (s : Scanner) (quote : Char) (style : Style) : Option Scanner := do
  let s ← s.saveKey
  let (text, p, rest) ← Quoted.read s.size quote (s.pos.next quote) (s.rest.drop 1)
  some { s.emit (.scalar (String.ofList text) style) with
    keyAllowed := false, pos := p, rest := rest }

/-- A plain scalar. After a line break a key may begin. -/
def fetchPlain (s : Scanner) : Option Scanner := do
  let s ← s.saveKey
  let r ← Plain.read s.size s.inFlow (s.indent + 1) s.pos s.rest
  some { s.emit (.scalar (String.ofList r.text) .plain) with
    keyAllowed := r.broken, pos := r.pos, rest := r.rest }

/-- Whether a plain scalar may begin with this character whatever follows. -/
def startsPlain (c : Char) : Bool :=
  !(isGap c || isBreak c || "-?:,[]\x7b\x7d#&*!|>'\"%@`".toList.contains c)

/-- The token at a place where one begins. -/
def fetchAt (s : Scanner) : Option Scanner :=
  match s.rest with
  | [] => s.fetchEnd
  | c :: after =>
    let flow := s.inFlow
    if s.pos.column = 0 && c == '%' then s.fetchDirective
    else if s.pos.column = 0 && isDocumentMark s.rest then
      s.fetchDocumentMark (if c = '-' then .documentStart else .documentEnd)
    else
      match c with
      | '[' => s.fetchOpen .flowSequenceStart
      | '\x7b' => s.fetchOpen .flowMappingStart
      | ']' => s.fetchClose .flowSequenceEnd
      | '\x7d' => s.fetchClose .flowMappingEnd
      | ',' => s.fetchFlowEntry
      | '*' => s.fetchAnchor .alias
      | '&' => s.fetchAnchor .anchor
      | '!' => s.fetchTag
      | '\'' => s.fetchQuoted '\'' .singleQuoted
      | '"' => s.fetchQuoted '"' .doubleQuoted
      | '|' => if flow then none else s.fetchBlockScalar .literal
      | '>' => if flow then none else s.fetchBlockScalar .folded
      | '-' => if atWordEnd after then s.fetchBlockEntry else s.fetchPlain
      | '?' =>
        if flow || atWordEnd after then s.fetchKey else s.fetchPlain
      | ':' =>
        if flow || atWordEnd after then s.fetchValue else s.fetchPlain
      | c => if startsPlain c then s.fetchPlain else none

/-- The next token, or several if collections begin or end with it. Where the text is torn off there
is none. -/
def fetch (s : Scanner) : Option Scanner := do
  let s := toNextToken (s.size + 1) s
  let s ← s.dropStale
  let s := s.closeBlocks s.pos.column
  if s.torn && s.rest.length < 4 then none
  else
    let s ← s.fetchAt
    if s.torn && s.rest.isEmpty then none else some s

/-- Lets go the tokens that cannot be the first of a key any more. -/
def release (s : Scanner) : List Token × Scanner :=
  let waiting := s.keys.filterMap fun k => k.map (·.token)
  let n := waiting.foldl (fun n t => min n (t - s.released)) s.held.length
  (s.held.take n, { s with held := s.held.drop n, released := s.released + n })

/-- The tokens of the rest of a text. `fuel` bounds the number of steps. -/
def tokens : Nat → Scanner → List Token
  | 0, _ => []
  | fuel + 1, s =>
    match s.fetch.bind dropStale with
    | none => []
    | some s =>
      let (out, s) := s.release
      if s.finished then out else out ++ tokens fuel s

end Scanner

/-- The tokens of a text. They end with `streamEnd` if the text could be read to its end. -/
def tokensOf (s : Source) : List Token := (Scanner.start s).tokens (s.chars.length + 2)

end BenchPlan.Yaml
