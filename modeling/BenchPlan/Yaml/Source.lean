/-!
# Source text

The text of a document as the reader takes it in. It comes in blocks, and a block with a character
that may not occur in a document is not taken in at all: there the text is torn off.
-/

namespace BenchPlan.Yaml

/-- Whether a character may occur in a document. -/
def isAllowed (c : Char) : Bool :=
  let n := c.toNat
  n == 0x09 || n == 0x0A || n == 0x0D || (0x20 ≤ n && n ≤ 0x7E) || n == 0x85 ||
    (0xA0 ≤ n && n ≤ 0xD7FF) || (0xE000 ≤ n && n ≤ 0xFFFD) || 0x10000 ≤ n

/-- The size of a block in bytes. -/
def blockSize : Nat := 16384

/-- The blocks of a text read so far, the last one first, and so are the characters in each. -/
structure Blocks where
  done : List (List Char)
  current : List Char
  used : Nat

/-- Takes in one character; a character that does not fit begins the next block. -/
def Blocks.add (b : Blocks) (c : Char) : Blocks :=
  if b.used + c.utf8Size ≤ blockSize then
    { b with current := c :: b.current, used := b.used + c.utf8Size }
  else ⟨b.current :: b.done, [c], c.utf8Size⟩

/-- The blocks of a text in order. -/
def blocks (s : String) : List (List Char) :=
  let b := s.toList.foldl Blocks.add ⟨[], [], 0⟩
  ((b.current :: b.done).map List.reverse).reverse

/-- The text that is taken in. -/
structure Source where
  chars : List Char
  /-- Whether there was more that could not be taken in. -/
  torn : Bool

/-- The text up to the first block with a character that may not occur. -/
def Source.ofText (s : String) : Source :=
  let all := blocks s
  let good := all.takeWhile fun b => b.all isAllowed
  ⟨good.flatten, good.length < all.length⟩

/-- A place in a text. -/
structure Pos where
  /-- The size of the text before it, in bytes. -/
  index : Nat
  line : Nat
  /-- The number of characters before it on the line. -/
  column : Nat
  deriving DecidableEq, Repr, Inhabited

namespace Pos

/-- The beginning of a text. -/
def start : Pos := ⟨0, 0, 0⟩

/-- The place after a character on the line. -/
def next (p : Pos) (c : Char) : Pos := ⟨p.index + c.utf8Size, p.line, p.column + 1⟩

/-- The place after some characters on the line. -/
def past (p : Pos) (cs : List Char) : Pos := cs.foldl next p

/-- The place after the characters of `cs` on the line that are not left in `rest`. -/
def upTo (p : Pos) (cs rest : List Char) : Pos := p.past (cs.take (cs.length - rest.length))

/-- The beginning of the next line, after a line break of `n` bytes. -/
def newline (p : Pos) (n : Nat) : Pos := ⟨p.index + n, p.line + 1, 0⟩

end Pos

/-- Whether a character ends a line. -/
def isBreak (c : Char) : Bool :=
  c == '\n' || c == '\r' || c == '\u0085' || c == '\u2028' || c == '\u2029'

/-- Whether a character is a space or a tab. -/
def isGap (c : Char) : Bool := c == ' ' || c == '\t'

/-- Whether the text ends here, or goes on with a space, a tab or a line break. -/
def atWordEnd : List Char → Bool
  | [] => true
  | c :: _ => isGap c || isBreak c

/-- The character that stands for a line break in a scalar. -/
def breakChar (c : Char) : Char := if c == '\u2028' || c == '\u2029' then c else '\n'

/-- Takes a line break from the front, if there is one. -/
def takeBreak? (p : Pos) : List Char → Option (Char × Pos × List Char)
  | '\r' :: '\n' :: rest => some ('\n', p.newline 2, rest)
  | c :: rest => if isBreak c then some (breakChar c, p.newline c.utf8Size, rest) else none
  | [] => none

/-- Letters, digits, the hyphen and the underscore of ASCII. -/
def isNameChar (c : Char) : Bool := c.isAlphanum || c == '-' || c == '_'

/-- Whether a line begins with a mark of three characters between documents. -/
def isDocumentMark : List Char → Bool
  | '-' :: '-' :: '-' :: rest => atWordEnd rest
  | '.' :: '.' :: '.' :: rest => atWordEnd rest
  | _ => false

end BenchPlan.Yaml
