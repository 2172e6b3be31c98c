import BenchPlan.Yaml.Source

/-!
# Block scalars

Scalars that keep their lines, or fold them, as long as the lines are indented. The header says
what becomes of the line breaks at the end, and may give the indentation, which otherwise is that
of the first line with text.
-/

namespace BenchPlan.Yaml.Block

/-- What becomes of the line breaks at the end of the scalar. -/
inductive Chomping where
  | strip
  | clip
  | keep
  deriving DecidableEq, Repr, Inhabited

/-- The header of a block scalar. -/
structure Header where
  chomping : Chomping
  /-- The indentation relative to the collection around, if it is given. -/
  increment : Option Nat
  deriving Repr, Inhabited

/-- Reads a chomping indicator. -/
def chomping? : List Char → Option (Chomping × List Char)
  | '+' :: rest => some (.keep, rest)
  | '-' :: rest => some (.strip, rest)
  | _ => none

/-- Reads an indentation indicator; zero is refused. -/
def increment : List Char → Option (Option Nat × List Char)
  | c :: rest =>
    if c = '0' then none
    else if c.isDigit then some (some (c.toNat - '0'.toNat), rest)
    else some (none, c :: rest)
  | [] => some (none, [])

/-- Reads the two indicators in either order. -/
def header (cs : List Char) : Option (Header × List Char) :=
  match chomping? cs with
  | some (ch, rest) => do
    let (inc, rest) ← increment rest
    some (⟨ch, inc⟩, rest)
  | none => do
    let (inc, rest) ← increment cs
    match inc, chomping? rest with
    | some _, some (ch, rest) => some (⟨ch, inc⟩, rest)
    | _, _ => some (⟨.clip, inc⟩, rest)

/-- Skips white space and a comment up to the end of the line. -/
def restOfLine (p : Pos) (cs : List Char) : Option (Pos × List Char) :=
  let blanks := cs.takeWhile isGap
  let rest := cs.dropWhile isGap
  let comment := if rest.head? == some '#' then rest.takeWhile (fun c => !isBreak c) else []
  let p := p.past (blanks ++ comment)
  match rest.drop comment.length with
  | [] => some (p, [])
  | c :: rest => (takeBreak? p (c :: rest)).map fun r => r.2

/-- Line breaks and indentation that were read. -/
structure Margin where
  breaks : List Char
  /-- The greatest column reached on a line. -/
  widest : Nat
  pos : Pos
  rest : List Char

/-- Reads lines without text and the indentation of the next line; an indentation of zero stands for
one that is not known yet. A tab in the indentation is refused. -/
def margin (indent : Nat) (widest : Nat) (breaks : List Char) (p : Pos) :
    List Char → Option Margin
  | '\r' :: '\n' :: rest =>
    margin indent (max widest p.column) (breaks ++ ['\n']) (p.newline 2) rest
  | c :: rest =>
    let inside := indent = 0 ∨ p.column < indent
    if c = ' ' ∧ inside then margin indent widest breaks (p.next c) rest
    else if c = '\t' ∧ inside then none
    else if isBreak c then
      margin indent (max widest p.column) (breaks ++ [breakChar c]) (p.newline c.utf8Size) rest
    else some ⟨breaks, max widest p.column, p, c :: rest⟩
  | [] => some ⟨breaks, max widest p.column, p, []⟩

/-- The lines read so far. -/
structure Lines where
  /-- Their text up to the last line with text, its characters in reverse. -/
  text : List Char
  /-- The line break after the last line with text. -/
  last : Option Char
  /-- The line breaks after that one. -/
  breaks : List Char
  /-- Whether the last line began with white space. -/
  indented : Bool

/-- What stands between the lines so far and the next one, which `startsBlank` or not. When folding,
one line break between lines that begin with text becomes a space. -/
def Lines.joint (l : Lines) (folded startsBlank : Bool) : List Char :=
  if folded && l.last == some '\n' && !l.indented && !startsBlank then
    if l.breaks.isEmpty then [' '] else l.breaks
  else l.last.toList ++ l.breaks

/-- Reads the lines at the given indentation. `fuel` bounds their number. -/
def lines (folded : Bool) (indent : Nat) : Nat → Pos → List Char → Lines →
    Option (Lines × Pos × List Char)
  | 0, _, _, _ => none
  | fuel + 1, p, cs, l =>
    match cs with
    | [] => some (l, p, [])
    | c :: _ =>
      if p.column ≠ indent then some (l, p, cs)
      else
        let line := cs.takeWhile fun c => !isBreak c
        let text := line.reverse ++ (l.joint folded (isGap c)).reverse ++ l.text
        let p := p.past line
        let (last, p, rest) : Option Char × Pos × List Char :=
          match takeBreak? p (cs.drop line.length) with
          | some (b, p, rest) => (some b, p, rest)
          | none => (none, p, cs.drop line.length)
        match margin indent 0 [] p rest with
        | none => none
        | some m => lines folded indent fuel m.pos m.rest ⟨text, last, m.breaks, isGap c⟩

/-- Reads a block scalar behind its indicator, in a collection at the column `around`, which is
negative outside of all. The text has at most `size` characters. -/
def read (size : Nat) (folded : Bool) (around : Int) (p : Pos) (cs : List Char) :
    Option (List Char × Pos × List Char) := do
  let (h, rest) ← header cs
  let (p, rest) ← restOfLine (p.upTo cs rest) rest
  let given : Nat :=
    match h.increment with
    | some n => (max around 0).toNat + n
    | none => 0
  let m ← margin given 0 [] p rest
  let indent := if given = 0 then max m.widest (max (around + 1).toNat 1) else given
  let (l, p, rest) ← lines folded indent (size + 1) m.pos m.rest ⟨[], none, m.breaks, false⟩
  let tail :=
    match h.chomping with
    | .strip => []
    | .clip => l.last.toList
    | .keep => l.last.toList ++ l.breaks
  some (l.text.reverse ++ tail, p, rest)

end BenchPlan.Yaml.Block
