import BenchPlan.Text.Digit
import BenchPlan.Yaml.Token.Gap

/-!
# Quoted scalars

In single quotes only the quote itself is special, and is doubled. In double quotes a backslash
begins an escape; before a line break it joins the lines.
-/

namespace BenchPlan.Yaml.Quoted

/-- The number that hexadecimal digits write. -/
def hexNumber? (cs : List Char) : Option Nat :=
  cs.foldl (fun n c => do return (← n) * 16 + (← Text.digitValue? c)) (some 0)

/-- The character that a single letter after a backslash stands for. -/
def escape? (c : Char) : Option Char :=
  match c with
  | '0' => some '\x00'
  | 'a' => some '\x07'
  | 'b' => some '\x08'
  | 't' => some '\t'
  | '\t' => some '\t'
  | 'n' => some '\n'
  | 'v' => some '\x0B'
  | 'f' => some '\x0C'
  | 'r' => some '\r'
  | 'e' => some '\x1B'
  | ' ' => some ' '
  | '"' => some '"'
  | '/' => some '/'
  | '\\' => some '\\'
  | 'N' => some '\u0085'
  | '_' => some '\u00A0'
  | 'L' => some '\u2028'
  | 'P' => some '\u2029'
  | _ => none

/-- How many hexadecimal digits follow a letter after a backslash. -/
def codeLength? (c : Char) : Option Nat :=
  match c with
  | 'x' => some 2
  | 'u' => some 4
  | 'U' => some 8
  | _ => none

/-- Reads a code point of `n` hexadecimal digits. -/
def codePoint? (n : Nat) (cs : List Char) : Option Char :=
  if cs.length < n then none
  else
    match hexNumber? (cs.take n) with
    | some v => if (0xD800 ≤ v ∧ v ≤ 0xDFFF) ∨ 0x10FFFF < v then none else some (Char.ofNat v)
    | none => none

/-- A stretch without white space that was read, its characters in reverse. -/
structure Stretch where
  text : List Char
  /-- Whether it ended in an escaped line break. -/
  escaped : Bool
  pos : Pos
  rest : List Char

/-- Reads on in single quotes up to white space, a line break or the closing quote. -/
def single (text : List Char) (p : Pos) : List Char → Stretch
  | '\'' :: '\'' :: rest => single ('\'' :: text) (p.past ['\'', '\'']) rest
  | c :: rest =>
    if isGap c || isBreak c || c == '\'' then ⟨text, false, p, c :: rest⟩
    else single (c :: text) (p.next c) rest
  | [] => ⟨text, false, p, []⟩

/-- Reads on in double quotes up to white space, a line break or the closing quote. -/
def double (text : List Char) (p : Pos) (cs : List Char) : Option Stretch :=
  match cs with
  | [] => some ⟨text, false, p, []⟩
  | '\\' :: e :: rest =>
    match takeBreak? (p.next '\\') (e :: rest) with
    | some (_, p, rest) => some ⟨text, true, p, rest⟩
    | none =>
      match escape? e with
      | some c => double (c :: text) (p.past ['\\', e]) rest
      | none => do
        let n ← codeLength? e
        let c ← codePoint? n rest
        double (c :: text) (p.past ('\\' :: e :: rest.take n)) (rest.drop n)
  | c :: rest =>
    if isGap c || isBreak c || c == '"' then some ⟨text, false, p, c :: rest⟩
    else if c == '\\' then none
    else double (c :: text) (p.next c) rest
  termination_by cs.length
  decreasing_by all_goals simp only [List.length_cons, List.length_drop]; omega

/-- Reads on at a place between two stretches. `fuel` bounds the number of stretches. -/
def stretches (quote : Char) : Nat → Pos → List Char → List Char →
    Option (List Char × Pos × List Char)
  | 0, _, _, _ => none
  | fuel + 1, p, cs, text =>
    if (p.column = 0 && isDocumentMark cs) || cs.isEmpty then none
    else do
      let s ← if quote = '\'' then some (single text p cs) else double text p cs
      match s.rest with
      | [] => none
      | c :: rest =>
        if c = quote then some (s.text.reverse, s.pos.next c, rest)
        else
          let start := if s.escaped then Gap.escaped else Gap.none
          let (gap, p, rest) ← Gap.read 0 s.rest s.pos start
          stretches quote fuel p rest (gap.fold.reverse ++ s.text)

/-- Reads a quoted scalar behind its opening quote, from a text of at most `size` characters. -/
def read (size : Nat) (quote : Char) (p : Pos) (cs : List Char) :
    Option (List Char × Pos × List Char) :=
  stretches quote (size + 1) p cs []

end BenchPlan.Yaml.Quoted
