import BenchPlan.Yaml.Token.Gap

/-!
# Plain scalars

Scalars without quotes. They end before a comment, before a colon that ends a word, at a mark
between documents, at a line that is not indented enough, and in flow style at a comma or bracket.
-/

namespace BenchPlan.Yaml.Plain

/-- Whether a character ends a plain scalar in flow style. -/
def isFlowEnd (c : Char) : Bool := c == ',' || c == '[' || c == ']' || c == '{' || c == '}'

/-- Reads a word. In flow style a colon must not stand before a bracket, a comma or a question
mark. -/
def word (flow : Bool) : List Char → Option (List Char × List Char)
  | [] => some ([], [])
  | c :: rest =>
    if isGap c || isBreak c then some ([], c :: rest)
    else if flow && c == ':' && rest.head?.any (fun d => isFlowEnd d || d == '?') then none
    else if (c == ':' && atWordEnd rest) || (flow && isFlowEnd c) then some ([], c :: rest)
    else (word flow rest).map fun r => (c :: r.1, r.2)

/-- A plain scalar that was read. -/
structure Result where
  text : List Char
  /-- Whether it was followed by a line break. -/
  broken : Bool
  pos : Pos
  rest : List Char

/-- Reads on from a place between two words, `gap` after the text so far, whose characters come in
reverse. `fuel` bounds the number of words. -/
def words (flow : Bool) (least : Int) :
    Nat → Pos → List Char → List Char → Gap → Option Result
  | 0, _, _, _, _ => none
  | fuel + 1, p, cs, text, gap =>
    if (p.column = 0 && isDocumentMark cs) || cs.head? == some '#' then
      some ⟨text.reverse, gap.broken, p, cs⟩
    else do
      let (w, rest) ← word flow cs
      let (text, gap) :=
        if w.isEmpty then (text, gap) else (w.reverse ++ gap.fold.reverse ++ text, Gap.none)
      let p := p.past w
      if rest.head?.any (fun c => isGap c || isBreak c) then
        let (gap, p, rest) ← Gap.read least rest p Gap.none
        if !flow && (p.column : Int) < least then some ⟨text.reverse, gap.broken, p, rest⟩
        else words flow least fuel p rest text gap
      else some ⟨text.reverse, gap.broken, p, rest⟩

/-- Reads a plain scalar. Its lines after the first begin at the column `least` or later, unless it
is in flow style. The text has at most `size` characters. -/
def read (size : Nat) (flow : Bool) (least : Int) (p : Pos) (cs : List Char) : Option Result :=
  words flow least (size + 1) p cs [] Gap.none

end BenchPlan.Yaml.Plain
