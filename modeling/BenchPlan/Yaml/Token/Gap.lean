import BenchPlan.Yaml.Source

/-!
# Gaps inside scalars

White space and line breaks between two words of a scalar. A gap without a line break is kept as it
is; one line break is folded into a space, and of several the first is dropped.
-/

namespace BenchPlan.Yaml

/-- What was read between two words. -/
structure Gap where
  /-- White space before the first line break. -/
  blanks : List Char
  /-- Whether there was a line break. -/
  broken : Bool
  /-- The first line break, unless it was escaped. -/
  first : Option Char
  /-- The other line breaks. -/
  others : List Char
  deriving Repr, Inhabited

namespace Gap

/-- Nothing read. -/
def none : Gap := ⟨[], false, .none, []⟩

/-- An escaped line break. -/
def escaped : Gap := ⟨[], true, .none, []⟩

/-- Adds a line break. -/
def addBreak (g : Gap) (c : Char) : Gap :=
  if g.broken then { g with others := g.others ++ [c] } else ⟨[], true, some c, []⟩

/-- What the gap stands for in the scalar. -/
def fold (g : Gap) : List Char :=
  if g.broken then
    match g.first with
    | some '\n' => if g.others.isEmpty then [' '] else g.others
    | some c => c :: g.others
    | .none => g.others
  else g.blanks

/-- Reads white space and line breaks. A tab at the start of a line, before the column `least`, is
refused. -/
def read (least : Int) : List Char → Pos → Gap → Option (Gap × Pos × List Char)
  | '\r' :: '\n' :: rest, p, g => read least rest (p.newline 2) (g.addBreak '\n')
  | c :: rest, p, g =>
    if isGap c then
      if g.broken then
        if c = '\t' ∧ (p.column : Int) < least then .none else read least rest (p.next c) g
      else read least rest (p.next c) { g with blanks := g.blanks ++ [c] }
    else if isBreak c then read least rest (p.newline c.utf8Size) (g.addBreak (breakChar c))
    else some (g, p, c :: rest)
  | [], p, g => some (g, p, [])

end Gap

end BenchPlan.Yaml
