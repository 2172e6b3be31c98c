import BenchPlan.Text.Digit

/-!
# Log lines

What the library has to say while it works. A function that logs returns its lines, in order, with
its result; the outer layer decides which of them are shown.
-/

namespace BenchPlan

/-- How important a log line is. -/
inductive Level where
  | trace
  | debug
  | info
  | error
  deriving DecidableEq, Repr, Inhabited

namespace Level

/-- The level as it is printed. -/
def label : Level → String
  | trace => "TRACE"
  | debug => "DEBUG"
  | info => "INFO"
  | error => "ERROR"

/-- Levels in ascending order of importance. -/
def rank : Level → Nat
  | trace => 0
  | debug => 1
  | info => 2
  | error => 3

end Level

/-- One line of the log: its level, the part of the program that speaks, and what it says. -/
structure LogLine where
  level : Level
  source : String
  message : String
  deriving DecidableEq, Repr, Inhabited

namespace LogLine

/-- The line without its source. -/
def brief (l : LogLine) : String := l.level.label ++ " " ++ l.message

/-- A character as it is sent to a terminal. Those that can begin a control sequence are written
out. -/
def terminalChar (c : Char) : String :=
  let code := Text.hexDigits c.toNat
  if c = '\x07' ∨ c = '\x08' ∨ c = '\x0C' then "\\x0" ++ code
  else if c = '\x1B' ∨ c = '\x7F' then "\\x" ++ code
  else if 0x80 ≤ c.toNat ∧ c.toNat ≤ 0x9F then "\\u\x7b" ++ code ++ "\x7d"
  else c.toString

/-- The line as it is sent to a terminal. -/
def full (l : LogLine) : String :=
  l.level.label ++ " " ++ l.source ++ ": " ++ String.join (l.message.toList.map terminalChar)

end LogLine

/-- Log lines in order. -/
abbrev Log := List LogLine

end BenchPlan
