import BenchPlan.Text.Digit
import BenchPlan.Text.Shown

/-!
# Quoted text

A text between double quotes, as messages show it. Quotes and backslashes are escaped, so are the
usual control characters by letter, and every other character that does not show by its code point.
-/

namespace BenchPlan.Text

/-- A character inside quotes. -/
def quoteChar (c : Char) : String :=
  match c with
  | '\x00' => "\\0"
  | '\t' => "\\t"
  | '\n' => "\\n"
  | '\r' => "\\r"
  | '"' => "\\\""
  | '\\' => "\\\\"
  | c => if isShown c then c.toString else "\\u\x7b" ++ hexDigits c.toNat ++ "\x7d"

/-- The text between quotes. -/
def quote (s : String) : String := "\"" ++ String.join (s.toList.map quoteChar) ++ "\""

end BenchPlan.Text
