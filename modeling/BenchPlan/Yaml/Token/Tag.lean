import BenchPlan.Yaml.Source
import BenchPlan.Yaml.Token
import BenchPlan.Yaml.Token.Quoted

/-!
# Tags and directives

A tag is written in full between angle brackets, or in short with a handle that a directive may
define. Octets in tags may be escaped; they have to form characters in outline, though not
necessarily ones that exist.
-/

namespace BenchPlan.Yaml.TagText

/-- Whether a character may occur in a tag; between angle brackets there are a few more. -/
def isUriChar (verbatim : Bool) (c : Char) : Bool :=
  isNameChar c || ";/?:@&=+$.%!~*'()".toList.contains c || (verbatim && ",[]".toList.contains c)

/-- Reads an escaped octet. -/
def octet? : List Char → Option (UInt8 × List Char)
  | '%' :: a :: b :: rest => do
    some (UInt8.ofNat ((← Text.digitValue? a) * 16 + (← Text.digitValue? b)), rest)
  | _ => none

/-- How many octets a character has that begins with this one. -/
def octetWidth? (b : UInt8) : Option Nat :=
  if b < 0x80 then some 1
  else if 0xC0 ≤ b ∧ b < 0xE0 then some 2
  else if 0xE0 ≤ b ∧ b < 0xF0 then some 3
  else if 0xF0 ≤ b ∧ b < 0xF8 then some 4
  else none

/-- Reads `n` escaped octets that go on with a character. -/
def tailOctets? : Nat → List Char → Option (List UInt8 × List Char)
  | 0, cs => some ([], cs)
  | n + 1, cs => do
    let (b, rest) ← octet? cs
    if 0x80 ≤ b ∧ b < 0xC0 then
      let (bs, rest) ← tailOctets? n rest
      some (b :: bs, rest)
    else none

/-- Reads the escaped octets of one character. -/
def escaped? (cs : List Char) : Option (List UInt8 × List Char) := do
  let (b, rest) ← octet? cs
  let n ← octetWidth? b
  let (bs, rest) ← tailOctets? (n - 1) rest
  some (b :: bs, rest)

/-- Reads the characters of a tag. `fuel` bounds their number. -/
def uri (verbatim : Bool) : Nat → List Char → Option (List UInt8 × List Char)
  | 0, cs => some ([], cs)
  | _ + 1, [] => some ([], [])
  | fuel + 1, c :: rest =>
    if !isUriChar verbatim c then some ([], c :: rest)
    else do
      let (bs, rest) ← if c = '%' then escaped? (c :: rest) else some ([UInt8.ofNat c.toNat], rest)
      let (more, rest) ← uri verbatim fuel rest
      some (bs ++ more, rest)

/-- The octets of a text in ASCII. -/
def octets (cs : List Char) : List UInt8 := cs.map fun c => UInt8.ofNat c.toNat

/-- Reads a handle: an exclamation mark, and a name with another one if there is one. -/
def handle? : List Char → Option (List Char × List Char)
  | '!' :: rest =>
    let name := rest.takeWhile isNameChar
    match rest.dropWhile isNameChar with
    | '!' :: rest => some ('!' :: name ++ ['!'], rest)
    | rest => some ('!' :: name, rest)
  | _ => none

/-- Whether what was read as a handle is one, and not the beginning of a local tag. -/
def isHandle (h : List Char) : Bool := 1 < h.length && h.getLast? == some '!'

/-- Reads a tag at its exclamation mark. -/
def read (flow : Bool) (cs : List Char) : Option (Token × List Char) := do
  let (t, rest) ←
    match cs with
    | '!' :: '<' :: rest => do
      let (suffix, rest) ← uri true rest.length rest
      match suffix, rest with
      | _ :: _, '>' :: rest => some (Token.tag "" suffix, rest)
      | _, _ => none
    | _ => do
      let (h, rest) ← handle? cs
      let (suffix, rest) ← uri false rest.length rest
      if isHandle h then
        if suffix.isEmpty then none else some (Token.tag (String.ofList h) suffix, rest)
      else
        match octets h.tail ++ suffix with
        | [] => some (Token.tag "" (octets ['!']), rest)
        | suffix => some (Token.tag "!" suffix, rest)
  if atWordEnd rest || (flow && rest.head? == some ',') then some (t, rest) else none

/-- Reads a number of at most nine digits. -/
def number? (cs : List Char) : Option (Nat × List Char) :=
  let ds := cs.takeWhile Char.isDigit
  if ds.isEmpty || 9 < ds.length then none
  else some (ds.foldl (fun n c => n * 10 + (c.toNat - '0'.toNat)) 0, cs.dropWhile Char.isDigit)

/-- Reads a directive behind its percent sign, without the rest of the line. -/
def directive (cs : List Char) : Option (Token × List Char) := do
  let name := cs.takeWhile isNameChar
  let rest := cs.dropWhile isNameChar
  if !atWordEnd rest then none
  else
    match String.ofList name with
    | "YAML" => do
      let (major, rest) ← number? (rest.dropWhile isGap)
      match rest with
      | '.' :: rest => do
        let (minor, rest) ← number? rest
        some (.versionDirective major minor, rest)
      | _ => none
    | "TAG" => do
      let (h, rest) ← handle? (rest.dropWhile isGap)
      if h ≠ ['!'] ∧ !isHandle h then none
      else if !rest.head?.any isGap then none
      else
        let rest := rest.dropWhile isGap
        let (lead, rest) ← uri true rest.length rest
        if lead.isEmpty || !atWordEnd rest then none
        else some (.tagDirective (String.ofList h) lead, rest)
    | _ => none

end BenchPlan.Yaml.TagText
