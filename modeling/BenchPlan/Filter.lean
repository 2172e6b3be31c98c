/-!
# Run filters

A filter is given as tokens: `vm:<name>`, `s:<suite>` and `s:<suite>:<benchmark>`. Matchers for
virtual machines and matchers for suites or benchmarks are kept apart. A benchmark passes if it
matches one of each kind, where a kind without matchers asks for nothing.
-/

namespace BenchPlan

/-- What a filter sees of a benchmark. -/
structure Identity where
  machine : String
  suite : String
  benchmark : String
  deriving DecidableEq, Repr, Inhabited

/-- Cuts a text at every colon; there is one part more than there are colons. -/
def splitAtColons : List Char → List (List Char)
  | [] => [[]]
  | c :: rest =>
    if c = ':' then [] :: splitAtColons rest
    else
      match splitAtColons rest with
      | [] => [[c]]
      | part :: parts => (c :: part) :: parts

/-- One filter expression. -/
inductive Matcher where
  | machine (name : String)
  | suite (name : String)
  | benchmark (suite name : String)
  deriving DecidableEq, Repr, Inhabited

namespace Matcher

/-- Reads a token; `none` if it has none of the three forms. -/
def parse? (token : String) : Option Matcher :=
  match (splitAtColons token.toList).map String.ofList with
  | ["vm", n] => some (.machine n)
  | ["s", n] => some (.suite n)
  | ["s", n, b] => some (.benchmark n b)
  | _ => none

/-- The token of a matcher. -/
def token : Matcher → String
  | machine n => "vm:" ++ n
  | suite n => "s:" ++ n
  | benchmark n b => "s:" ++ n ++ ":" ++ b

/-- Whether the benchmark is one that the matcher names. -/
def selects (m : Matcher) (id : Identity) : Bool :=
  match m with
  | machine n => id.machine == n
  | suite n => id.suite == n
  | benchmark n b => id.suite == n && id.benchmark == b

/-- Whether the matcher is for virtual machines. -/
def isMachine : Matcher → Bool
  | machine _ => true
  | _ => false

end Matcher

/-- The matchers of a list of tokens, those for virtual machines apart from the others. -/
structure Filter where
  machines : List Matcher
  suites : List Matcher
  deriving DecidableEq, Repr, Inhabited

namespace Filter

/-- A token that is no filter expression. -/
structure UnknownExpression where
  token : String
  deriving DecidableEq, Repr, Inhabited

/-- What is wrong, for a reader. -/
def UnknownExpression.message (e : UnknownExpression) : String :=
  "Unknown filter expression: " ++ e.token

/-- The filter that lets everything pass. -/
def empty : Filter := ⟨[], []⟩

/-- Puts a matcher at the end of its list. -/
def add (f : Filter) (m : Matcher) : Filter :=
  if m.isMachine then { f with machines := f.machines ++ [m] }
  else { f with suites := f.suites ++ [m] }

/-- Adds the matchers of the tokens, up to the first token that is none. -/
def extend (f : Filter) : List String → Except UnknownExpression Filter
  | [] => .ok f
  | t :: rest =>
    match Matcher.parse? t with
    | some m => (f.add m).extend rest
    | none => .error ⟨t⟩

/-- The filter of a list of tokens. -/
def parse (tokens : List String) : Except UnknownExpression Filter := empty.extend tokens

/-- Whether one of the matchers holds; no matchers ask for nothing. -/
def anySelects (matchers : List Matcher) (id : Identity) : Bool :=
  matchers.isEmpty || matchers.any (·.selects id)

/-- Whether a benchmark passes. -/
def admits (f : Filter) (id : Identity) : Bool :=
  anySelects f.machines id && anySelects f.suites id

/-- Whether there is no matcher at all. -/
def isEmpty (f : Filter) : Bool := f.machines.isEmpty && f.suites.isEmpty

end Filter

end BenchPlan
