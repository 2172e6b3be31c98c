import BenchPlan.Plan

/-!
# Arguments of the command line

The program takes a configuration file, an experiment and filters, and options anywhere between
them. Options that are only given or not may be joined behind one hyphen. Reading stops at the first
argument that is wrong.
-/

namespace BenchPlan.CommandLine

/-- Options that are either given or not. -/
inductive Flag where
  | debug
  | verbose
  | withoutNice
  | withoutBuilding
  | clean
  | json
  deriving DecidableEq, Repr, Inhabited

/-- What an option asks for. -/
inductive OptionKind where
  | flag (f : Flag)
  | dataFile
  | help
  | version
  deriving DecidableEq, Repr, Inhabited

/-- The option of a long name. -/
def long? : String → Option OptionKind
  | "debug" => some (.flag .debug)
  | "verbose" => some (.flag .verbose)
  | "without-nice" => some (.flag .withoutNice)
  | "without-building" => some (.flag .withoutBuilding)
  | "clean" => some (.flag .clean)
  | "json" => some (.flag .json)
  | "data-file" => some .dataFile
  | "help" => some .help
  | "version" => some .version
  | _ => none

/-- The option of a letter. -/
def short? : Char → Option OptionKind
  | 'd' => some (.flag .debug)
  | 'v' => some (.flag .verbose)
  | 'N' => some (.flag .withoutNice)
  | 'B' => some (.flag .withoutBuilding)
  | 'c' => some (.flag .clean)
  | 'f' => some .dataFile
  | 'h' => some .help
  | 'V' => some .version
  | _ => none

/-- What was read of the arguments. -/
structure Arguments where
  flags : List Flag
  dataFile : Option String
  /-- The configuration file, the experiment and the filters, as far as they are given. -/
  operands : List String
  deriving DecidableEq, Repr, Inhabited

/-- How reading ends when the arguments do not say what to run. -/
inductive Stop where
  | help
  | version
  | misuse
  deriving DecidableEq, Repr, Inhabited

namespace Arguments

/-- Nothing read yet. -/
def empty : Arguments := ⟨[], none, []⟩

/-- Takes note of a flag, which must not come twice. -/
def addFlag (a : Arguments) (f : Flag) : Except Stop Arguments :=
  if a.flags.contains f then .error .misuse else .ok { a with flags := f :: a.flags }

/-- Takes note of the data file, which must not come twice. -/
def setDataFile (a : Arguments) (value : String) : Except Stop Arguments :=
  if a.dataFile.isSome then .error .misuse else .ok { a with dataFile := some value }

/-- Takes note of an operand; the name of the configuration file must not be empty. -/
def addOperand (a : Arguments) (s : String) : Except Stop Arguments :=
  if a.operands.isEmpty && s == "" then .error .misuse
  else .ok { a with operands := a.operands ++ [s] }

/-- Reads letters of options. The data file takes the rest as its value, without an equals sign in
front; if nothing is left the value is still to come. -/
def letters (a : Arguments) : List Char → Except Stop (Arguments × Bool)
  | [] => .ok (a, false)
  | c :: rest =>
    match short? c with
    | none => .error .misuse
    | some .help => .error .help
    | some .version => .error .version
    | some (.flag f) =>
      match a.addFlag f with
      | .error e => .error e
      | .ok a => a.letters rest
    | some .dataFile =>
      match rest with
      | [] => if a.dataFile.isSome then .error .misuse else .ok (a, true)
      | '=' :: value => (a.setDataFile (String.ofList value)).map fun a => (a, false)
      | value => (a.setDataFile (String.ofList value)).map fun a => (a, false)

/-- Reads a long option, with a value if there is an equals sign. -/
def longOption (a : Arguments) (cs : List Char) : Except Stop (Arguments × Bool) :=
  let name := String.ofList (cs.takeWhile (· ≠ '='))
  let value : Option String :=
    match cs.dropWhile (· ≠ '=') with
    | _ :: v => some (String.ofList v)
    | [] => none
  match long? name, value with
  | none, _ => .error .misuse
  | some .dataFile, some v => (a.setDataFile v).map fun a => (a, false)
  | some .dataFile, none => if a.dataFile.isSome then .error .misuse else .ok (a, true)
  | some _, some _ => .error .misuse
  | some (.flag f), none => (a.addFlag f).map fun a => (a, false)
  | some .help, none => .error .help
  | some .version, none => .error .version

/-- Whether an argument looks like an option. -/
def isOption (cs : List Char) : Bool := cs.head? == some '-' && 1 < cs.length

/-- Reads the arguments from left to right; two hyphens end the options. -/
def read (a : Arguments) : List String → Except Stop Arguments
  | [] => .ok a
  | s :: rest =>
    match s.toList with
    | ['-', '-'] => rest.foldlM addOperand a
    | '-' :: '-' :: cs => next (a.longOption cs) rest
    | '-' :: c :: cs => next (a.letters (c :: cs)) rest
    | _ =>
      match a.addOperand s with
      | .error e => .error e
      | .ok a => a.read rest
where
  /-- Reads on behind an option, with the value of the data file if it is still to come. -/
  next (r : Except Stop (Arguments × Bool)) : List String → Except Stop Arguments
    | [] =>
      match r with
      | .error e => .error e
      | .ok (_, true) => .error .misuse
      | .ok (a, false) => .ok a
    | s :: rest =>
      match r with
      | .error e => .error e
      | .ok (a, true) =>
        if isOption s.toList then .error .misuse
        else
          match a.setDataFile s with
          | .error e => .error e
          | .ok a => a.read rest
      | .ok (a, false) => a.read (s :: rest)

/-- The options that a plan depends on. High priority and building are on unless taken back. -/
def options (a : Arguments) : Options where
  debug := a.flags.contains .debug
  verbose := a.flags.contains .verbose
  useNice := !a.flags.contains .withoutNice
  doBuilds := !a.flags.contains .withoutBuilding
  clean := a.flags.contains .clean

/-- The request that the arguments make. -/
def request (a : Arguments) : PlanRequest where
  options := some a.options
  reporter := some ⟨0⟩
  experiment := a.operands[1]?
  dataFile := a.dataFile
  filters := a.operands.drop 2

end Arguments

end BenchPlan.CommandLine
