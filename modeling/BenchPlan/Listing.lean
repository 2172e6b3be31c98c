import BenchPlan.Plan

/-!
# Listings

The runs of a plan as rows, one for each experiment and run, sorted by experiment, machine, suite
and benchmark; rows that agree in these stay in order. A listing is printed as text or as JSON.
-/

namespace BenchPlan

/-- A run of an experiment as it is listed. -/
structure ListingRow where
  experiment : String
  machine : String
  suite : String
  benchmark : String
  extraArgs : Option String
  invocations : UInt32
  iterations : UInt32
  dataFile : Option String
  cmdline : String
  deriving DecidableEq, Repr, Inhabited

namespace ListingRow

/-- The row of a run in an experiment. -/
def ofRun (e : Experiment) (r : Run) : ListingRow where
  experiment := e.name
  machine := r.benchmark.machine.name
  suite := r.benchmark.suite.name
  benchmark := r.benchmark.name
  extraArgs := r.benchmark.extraArgs
  invocations := r.settings.invocations
  iterations := r.settings.iterations
  dataFile := e.dataFile
  cmdline := r.cmdline

/-- What rows are sorted by. -/
def sortKey (r : ListingRow) : List String := [r.experiment, r.machine, r.suite, r.benchmark]

/-- Whether one row may stand before another. -/
def le (r s : ListingRow) : Bool := decide ¬ s.sortKey < r.sortKey

/-- The row as a line of text. -/
def text (r : ListingRow) : String :=
  "  ".intercalate [r.experiment, r.machine, r.suite, r.benchmark, r.cmdline]

/-- The rows of an experiment in the order of its definition. -/
def ofExperiment (e : Experiment) : List ListingRow := e.runs.map fun o => ofRun e o.run

/-- The rows of a plan. -/
def ofPlan (p : Plan) : List ListingRow :=
  (p.experiments.values.flatMap ofExperiment).mergeSort le

/-- A character in a JSON string. -/
def jsonChar (c : Char) : String :=
  match c with
  | '"' => "\\\""
  | '\\' => "\\\\"
  | '\x08' => "\\b"
  | '\x0C' => "\\f"
  | '\n' => "\\n"
  | '\r' => "\\r"
  | '\t' => "\\t"
  | c =>
    if c.toNat < 0x20 then
      let ds := Nat.toDigits 16 c.toNat
      "\\u" ++ String.ofList (List.replicate (4 - ds.length) '0' ++ ds)
    else c.toString

/-- A text in JSON. -/
def jsonText (s : String) : String := "\"" ++ String.join (s.toList.map jsonChar) ++ "\""

/-- An optional text in JSON. -/
def jsonOptional : Option String → String
  | some s => jsonText s
  | none => "null"

/-- The row in JSON, on lines of its own. -/
def jsonLines (r : ListingRow) : List String :=
  let field (name value : String) : String := "    " ++ jsonText name ++ ": " ++ value
  let fields :=
    [field "experiment" (jsonText r.experiment), field "vm" (jsonText r.machine),
      field "suite" (jsonText r.suite), field "benchmark" (jsonText r.benchmark),
      field "extra_args" (jsonOptional r.extraArgs),
      field "invocations" (toString r.invocations.toNat),
      field "iterations" (toString r.iterations.toNat),
      field "data_file" (jsonOptional r.dataFile), field "cmdline" (jsonText r.cmdline)]
  ["  \x7b", ",\n".intercalate fields, "  \x7d"]

/-- The rows as a JSON document. -/
def json (rows : List ListingRow) : String :=
  if rows.isEmpty then "[]"
  else "[\n" ++ ",\n".intercalate (rows.map fun r => "\n".intercalate r.jsonLines) ++ "\n]"

end ListingRow

end BenchPlan
