import BenchPlan.Benchmark
import BenchPlan.Template
import BenchPlan.Text.Blank

/-!
# Runs

A run is a benchmark with its settings. Runs are told apart by their key, which names the virtual
machine, the suite, the benchmark, the extra arguments and the settings; commands and builds do not
count.
-/

namespace BenchPlan

open Text

/-- A benchmark to be run with certain settings. -/
structure Run where
  benchmark : Benchmark
  settings : RunSettings
  deriving DecidableEq, Repr, Inhabited

/-- What tells runs apart. -/
structure RunKey where
  machine : String
  suite : String
  benchmark : String
  extraArgs : Option String
  settings : RunSettings
  deriving DecidableEq, Repr, Inhabited

namespace Run

/-- The key of a run. -/
def key (r : Run) : RunKey :=
  ⟨r.benchmark.machine.name, r.benchmark.suite.name, r.benchmark.name, r.benchmark.extraArgs,
    r.settings⟩

/-- Whether two runs are the same run. -/
def same (r s : Run) : Bool := r.key == s.key

/-- The values of the placeholders in a command. -/
def placeholderValue (r : Run) (name : List Char) : Option (List Char) :=
  if name = "benchmark".toList then some r.benchmark.name.toList
  else if name = "iterations".toList then some (toString r.settings.iterations.toNat).toList
  else if name = "warmup".toList then some (toString r.settings.warmup.toNat).toList
  else none

/-- The command with its placeholders filled in. -/
def command (r : Run) : String :=
  String.ofList (Template.expand r.placeholderValue r.benchmark.template.toList)

/-- The parts of the command line, blank ones too. -/
def parts (r : Run) : List String :=
  [r.benchmark.machine.executable] ++ r.benchmark.machine.args.toList ++ [r.command] ++
    r.benchmark.extraArgs.toList

/-- The command line: the parts that are not blank. -/
def cmdline (r : Run) : String :=
  " ".intercalate (r.parts.filter fun p => !isBlankText p)

/-- The columns that identify the run in a listing. -/
def columns (r : Run) : List String :=
  [r.benchmark.machine.name, r.benchmark.suite.name, r.benchmark.name,
    r.benchmark.extraArgs.getD ""]

/-- The run on one line. -/
def display (r : Run) : String := trimEnd (" ".intercalate r.columns)

end Run

end BenchPlan
