import BenchPlan.Binary64.Text
import BenchPlan.Filter
import BenchPlan.Machine
import BenchPlan.Suite

/-!
# Benchmarks

A benchmark of a suite, bound to the virtual machine that runs it.
-/

namespace BenchPlan

/-- An argument as it stands on a command line. -/
def ExtraArgs.render : ExtraArgs → String
  | int n => toString n.toInt
  | float x => x.text
  | text s => s

/-- A benchmark on a virtual machine. -/
structure Benchmark where
  name : String
  suite : Suite
  machine : Machine
  extraArgs : Option String
  /-- Stands in for the command of the suite. -/
  command : Option String
  deriving DecidableEq, Repr, Inhabited

namespace Benchmark

/-- The benchmark of a name and optional details. -/
def ofDetails (name : String) (details : Option BenchmarkDetails) (suite : Suite)
    (machine : Machine) : Benchmark where
  name := name
  suite := suite
  machine := machine
  extraArgs := details.bind fun d => d.extraArgs.map ExtraArgs.render
  command := details.bind (·.command)

/-- The command template in effect. -/
def template (b : Benchmark) : String := b.command.getD b.suite.command

/-- What filters see of the benchmark. -/
def identity (b : Benchmark) : Identity := ⟨b.machine.name, b.suite.name, b.name⟩

end Benchmark

end BenchPlan
