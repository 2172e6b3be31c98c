import BenchPlan.Build
import BenchPlan.Config.Basic

/-!
# Suites

A suite as an experiment uses it: its definition under its name, with its build step recorded.
-/

namespace BenchPlan

/-- A group of benchmarks with a common command and a common way to measure. -/
structure Suite where
  name : String
  gaugeAdapter : String
  command : String
  location : Option String
  build : Option SharedBuild
  deriving DecidableEq, Repr, Inhabited

namespace Suite

/-- The build step of a definition, which runs at the location of the suite. -/
def buildStep? (d : SuiteDef) : Option BuildStep :=
  d.build.map fun commands => ⟨commands, d.location⟩

/-- The suite of a definition, with its build step recorded in the table. -/
def ofDef (name : String) (d : SuiteDef) (t : BuildTable) : Suite × BuildTable × Log :=
  let (build, t, log) := t.intern? (buildStep? d)
  (⟨name, d.gaugeAdapter, d.command, d.location, build⟩, t, log)

end Suite

end BenchPlan
