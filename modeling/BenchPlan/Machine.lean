import BenchPlan.Build
import BenchPlan.Config.Basic

/-!
# Virtual machines

A virtual machine as an experiment uses it: its definition under its name, with its build step
recorded.
-/

namespace BenchPlan

/-- A program that runs benchmarks. -/
structure Machine where
  name : String
  path : Option String
  binary : String
  args : Option String
  build : Option SharedBuild
  deriving DecidableEq, Repr, Inhabited

namespace Machine

/-- The build step of a definition, which runs in the directory of the program. -/
def buildStep? (d : MachineDef) : Option BuildStep :=
  d.build.map fun commands => ⟨commands, d.path⟩

/-- The machine of a definition, with its build step recorded in the table. -/
def ofDef (name : String) (d : MachineDef) (t : BuildTable) : Machine × BuildTable × Log :=
  let (build, t, log) := t.intern? (buildStep? d)
  (⟨name, d.path, d.binary, d.args, build⟩, t, log)

/-- A text without the slashes at its end. -/
def trimSlashes (s : String) : String :=
  String.ofList ((s.toList.reverse.dropWhile (· = '/')).reverse)

/-- The program to start: the binary, in the machine's directory if it has one. -/
def executable (m : Machine) : String :=
  match m.path with
  | some p => trimSlashes p ++ "/" ++ m.binary
  | none => m.binary

end Machine

end BenchPlan
