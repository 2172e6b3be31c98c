import BenchPlan.RunSettings
import BenchPlan.Table
import BenchPlan.Yaml.Value

/-!
# Configurations

What a configuration document defines: suites with their benchmarks, virtual machines, and the
experiments that bring them together. Names refer to each other freely here; `Config.Check` says
which references lead nowhere.
-/

namespace BenchPlan

/-- An argument of a benchmark as the document has it. -/
inductive ExtraArgs where
  | int (n : Int64)
  | float (x : Binary64)
  | text (s : String)
  deriving DecidableEq, Repr, Inhabited

/-- What may be said of a single benchmark. -/
structure BenchmarkDetails where
  extraArgs : Option ExtraArgs
  /-- Stands in for the command of the suite. -/
  command : Option String
  deriving DecidableEq, Repr, Inhabited

/-- An entry of a suite's list: a name alone, or names with details. -/
inductive BenchmarkEntry where
  | name (name : String)
  | detailed (benchmarks : Table BenchmarkDetails)
  deriving DecidableEq

/-- The benchmarks of an entry in order. -/
def BenchmarkEntry.benchmarks : BenchmarkEntry → List (String × Option BenchmarkDetails)
  | name n => [(n, none)]
  | detailed t => t.entries.map fun e => (e.1, some e.2)

/-- A suite of benchmarks that are started and measured alike. -/
structure SuiteDef where
  /-- How the measurements are read. -/
  gaugeAdapter : String
  /-- The template of the command. -/
  command : String
  /-- Where the suite is built. -/
  location : Option String
  build : Option (List String)
  benchmarks : List BenchmarkEntry
  deriving DecidableEq

/-- The benchmarks of a suite in order. -/
def SuiteDef.allBenchmarks (s : SuiteDef) : List (String × Option BenchmarkDetails) :=
  s.benchmarks.flatMap BenchmarkEntry.benchmarks

/-- A virtual machine: a program that runs benchmarks. -/
structure MachineDef where
  /-- The directory of the program, where it is built too. -/
  path : Option String
  binary : String
  args : Option String
  build : Option (List String)
  deriving DecidableEq, Repr, Inhabited

/-- What may be said of an execution. -/
structure ExecutionDetails where
  /-- The suites to run, instead of those of the experiment. -/
  suites : Option (List String)
  deriving DecidableEq, Repr, Inhabited

/-- An entry of an experiment's list: a virtual machine alone, or machines with details. -/
inductive ExecutionEntry where
  | machine (name : String)
  | detailed (machines : Table ExecutionDetails)
  deriving DecidableEq

/-- The virtual machines of an entry in order, with their own suites where given. -/
def ExecutionEntry.executions : ExecutionEntry → List (String × Option (List String))
  | machine n => [(n, none)]
  | detailed t => t.entries.map fun e => (e.1, e.2.suites)

/-- An experiment: suites and the virtual machines that run them. -/
structure ExperimentDef where
  description : Option String
  dataFile : Option String
  runs : Option RunSettings.Override
  suites : List String
  executions : List ExecutionEntry
  deriving DecidableEq

/-- The executions of an experiment in order, with their own suites where given. -/
def ExperimentDef.allExecutions (e : ExperimentDef) : List (String × Option (List String)) :=
  e.executions.flatMap ExecutionEntry.executions

/-- A configuration document. -/
structure Config where
  runs : Option RunSettings.Override
  standardDataFile : Option String
  standardExperiment : Option String
  /-- The build log, if the document names one. -/
  buildLogFile : Option String
  reporting : Table Yaml.Value
  suites : Table SuiteDef
  machines : Table MachineDef
  experiments : Table ExperimentDef

namespace Config

/-- The build log of a document that names none. -/
def defaultBuildLog : String := "build.log"

/-- The build log in effect. -/
def buildLog (c : Config) : String := c.buildLogFile.getD defaultBuildLog

end Config

end BenchPlan
