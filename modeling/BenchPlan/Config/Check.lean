import BenchPlan.Config.Basic

/-!
# Checking references

A configuration is sound if every suite has benchmarks, every experiment has executions, every
execution has suites, and every name that is referred to is defined. `Config.check` finds everything
that is wrong at once, in the order of the document. A suite that an experiment already names is not
reported again by its executions.
-/

namespace BenchPlan

/-- Something wrong with a configuration. -/
inductive Finding where
  | noBenchmarks (suite : String)
  | noExecutions (experiment : String)
  | unknownSuite (experiment suite : String)
  | unknownMachine (experiment machine : String)
  | noSuites (experiment machine : String)
  | unknownSuiteOf (experiment machine suite : String)
  deriving DecidableEq, Repr, Inhabited

/-- A finding for a reader. -/
def Finding.message : Finding → String
  | noBenchmarks s => "Suite '" ++ s ++ "' defines no benchmarks."
  | noExecutions e => "Experiment '" ++ e ++ "' defines no executions."
  | unknownSuite e s => "Experiment '" ++ e ++ "' refers to unknown suite '" ++ s ++ "'."
  | unknownMachine e m =>
    "Experiment '" ++ e ++ "' refers to unknown virtual machine '" ++ m ++ "'."
  | noSuites e m => "Execution of '" ++ m ++ "' in experiment '" ++ e ++ "' has no suites."
  | unknownSuiteOf e m s =>
    "Execution of '" ++ m ++ "' in experiment '" ++ e ++ "' refers to unknown suite '" ++ s ++ "'."

namespace Config

variable (c : Config)

/-- What is wrong with a suite. -/
def checkSuite (name : String) (s : SuiteDef) : List Finding :=
  if s.benchmarks.isEmpty then [.noBenchmarks name] else []

/-- What is wrong with an execution of an experiment. -/
def checkExecution (name : String) (e : ExperimentDef) (machine : String)
    (own : Option (List String)) : List Finding :=
  let suites := own.getD e.suites
  (if c.machines.contains machine then [] else [.unknownMachine name machine]) ++
    (if suites.isEmpty then [.noSuites name machine] else []) ++
    (suites.filter fun s => !c.suites.contains s && !e.suites.contains s).map
      (Finding.unknownSuiteOf name machine)

/-- What is wrong with an experiment. -/
def checkExperiment (name : String) (e : ExperimentDef) : List Finding :=
  (if e.executions.isEmpty then [.noExecutions name] else []) ++
    (e.suites.filter fun s => !c.suites.contains s).map (Finding.unknownSuite name) ++
    e.allExecutions.flatMap fun x => c.checkExecution name e x.1 x.2

/-- All that is wrong with a configuration. -/
def check : List Finding :=
  c.suites.entries.flatMap (fun s => checkSuite s.1 s.2) ++
    c.experiments.entries.flatMap fun e => c.checkExperiment e.1 e.2

end Config

end BenchPlan
