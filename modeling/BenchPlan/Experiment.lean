import BenchPlan.Options
import BenchPlan.RunStore

/-!
# Experiments

An experiment is compiled from its definition by a walk over its executions, their suites and the
benchmarks of these. Machines and suites are made when they are first met and then used again. Every
benchmark that the filter admits becomes a run, which the store may know already; a run that the
experiment has already is not listed again. The walk stops at a name that is not defined.
-/

namespace BenchPlan

/-- Stands for a reporter that was passed in. -/
structure ReporterHandle where
  id : Nat
  deriving DecidableEq, Repr, Inhabited

/-- A compiled experiment. -/
structure Experiment where
  name : String
  description : Option String
  dataFile : Option String
  settings : RunSettings
  reporting : Table Yaml.Value
  clean : Bool
  reporter : Option ReporterHandle
  options : Option Options
  /-- The runs in the order of the definition, each once. -/
  runs : List SharedRun

/-- A name in a definition that is not defined. -/
inductive DanglingName where
  | machine (experiment name : String)
  | suite (experiment name : String)
  deriving DecidableEq, Repr, Inhabited

/-- The name for a reader. -/
def DanglingName.message : DanglingName → String
  | machine e n => "Experiment '" ++ e ++ "' refers to unknown virtual machine '" ++ n ++ "'"
  | suite e n => "Experiment '" ++ e ++ "' refers to unknown benchmark suite '" ++ n ++ "'"

namespace Experiment

/-- What all experiments of a configuration are compiled with. -/
structure Context where
  settings : RunSettings
  machines : Table MachineDef
  suites : Table SuiteDef
  reporting : Table Yaml.Value
  standardDataFile : Option String
  clean : Bool
  reporter : Option ReporterHandle
  filter : Filter
  options : Option Options

/-- What experiments share while they are compiled, and what was logged. -/
structure Shared where
  store : RunStore
  builds : BuildTable
  log : Log
  deriving Repr

/-- The state of the walk through an experiment. -/
structure Walk where
  shared : Shared
  /-- The machines that were made for this experiment. -/
  machines : List (String × Machine)
  /-- The suites that were made for this experiment. -/
  suites : List (String × Suite)
  runs : List SharedRun
  /-- How many benchmarks the filter kept out. -/
  excluded : Nat

namespace Walk

/-- The beginning of a walk. -/
def start (s : Shared) : Walk := ⟨s, [], [], [], 0⟩

/-- The machine of a name, which is made when the name is first met. -/
def machine? (ctx : Context) (w : Walk) (name : String) : Option (Machine × Walk) :=
  match w.machines.lookup name with
  | some m => some (m, w)
  | none =>
    (ctx.machines.get? name).map fun d =>
      let (m, builds, log) := Machine.ofDef name d w.shared.builds
      (m,
        { w with
          shared := { w.shared with builds := builds, log := w.shared.log ++ log }
          machines := (name, m) :: w.machines })

/-- The suite of a name and its definition, made when the name is first met. -/
def suite (w : Walk) (name : String) (d : SuiteDef) : Suite × Walk :=
  match w.suites.lookup name with
  | some s => (s, w)
  | none =>
    let (s, builds, log) := Suite.ofDef name d w.shared.builds
    (s,
      { w with
        shared := { w.shared with builds := builds, log := w.shared.log ++ log }
        suites := (name, s) :: w.suites })

/-- Lists a registered run unless it is listed already. -/
def list (runs : List SharedRun) (o : SharedRun) : List SharedRun :=
  if runs.any (fun r => r.run.same o.run) then runs else runs ++ [o]

/-- Takes a benchmark in, if the filter admits it. -/
def benchmark (ctx : Context) (settings : RunSettings) (machine : Machine) (suite : Suite)
    (w : Walk) (b : String × Option BenchmarkDetails) : Walk :=
  let bench := Benchmark.ofDetails b.1 b.2 suite machine
  if ctx.filter.admits bench.identity then
    let (o, store) := w.shared.store.register ⟨bench, settings⟩
    { w with shared := { w.shared with store := store }, runs := list w.runs o }
  else { w with excluded := w.excluded + 1 }

/-- Takes all benchmarks of a suite in. -/
def benchmarks (ctx : Context) (settings : RunSettings) (machine : Machine) (suite : Suite)
    (w : Walk) (bs : List (String × Option BenchmarkDetails)) : Walk :=
  bs.foldl (benchmark ctx settings machine suite) w

/-- Walks through the suites of an execution. -/
def throughSuites (ctx : Context) (settings : RunSettings) (experiment : String)
    (machine : Machine) : List String → Walk → Walk × Option DanglingName
  | [], w => (w, none)
  | name :: rest, w =>
    match ctx.suites.get? name with
    | none => (w, some (.suite experiment name))
    | some d =>
      let (s, w) := w.suite name d
      throughSuites ctx settings experiment machine rest
        (benchmarks ctx settings machine s w d.allBenchmarks)

/-- Walks through executions, which run the suites `common` unless they name their own. -/
def throughExecutions (ctx : Context) (settings : RunSettings) (experiment : String)
    (common : List String) :
    List (String × Option (List String)) → Walk → Walk × Option DanglingName
  | [], w => (w, none)
  | (name, own) :: rest, w =>
    match w.machine? ctx name with
    | none => (w, some (.machine experiment name))
    | some (m, w) =>
      match throughSuites ctx settings experiment m (own.getD common) w with
      | (w, some e) => (w, some e)
      | (w, none) => throughExecutions ctx settings experiment common rest w

end Walk

/-- The settings of an experiment. -/
def settingsOf (ctx : Context) (d : ExperimentDef) : RunSettings :=
  match d.runs with
  | some o => ctx.settings.apply o
  | none => ctx.settings

/-- The walk through a whole experiment. -/
def walk (ctx : Context) (name : String) (d : ExperimentDef) (s : Shared) :
    Walk × Option DanglingName :=
  Walk.throughExecutions ctx (settingsOf ctx d) name d.suites d.allExecutions (Walk.start s)

/-- The line that is logged when an experiment is compiled. -/
def compiledLine (name : String) (runs excluded : Nat) : LogLine :=
  ⟨.debug, "benchconf::model::experiment", "Compiled experiment " ++ name ++ ": " ++
    toString runs ++ " runs, " ++ toString excluded ++ " excluded by filter"⟩

/-- Compiles an experiment. What was registered and recorded before a dangling name remains. -/
def compile (ctx : Context) (name : String) (d : ExperimentDef) (s : Shared) :
    Except DanglingName Experiment × Shared :=
  match walk ctx name d s with
  | (w, some e) => (.error e, w.shared)
  | (w, none) =>
    (.ok
      { name := name
        description := d.description
        dataFile := d.dataFile.or ctx.standardDataFile
        settings := settingsOf ctx d
        reporting := ctx.reporting
        clean := ctx.clean
        reporter := ctx.reporter
        options := ctx.options
        runs := w.runs },
      { w.shared with
        log := w.shared.log ++ [compiledLine name w.runs.length w.excluded] })

/-- The set of the runs of an experiment. -/
def runSet (e : Experiment) : List SharedRun := e.runs.foldl Walk.list []

end Experiment

end BenchPlan
