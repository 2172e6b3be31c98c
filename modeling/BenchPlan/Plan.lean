import BenchPlan.Config.Load
import BenchPlan.Experiment

/-!
# Plans

A plan is made of a configuration: the experiments that are asked for, compiled in the order of the
document, with the runs they share and the build steps they need. Either everything is compiled, or
there is no plan.
-/

namespace BenchPlan

/-- What a plan is asked for. -/
structure PlanRequest where
  options : Option Options
  reporter : Option ReporterHandle
  /-- The experiment to compile, or `all`. -/
  experiment : Option String
  /-- Stands in for the standard data file of the configuration. -/
  dataFile : Option String
  /-- The tokens of the filter. -/
  filters : List String

/-- Why there is no plan. -/
inductive PlanError where
  | config (error : Config.LoadError)
  | filter (error : Filter.UnknownExpression)
  | noExperimentChosen
  | unknownExperiment (name : String)
  | dangling (name : DanglingName)
  deriving Repr, Inhabited

/-- The error about a configuration file, for a reader. -/
def PlanError.message (path : String) : PlanError → String
  | config e => e.message path
  | filter e => e.message
  | noExperimentChosen => "No experiment chosen."
  | unknownExperiment n => "Requested experiment '" ++ n ++ "' not available."
  | dangling n => n.message

/-- The cause of an error that has one of its own. -/
def PlanError.cause? : PlanError → Option String
  | config e => e.cause?
  | _ => none

/-- A compiled configuration. -/
structure Plan where
  config : Config
  options : Option Options
  verbosity : Verbosity
  /-- The experiment that was asked for. -/
  requested : Option String
  settings : RunSettings
  filter : Filter
  builds : BuildTable
  experiments : Table Experiment

namespace Plan

/-- The name that stands for all experiments. -/
def allExperiments : String := "all"

/-- The name that is not empty, if there is one. -/
def nonEmpty (name : Option String) : Option String := name.filter fun n => n ≠ ""

/-- The experiment asked for, or else the standard one. -/
def resolveName (c : Config) (requested : Option String) : Except PlanError String :=
  match nonEmpty ((nonEmpty requested).or c.standardExperiment) with
  | some n => .ok n
  | none => .error .noExperimentChosen

/-- The experiments to compile. -/
def select (c : Config) (requested : Option String) : Except PlanError (List String) :=
  match resolveName c requested with
  | .error e => .error e
  | .ok n =>
    if n = allExperiments then .ok c.experiments.keys
    else if c.experiments.contains n then .ok [n]
    else .error (.unknownExperiment n)

/-- The definitions of experiments by name. -/
def definitions (c : Config) (names : List String) : List (String × ExperimentDef) :=
  names.filterMap fun n => (c.experiments.get? n).map fun d => (n, d)

/-- Compiles experiments in turn, and adds them to those compiled before. -/
def compileAll (ctx : Experiment.Context) :
    List (String × ExperimentDef) → Table Experiment → Experiment.Shared →
      Except DanglingName (Table Experiment) × Experiment.Shared
  | [], done, s => (.ok done, s)
  | (name, d) :: rest, done, s =>
    match Experiment.compile ctx name d s with
    | (.error e, s) => (.error e, s)
    | (.ok x, s) => compileAll ctx rest (done.insert name x) s

/-- What came of a request: a plan or an error, and in any case the store and the log. -/
structure Outcome where
  result : Except PlanError Plan
  store : RunStore
  /-- Whether the probe was asked. -/
  probed : Bool
  log : Log

/-- The line that is logged when everything is compiled. -/
def compiledLine (experiments builds : Nat) : LogLine :=
  ⟨.info, "benchconf::configurator", "Compiled " ++ toString experiments ++ " experiment(s), " ++
    toString builds ++ " build command(s)"⟩

/-- The configuration with the data file of the request. -/
def withDataFile (c : Config) (dataFile : Option String) : Config :=
  { c with standardDataFile := dataFile.or c.standardDataFile }

/-- What the experiments of a configuration are compiled with. -/
def context (c : Config) (options : Option Options) (reporter : Option ReporterHandle)
    (filter : Filter) : Experiment.Context where
  settings := RunSettings.ofSection c.runs
  machines := c.machines
  suites := c.suites
  reporting := c.reporting
  standardDataFile := c.standardDataFile
  clean := options.any (·.clean)
  reporter := reporter
  filter := filter
  options := options

/-- Makes a plan of a configuration. Build steps are recorded in a table of the given owner. -/
def ofConfig (owner : Nat) (config : Config) (request : PlanRequest) (probe : Probe)
    (store : RunStore) : Outcome :=
  let c := withDataFile config request.dataFile
  let p := Options.process request.options probe
  match Filter.parse request.filters with
  | .error e => ⟨.error (.filter e), store, p.probed, p.log⟩
  | .ok filter =>
    match select c request.experiment with
    | .error e => ⟨.error e, store, p.probed, p.log⟩
    | .ok names =>
      let ctx := context c p.options request.reporter filter
      let shared : Experiment.Shared := ⟨store, BuildTable.empty owner, p.log⟩
      match compileAll ctx (definitions c names) Table.empty shared with
      | (.error e, s) => ⟨.error (.dangling e), s.store, p.probed, s.log⟩
      | (.ok experiments, s) =>
        ⟨.ok
          { config := c
            options := p.options
            verbosity := p.verbosity
            requested := request.experiment
            settings := ctx.settings
            filter := filter
            builds := s.builds
            experiments := experiments },
          s.store, p.probed, s.log ++ [compiledLine experiments.size s.builds.size]⟩

/-- Makes a plan of the sound configuration in a file. -/
def ofFile (owner : Nat) (path : String) (file : FileContent) (request : PlanRequest)
    (probe : Probe) (store : RunStore) : Outcome :=
  match Config.load file with
  | .error e => ⟨.error (.config e), store, false, []⟩
  | .ok c =>
    let o := ofConfig owner c request probe store
    { o with log := Config.loadedLine path c :: o.log }

/-- Makes a plan of the configuration in a file without checking its references. -/
def ofUncheckedFile (owner : Nat) (file : FileContent) (request : PlanRequest) (probe : Probe)
    (store : RunStore) : Outcome :=
  match Config.read file with
  | .error e => ⟨.error (.config e), store, false, []⟩
  | .ok c => ofConfig owner c request probe store

variable (p : Plan)

/-- The name of what is compiled. -/
def experimentName : Except PlanError String := resolveName p.config p.requested

/-- A compiled experiment by its name. -/
def experiment? (name : String) : Option Experiment := p.experiments.get? name

/-- The runs of all experiments, each once. -/
def runs : List SharedRun :=
  (p.experiments.values.flatMap Experiment.runSet).foldl Experiment.Walk.list []

/-- The file that the output of builds goes to. -/
def buildLog : String := p.config.buildLog

/-- Whether benchmarks run with high priority. -/
def useNice : Bool := p.options.any (·.useNice)

/-- Whether build steps are carried out. -/
def doBuilds : Bool := p.options.any (·.doBuilds)

end Plan

end BenchPlan
