import BenchPlan.Log

/-!
# Options

The options of the command line, how talkative they make the program, and what becomes of the
request to run benchmarks with high priority if the system does not allow it.
-/

namespace BenchPlan

/-- The options that a plan depends on. -/
structure Options where
  debug : Bool
  verbose : Bool
  /-- Whether benchmarks run with high priority. -/
  useNice : Bool
  /-- Whether build steps are carried out. -/
  doBuilds : Bool
  /-- Whether recorded data are thrown away. -/
  clean : Bool
  deriving DecidableEq, Repr, Inhabited

/-- How much is logged. -/
inductive Verbosity where
  | all
  | debug
  | quiet
  deriving DecidableEq, Repr, Inhabited

namespace Verbosity

/-- The verbosity that options ask for. `verbose` counts only together with `debug`. -/
def ofOptions : Option Options → Verbosity
  | some o => if o.debug then (if o.verbose then all else debug) else quiet
  | none => quiet

/-- The least important level that is shown. -/
def level : Verbosity → Level
  | all => .trace
  | debug => .debug
  | quiet => .error

/-- The name of the verbosity. -/
def name : Verbosity → String
  | all => "all"
  | debug => "debug"
  | quiet => "quiet"

/-- Whether a line is shown. -/
def shows (v : Verbosity) (l : LogLine) : Bool := v.level.rank ≤ l.level.rank

end Verbosity

/-- An answer to the question whether processes may be given high priority, with what was logged on
the way to it. -/
structure Probe where
  allowed : Bool
  log : Log
  deriving DecidableEq, Repr, Inhabited

/-- A probe that gives an answer and logs nothing. -/
def Probe.fixed (allowed : Bool) : Probe := ⟨allowed, []⟩

namespace Options

/-- Where these lines come from. -/
def logSource : String := "benchconf::options"

/-- The line that says how much is logged. -/
def announcement : Verbosity → Log
  | .all => [⟨.debug, logSource, "Enabled verbose debug output."⟩]
  | .debug => [⟨.debug, logSource, "Enabled debug output."⟩]
  | .quiet => []

/-- The lines that say that high priority is not available. -/
def refusal : Log :=
  [⟨.error, logSource, "Process niceness cannot be set currently. To execute benchmarks with " ++
      "highest priority, you might need root/admin rights."⟩,
    ⟨.error, logSource, "Deactivated usage of nice command."⟩]

/-- Options as they are carried out. -/
structure Processed where
  options : Option Options
  verbosity : Verbosity
  /-- Whether the probe was asked. -/
  probed : Bool
  log : Log
  deriving DecidableEq, Repr, Inhabited

/-- The options with high priority taken back if the probe refuses it. The probe is asked only if
high priority is wanted. -/
def process (options : Option Options) (probe : Probe) : Processed :=
  let verbosity := Verbosity.ofOptions options
  match options with
  | none => ⟨none, verbosity, false, []⟩
  | some o =>
    if o.useNice then
      if probe.allowed then ⟨some o, verbosity, true, announcement verbosity ++ probe.log⟩
      else
        ⟨some { o with useNice := false }, verbosity, true,
          announcement verbosity ++ probe.log ++ refusal⟩
    else ⟨some o, verbosity, false, announcement verbosity⟩

end Options

end BenchPlan
