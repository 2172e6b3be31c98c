/-!
# Run settings

How often and how long a benchmark runs. Settings are layered: the defaults, then the overrides of
the document and of the experiment, each of which replaces the values it gives.
-/

namespace BenchPlan

/-- The settings of a run, all of them known. -/
structure RunSettings where
  /-- How many processes are started. -/
  invocations : UInt32
  /-- How many iterations each process is asked for. -/
  iterations : UInt32
  /-- How many iterations are thrown away first. -/
  warmup : UInt32
  /-- Milliseconds under which an iteration is suspicious. -/
  minIterationTime : UInt32
  /-- Seconds after which a process is stopped; negative for no limit. -/
  maxInvocationTime : Int64
  deriving DecidableEq, Repr

namespace RunSettings

/-- One process, one iteration, no warmup, 50 milliseconds, no time limit. -/
def defaults : RunSettings where
  invocations := 1
  iterations := 1
  warmup := 0
  minIterationTime := 50
  maxInvocationTime := -1

instance : Inhabited RunSettings := ⟨defaults⟩

/-- Some of the settings, as a `runs` section gives them. -/
structure Override where
  invocations : Option UInt32
  iterations : Option UInt32
  warmup : Option UInt32
  minIterationTime : Option UInt32
  maxInvocationTime : Option Int64
  deriving DecidableEq, Repr

/-- The override that gives nothing. -/
def Override.empty : Override := ⟨none, none, none, none, none⟩

instance : Inhabited Override := ⟨Override.empty⟩

/-- The settings with the values that the override gives put in. -/
def apply (s : RunSettings) (o : Override) : RunSettings where
  invocations := o.invocations.getD s.invocations
  iterations := o.iterations.getD s.iterations
  warmup := o.warmup.getD s.warmup
  minIterationTime := o.minIterationTime.getD s.minIterationTime
  maxInvocationTime := o.maxInvocationTime.getD s.maxInvocationTime

/-- The settings of an optional `runs` section on top of the defaults. -/
def ofSection : Option Override → RunSettings
  | some o => defaults.apply o
  | none => defaults

end RunSettings

end BenchPlan
