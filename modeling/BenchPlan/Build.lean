import BenchPlan.Log

/-!
# Build steps

A virtual machine or a suite may have to be built first, by shell commands run in some place. Equal
steps are recorded once, in a table that hands out the recorded object. Every recorded object can be
told from all others by the table that owns it and its position there.
-/

namespace BenchPlan

/-- Shell commands and the place where they run. -/
structure BuildStep where
  commands : List String
  location : Option String
  deriving DecidableEq, Repr, Inhabited

/-- The commands as one line that stops at the first failure. -/
def BuildStep.shellLine (s : BuildStep) : String := " && ".intercalate s.commands

/-- A build step as recorded in a table. Two of them are one object if owner and position agree. -/
structure SharedBuild where
  owner : Nat
  position : Nat
  step : BuildStep
  deriving DecidableEq, Repr, Inhabited

/-- The recorded build steps in order, each once. -/
structure BuildTable where
  /-- Tells the objects of this table from those of other tables. -/
  owner : Nat
  steps : List BuildStep
  deriving DecidableEq, Repr, Inhabited

namespace BuildTable

/-- The table of an owner before anything is recorded. -/
def empty (owner : Nat) : BuildTable := ⟨owner, []⟩

/-- The number of recorded steps. -/
def size (t : BuildTable) : Nat := t.steps.length

/-- Whether a step is recorded. -/
def contains (t : BuildTable) (s : BuildStep) : Bool := t.steps.contains s

/-- The line that is logged when a step is recorded. -/
def recordedLine (s : BuildStep) : LogLine :=
  ⟨.trace, "benchconf::model::build_command", "Recorded build command: " ++ s.shellLine⟩

/-- The recorded object for a step, which is recorded first if it is new. -/
def intern (t : BuildTable) (s : BuildStep) : SharedBuild × BuildTable × Log :=
  match t.steps.idxOf? s with
  | some i => (⟨t.owner, i, s⟩, t, [])
  | none => (⟨t.owner, t.steps.length, s⟩, { t with steps := t.steps ++ [s] }, [recordedLine s])

/-- The recorded object for an optional step. -/
def intern? (t : BuildTable) : Option BuildStep → Option SharedBuild × BuildTable × Log
  | none => (none, t, [])
  | some s =>
    let (b, t, log) := t.intern s
    (some b, t, log)

end BuildTable

end BenchPlan
