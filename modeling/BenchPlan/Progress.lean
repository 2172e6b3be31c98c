import BenchPlan.RunStore

/-!
# Reporting progress

A reporter is told what happens to the runs of a job. The progress reporter counts completed runs
and logs; the silent one does nothing.
-/

namespace BenchPlan

/-- What a reporter is told. -/
inductive ProgressEvent where
  | total (runs : Nat)
  | started (run : Run)
  | completed (run : Run) (cmdline : String)
  | failed (run : Run) (cmdline : String) (code : Int) (output : String)
  | jobCompleted (runs : Nat)
  deriving DecidableEq, Repr, Inhabited

/-- A reporter that counts and logs. -/
structure Progress where
  /-- Whether command lines of completed runs are logged. -/
  verbose : Bool
  total : Nat
  completed : Nat
  jobReported : Bool
  deriving DecidableEq, Repr, Inhabited

namespace Progress

/-- A reporter that was told nothing yet. -/
def new (verbose : Bool) : Progress := ⟨verbose, 0, 0, false⟩

/-- A line of the reporter. -/
def line (level : Level) (message : String) : LogLine := ⟨level, "benchconf::reporter", message⟩

/-- The line about a completed run, the `k`-th of `t`. -/
def completedLine (k t : Nat) (run : Run) : LogLine :=
  line .info ("[" ++ toString k ++ "/" ++ toString t ++ "] Completed " ++ run.display)

/-- The line about a failed run. -/
def failedLine (run : Run) (cmdline : String) (code : Int) (output : String) : LogLine :=
  line .error ("Run failed: " ++ run.display ++ " (return code " ++ toString code ++ ")\n" ++
    cmdline ++ "\n" ++ output)

/-- The line at the end of a job. -/
def jobLine (runs : Nat) : LogLine :=
  line .info ("Job completed with " ++ toString runs ++ " runs")

/-- Takes note of an event. The end of the job is logged once. -/
def notify (p : Progress) : ProgressEvent → Progress × Log
  | .total n => ({ p with total := n }, [])
  | .started run => (p, [line .debug ("Starting " ++ run.display)])
  | .completed run cmdline =>
    ({ p with completed := p.completed + 1 },
      completedLine (p.completed + 1) p.total run ::
        if p.verbose then [line .debug cmdline] else [])
  | .failed run cmdline code output => (p, [failedLine run cmdline code output])
  | .jobCompleted n =>
    if p.jobReported then (p, []) else ({ p with jobReported := true }, [jobLine n])

/-- Takes note of events in turn. -/
def notifyAll (p : Progress) : List ProgressEvent → Progress × Log
  | [] => (p, [])
  | e :: rest =>
    let (p, log) := p.notify e
    let (p, more) := p.notifyAll rest
    (p, log ++ more)

end Progress

/-- Whoever is told about progress. -/
inductive Reporter where
  | silent
  | progress (p : Progress)
  deriving DecidableEq, Repr, Inhabited

namespace Reporter

/-- Tells a reporter about an event. -/
def notify : Reporter → ProgressEvent → Reporter × Log
  | silent, _ => (silent, [])
  | progress p, e =>
    let (p, log) := p.notify e
    (progress p, log)

/-- How many runs were completed, as far as the reporter counts. -/
def completed : Reporter → Nat
  | silent => 0
  | progress p => p.completed

/-- How many runs there are, as far as the reporter knows. -/
def total : Reporter → Nat
  | silent => 0
  | progress p => p.total

end Reporter

end BenchPlan
