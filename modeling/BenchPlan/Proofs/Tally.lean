import BenchPlan.Progress
import Mathlib.Data.List.Induction

/-!
# What a reporter counts and logs

A progress reporter is told events in any order. What it knows after them can be said without it:
how many runs were completed, what the last total was, and whether a job was completed
(`Tallied`). One event keeps this true (`Tallied.notify`), so it is true after all
(`tallied_notifyAll`), and what an event adds to the log follows from the events before it
(`log_concat`). Lines about a job can be told from all others by what they say (`isJobLine`), so
that the log is known to have one of them at most (`notifyAll_tallied`).
-/

namespace BenchPlan

namespace ProgressEvent

/-- Whether a run was completed. -/
def isCompleted : ProgressEvent → Bool
  | completed _ _ => true
  | _ => false

/-- The total that is announced. -/
def total? : ProgressEvent → Option Nat
  | total n => some n
  | _ => none

/-- The number of runs of a completed job. -/
def jobRuns? : ProgressEvent → Option Nat
  | jobCompleted n => some n
  | _ => none

/-- How many runs were completed. -/
def completions (es : List ProgressEvent) : Nat := es.countP isCompleted

/-- The total that was announced last, zero before any. -/
def lastTotal (es : List ProgressEvent) : Nat := (es.reverse.findSome? total?).getD 0

/-- The number of runs of the first job that was completed. -/
def firstJob? (es : List ProgressEvent) : Option Nat := es.findSome? jobRuns?

variable {es : List ProgressEvent} {e : ProgressEvent}

/-- One more event is one more completion if it is one. -/
lemma completions_concat (es : List ProgressEvent) (e : ProgressEvent) :
    completions (es ++ [e]) = completions es + if e.isCompleted then 1 else 0 := by
  rw [completions, completions, List.countP_append, List.countP_singleton]

/-- The last total is that of the last event if it tells one. -/
lemma lastTotal_concat (es : List ProgressEvent) (e : ProgressEvent) :
    lastTotal (es ++ [e]) = e.total?.getD (lastTotal es) := by
  rw [lastTotal, List.reverse_concat, List.findSome?_cons]
  cases e.total? with
  | none => rfl
  | some n => rfl

/-- The first job is that of the events before if there is one, or else that of the last event. -/
lemma firstJob?_concat (es : List ProgressEvent) (e : ProgressEvent) :
    firstJob? (es ++ [e]) = (firstJob? es).or e.jobRuns? := by
  rw [firstJob?, List.findSome?_append, List.findSome?_singleton]
  rfl

end ProgressEvent

open ProgressEvent

namespace Progress

/-- What a reporter knows after events. -/
structure Tallied (verbose : Bool) (es : List ProgressEvent) (p : Progress) : Prop where
  verbose : p.verbose = verbose
  total : p.total = lastTotal es
  completed : p.completed = completions es
  jobReported : p.jobReported = (firstJob? es).isSome

/-- The lines that an event is logged with after others. -/
def linesOf (verbose : Bool) (es : List ProgressEvent) : ProgressEvent → Log
  | .total _ => []
  | .started run => [line .debug ("Starting " ++ run.display)]
  | .completed run cmdline =>
    completedLine (completions es + 1) (lastTotal es) run ::
      if verbose then [line .debug cmdline] else []
  | .failed run cmdline code output => [failedLine run cmdline code output]
  | .jobCompleted n => if firstJob? es = none then [jobLine n] else []

/-- Whether a line says that a job was completed. -/
def isJobLine (l : LogLine) : Bool :=
  l.level = .info && "Job completed".toList.isPrefixOf l.message.toList

variable {verbose : Bool} {es : List ProgressEvent} {e : ProgressEvent} {p : Progress}

/-! ## One event -/

/-- What a reporter knows after an event. -/
lemma notify_fst (p : Progress) (e : ProgressEvent) :
    (p.notify e).1 =
      ⟨p.verbose, e.total?.getD p.total, p.completed + if e.isCompleted then 1 else 0,
        p.jobReported || e.jobRuns?.isSome⟩ := by
  obtain ⟨verbose, total, completed, reported⟩ := p
  cases e with
  | jobCompleted n => cases reported <;> rfl
  | total n => cases reported <;> rfl
  | started run => cases reported <;> rfl
  | completed run cmdline => cases reported <;> rfl
  | failed run cmdline code output => cases reported <;> rfl

/-- A new reporter has tallied no events. -/
lemma tallied_new (verbose : Bool) : Tallied verbose [] (new verbose) := ⟨rfl, rfl, rfl, rfl⟩

/-- A reporter takes note of one more event. -/
lemma Tallied.notify (h : Tallied verbose es p) (e : ProgressEvent) :
    Tallied verbose (es ++ [e]) (p.notify e).1 := by
  rw [notify_fst, h.verbose, h.total, h.completed, h.jobReported]
  refine ⟨rfl, (lastTotal_concat es e).symm, (completions_concat es e).symm, ?_⟩
  rw [firstJob?_concat, Option.isSome_or]

/-- The lines of an event are those that the events before it call for. -/
lemma Tallied.lines (h : Tallied verbose es p) (e : ProgressEvent) :
    (p.notify e).2 = linesOf verbose es e := by
  obtain ⟨mode, total, completed, reported⟩ := h
  cases e with
  | total n => rfl
  | started run => rfl
  | completed run cmdline =>
    rw [Progress.notify, mode, total, completed]
    rfl
  | failed run cmdline code output => rfl
  | jobCompleted n =>
    rw [Progress.notify, linesOf, reported]
    cases firstJob? es with
    | none => rfl
    | some m => rfl

/-! ## Any events -/

/-- One more event is notified last. -/
lemma notifyAll_concat (p : Progress) (es : List ProgressEvent) (e : ProgressEvent) :
    p.notifyAll (es ++ [e]) =
      (((p.notifyAll es).1.notify e).1, (p.notifyAll es).2 ++ ((p.notifyAll es).1.notify e).2) := by
  induction es generalizing p with
  | nil => simp [notifyAll]
  | cons first rest ih => simp [notifyAll, ih]

/-- A reporter takes note of all events. -/
lemma tallied_notifyAll (verbose : Bool) (es : List ProgressEvent) :
    Tallied verbose es ((new verbose).notifyAll es).1 := by
  induction es using List.reverseRecOn with
  | nil => exact tallied_new verbose
  | append_singleton es e ih =>
    rw [notifyAll_concat]
    exact ih.notify e

/-- What an event adds to the log. -/
lemma log_concat (verbose : Bool) (es : List ProgressEvent) (e : ProgressEvent) :
    ((new verbose).notifyAll (es ++ [e])).2 =
      ((new verbose).notifyAll es).2 ++ linesOf verbose es e := by
  rw [notifyAll_concat, (tallied_notifyAll verbose es).lines e]

/-- The line about a job is one. -/
lemma isJobLine_jobLine (n : Nat) : isJobLine (jobLine n) = true := by
  have words : (jobLine n).message.toList =
      "Job completed with ".toList ++ (toString n).toList ++ " runs".toList := by
    rw [← String.toList_append, ← String.toList_append]
    rfl
  rw [isJobLine, words]
  rfl

/-- The line about a completed run is none about a job. -/
lemma isJobLine_completedLine (k t : Nat) (run : Run) :
    isJobLine (completedLine k t run) = false := by
  have bracket : (completedLine k t run).message.toList.head? = some '[' := by
    simp [completedLine, line]
  obtain ⟨rest, words⟩ := List.head?_eq_some_iff.1 bracket
  rw [isJobLine, words]
  rfl

/-- Of the lines of an event only that of the first completed job is about a job. -/
lemma filter_linesOf (verbose : Bool) (es : List ProgressEvent) (e : ProgressEvent) :
    (linesOf verbose es e).filter isJobLine =
      if firstJob? es = none then e.jobRuns?.toList.map jobLine else [] := by
  cases e with
  | total n => exact (ite_self _).symm
  | started run => exact (ite_self _).symm
  | completed run cmdline =>
    rw [linesOf, List.filter_cons_of_neg (by simp [isJobLine_completedLine])]
    cases verbose with
    | true => exact (ite_self _).symm
    | false => exact (ite_self _).symm
  | failed run cmdline code output => exact (ite_self _).symm
  | jobCompleted n =>
    rw [linesOf]
    cases firstJob? es with
    | none => exact List.filter_cons_of_pos (isJobLine_jobLine n)
    | some m => rfl

/-- The log has one line about a job if a job was completed, and none otherwise. -/
lemma filter_isJobLine (verbose : Bool) (es : List ProgressEvent) :
    ((new verbose).notifyAll es).2.filter isJobLine = (firstJob? es).toList.map jobLine := by
  induction es using List.reverseRecOn with
  | nil => rfl
  | append_singleton es e ih =>
    rw [log_concat, List.filter_append, ih, filter_linesOf, firstJob?_concat]
    cases firstJob? es with
    | none => rfl
    | some n => rfl

/-- What a reporter makes of any events. It has counted the completed runs and knows the total that
was announced last. The next run that is completed is logged with its number and this total, and with
its command line exactly if the reporter is verbose. The log has a line about a job exactly if a job
was completed: one line with the number of runs of the first such job, which is logged with that
job. A run that is started or fails changes nothing in the reporter, and a completed job neither of
the numbers. -/
theorem notifyAll_tallied (verbose : Bool) (es : List ProgressEvent) :
    ((new verbose).notifyAll es).1.completed = completions es ∧
    ((new verbose).notifyAll es).1.total = lastTotal es ∧
    (∀ run cmdline, ((new verbose).notifyAll (es ++ [.completed run cmdline])).2 =
      ((new verbose).notifyAll es).2 ++
        ⟨.info, "benchconf::reporter", "[" ++ toString (completions es + 1) ++ "/" ++
          toString (lastTotal es) ++ "] Completed " ++ run.display⟩ ::
        if verbose then [⟨.debug, "benchconf::reporter", cmdline⟩] else []) ∧
    ((new verbose).notifyAll es).2.filter isJobLine = (firstJob? es).toList.map (fun n =>
      ⟨.info, "benchconf::reporter", "Job completed with " ++ toString n ++ " runs"⟩) ∧
    (∀ n, ((new verbose).notifyAll (es ++ [.jobCompleted n])).2 =
      ((new verbose).notifyAll es).2 ++
        if firstJob? es = none then
          [⟨.info, "benchconf::reporter", "Job completed with " ++ toString n ++ " runs"⟩]
        else []) ∧
    (∀ run, ((new verbose).notifyAll (es ++ [.started run])).1 =
      ((new verbose).notifyAll es).1) ∧
    (∀ run cmdline code output,
      ((new verbose).notifyAll (es ++ [.failed run cmdline code output])).1 =
        ((new verbose).notifyAll es).1) ∧
    ∀ n, ((new verbose).notifyAll (es ++ [.jobCompleted n])).1 =
      { ((new verbose).notifyAll es).1 with jobReported := true } := by
  have now := tallied_notifyAll verbose es
  refine ⟨now.completed, now.total, ?_, filter_isJobLine verbose es, ?_, ?_, ?_, ?_⟩
  · intro run cmdline
    exact log_concat verbose es _
  · intro n
    exact log_concat verbose es _
  · intro run
    rw [notifyAll_concat]
    rfl
  · intro run cmdline code output
    rw [notifyAll_concat]
    rfl
  · intro n
    rw [notifyAll_concat, notify_fst]
    simp [jobRuns?, total?, isCompleted]

/-- Two runs of three are completed and one fails, the total is announced late, and the end of the
job is told twice. -/
example (run : Run) :
    ((new false).notifyAll [.completed run "a", .total 3, .failed run "b" 1 "", .completed run "c",
      .jobCompleted 3, .jobCompleted 2]) =
      (⟨false, 3, 2, true⟩,
        [line .info ("[1/0] Completed " ++ run.display), failedLine run "b" 1 "",
          line .info ("[2/3] Completed " ++ run.display),
          line .info "Job completed with 3 runs"]) := by
  rfl

end Progress

end BenchPlan
