import BenchPlan.Proofs.Building

/-!
# Access to a table of build steps

A table is asked for the object of a step, or whether a step is recorded, in any order. Such a
sequence of accesses records the steps whose objects were asked for (`after_eq_recordAll`), so at
every point the table holds each of them once (`steps_after`). Objects handed out at different times
are told apart by their steps alone (`same_object_iff`). What an access is answered and what it adds
to the log is then known from the accesses before it (`answer_after`).
-/

namespace BenchPlan

/-- Steps are the same if their commands and locations are. -/
lemma BuildStep.eq_iff {s s' : BuildStep} :
    s = s' ↔ s.commands = s'.commands ∧ s.location = s'.location := by
  cases s
  cases s'
  rw [mk.injEq]

namespace BuildTable

/-- What is asked of a table: the object of a step, or whether a step is recorded. -/
inductive Access where
  | intern (s : BuildStep)
  | contains (s : BuildStep)
  deriving DecidableEq

/-- What a table answers. -/
inductive Answer where
  | object (b : SharedBuild)
  | known (recorded : Bool)
  deriving DecidableEq

/-- The step that an access is about. -/
def Access.step : Access → BuildStep
  | intern s => s
  | contains s => s

/-- The answer to an access, the table after it, and what is logged. -/
def answer (t : BuildTable) : Access → Answer × BuildTable × Log
  | .intern s =>
    let (b, t, log) := t.intern s
    (.object b, t, log)
  | .contains s => (.known (t.contains s), t, [])

/-- The table after accesses in turn. -/
def after (t : BuildTable) (as : List Access) : BuildTable :=
  as.foldl (fun t a => (t.answer a).2.1) t

/-- The steps whose objects are asked for. -/
def interned (as : List Access) : List BuildStep :=
  as.filterMap fun a =>
    match a with
    | .intern s => some s
    | .contains _ => none

variable {t u : BuildTable} {s s' : BuildStep} {owner : Nat} {as : List Access}

/-- What is interned by the first access comes before what is interned by the others. -/
lemma interned_cons (a : Access) (as : List Access) :
    interned (a :: as) = interned [a] ++ interned as := by
  cases a <;> rfl

/-- An access records the step whose object it asks for. -/
lemma answer_table (t : BuildTable) (a : Access) :
    (t.answer a).2.1 = t.recordAll (interned [a]) := by
  cases a with
  | intern s => rfl
  | contains s => rfl

/-- A table is accessed one access after the other. -/
lemma after_append (t : BuildTable) (as more : List Access) :
    t.after (as ++ more) = (t.after as).after more :=
  List.foldl_append

/-- Accesses record the steps whose objects they ask for. -/
lemma after_eq_recordAll (t : BuildTable) (as : List Access) :
    t.after as = t.recordAll (interned as) := by
  induction as generalizing t with
  | nil => rfl
  | cons a rest ih =>
    rw [interned_cons, recordAll_append, ← answer_table]
    exact ih _

/-- A table is an earlier state of itself after accesses. -/
lemma within_after (t : BuildTable) (as : List Access) : t.Within (t.after as) := by
  rw [after_eq_recordAll]
  exact within_recordAll t _

/-- The table holds each of the steps whose objects were asked for once. -/
lemma steps_after (owner : Nat) (as : List Access) :
    ((empty owner).after as).steps = firsts id (interned as) := by
  rw [after_eq_recordAll, steps_recordAll_empty]

/-- An empty table has after accesses the steps that they intern. -/
lemma mem_steps_after : s ∈ ((empty owner).after as).steps ↔ s ∈ interned as := by
  rw [steps_after, mem_firsts_iff_mem]
  exact fun _ _ _ _ e => e

/-- An access is logged exactly if it adds a step to the table. -/
lemma log_answer (t : BuildTable) (a : Access) :
    (t.answer a).2.2 = if t.size < (t.answer a).2.1.size then [recordedLine a.step] else [] := by
  cases a with
  | contains s => exact (if_neg (Nat.lt_irrefl _)).symm
  | intern s =>
    show (t.intern s).2.2 = if t.size < (t.intern s).2.1.size then [recordedLine s] else []
    unfold intern
    split
    · exact (if_neg (Nat.lt_irrefl _)).symm
    · have longer : t.steps.length < (t.steps ++ [s]).length := by simp
      exact (if_pos longer).symm

/-- What stands at the place of a step is the step. -/
lemma getElem?_of_idxOf? {xs : List BuildStep} {i : Nat} (h : xs.idxOf? s = some i) :
    xs[i]? = some s := by
  rw [List.idxOf?, List.findIdx?_eq_some_iff_getElem] at h
  obtain ⟨lt, found, -⟩ := h
  rw [List.getElem?_eq_getElem lt, eq_of_beq found]

/-- Objects handed out for two steps, one later than the other, are one object exactly if the steps
are equal. -/
lemma same_object_iff (later : (t.intern s).2.1.Within u) :
    ((t.intern s).1.owner = (u.intern s').1.owner ∧
      (t.intern s).1.position = (u.intern s').1.position) ↔ s = s' := by
  constructor
  · rintro ⟨-, same⟩
    -- both steps have their places in the table that has recorded the second one too
    have within := later.trans (intern_recorded u s').within
    have place := idxOf?_of_prefix (idxOf?_intern t s) within.steps
    have first := getElem?_of_idxOf? place
    have second := getElem?_of_idxOf? (idxOf?_intern u s')
    rw [same, second] at first
    exact (Option.some.inj first).symm
  · rintro rfl
    rw [intern_within later]
    exact ⟨rfl, rfl⟩

/-- What a table answers after any accesses. An access for the object of a step is answered by an
object that holds the step, and two of these objects are one exactly if their steps have equal
commands, one by one, and equal places, where no place is not the empty text. A step is known
exactly if its object was asked for before, and to ask whether it is known changes nothing. The
size of the table is the number of different steps whose objects were asked for, and a line is
logged by exactly those accesses that make it larger. -/
theorem answer_after (owner : Nat) (as : List Access) :
    (∀ s between s', ∃ b b',
      (((empty owner).after as).answer (.intern s)).1 = .object b ∧ b.step = s ∧
      (((empty owner).after (as ++ .intern s :: between)).answer (.intern s')).1 = .object b' ∧
      b'.step = s' ∧
      ((b.owner = b'.owner ∧ b.position = b'.position) ↔
        s.commands = s'.commands ∧ s.location = s'.location)) ∧
    (∀ s, ((empty owner).after as).answer (.contains s) =
      (.known (decide (s ∈ interned as)), (empty owner).after as, [])) ∧
    ((empty owner).after as).size = (interned as).toFinset.card ∧
    ∀ a, (((empty owner).after as).answer a).2.2 =
      if ((empty owner).after as).size < (((empty owner).after as).answer a).2.1.size then
        [⟨.trace, "benchconf::model::build_command",
          "Recorded build command: " ++ " && ".intercalate a.step.commands⟩]
      else [] := by
  refine ⟨?_, ?_, ?_, log_answer _⟩
  · intro s between s'
    have later : (((empty owner).after as).intern s).2.1.Within
        ((empty owner).after (as ++ .intern s :: between)) := by
      rw [after_append]
      exact within_after _ between
    exact ⟨_, _, rfl, congrArg SharedBuild.step (intern_eq _ s), rfl,
      congrArg SharedBuild.step (intern_eq _ s'), (same_object_iff later).trans BuildStep.eq_iff⟩
  · intro s
    have known : ((empty owner).after as).contains s = decide (s ∈ interned as) := by
      rw [contains, List.contains_eq_mem, decide_eq_decide, mem_steps_after]
    rw [← known]
    rfl
  · have same : (interned as).toFinset = ((empty owner).after as).steps.toFinset := by
      ext s
      rw [List.mem_toFinset, List.mem_toFinset, mem_steps_after]
    have nodup : ((empty owner).after as).steps.Nodup := by
      rw [steps_after]
      exact pairwise_firsts id _
    rw [same, List.toFinset_card_of_nodup nodup, size]

/-- Two steps that are written as one line, and one without a place or in the place of no name,
remain apart. -/
example :
    (⟨["a", "b"], none⟩ : BuildStep).shellLine = (⟨["a && b"], none⟩ : BuildStep).shellLine ∧
      ((empty 0).after [.intern ⟨["a", "b"], none⟩, .contains ⟨["a"], none⟩,
        .intern ⟨["a && b"], none⟩, .intern ⟨["a && b"], some ""⟩,
        .intern ⟨["a", "b"], none⟩]).size = 3 := by
  decide

end BuildTable

end BenchPlan
