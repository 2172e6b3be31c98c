import BenchPlan.Proofs.Compilation

/-!
# Which build steps are recorded

Compiling an experiment records the build steps of the machines and suites that it refers to,
whatever the filter keeps out and whatever the store holds. A machine or suite that was made already
is not made again, and nothing is lost by that: its step is recorded already
(`recordAll_of_madeOf`), and to record a known step changes nothing. So the table after a
compilation is the one before with the steps of the references recorded in turn (`compile_builds`),
up to the first reference that leads nowhere, and what it holds can be said without the walk
(`steps_recordAll`).
-/

namespace BenchPlan

open Experiment Slot

namespace BuildTable

/-- The table after steps were recorded in turn. -/
def recordAll (t : BuildTable) (bs : List BuildStep) : BuildTable :=
  bs.foldl (fun t b => (t.intern b).2.1) t

/-- Steps are recorded one after the other. -/
lemma recordAll_append (t : BuildTable) (bs bs' : List BuildStep) :
    t.recordAll (bs ++ bs') = (t.recordAll bs).recordAll bs' :=
  List.foldl_append

/-- A table is an earlier state of itself with steps recorded. -/
lemma within_recordAll (t : BuildTable) (bs : List BuildStep) : t.Within (t.recordAll bs) := by
  induction bs generalizing t with
  | nil => exact .refl t
  | cons b rest ih => exact (intern_recorded t b).within.trans (ih _)

/-- To record a known step changes nothing. -/
lemma intern_of_mem {t : BuildTable} {b : BuildStep} (m : b ∈ t.steps) : (t.intern b).2.1 = t := by
  unfold intern
  split
  · rfl
  · rename_i h
    rw [List.idxOf?_eq_none_iff] at h
    exact absurd m h

/-- A step that is new to a table is put at its end and traced. -/
lemma intern_of_not_mem {t : BuildTable} {b : BuildStep} (new : b ∉ t.steps) :
    t.intern b =
      (⟨t.owner, t.steps.length, b⟩, { t with steps := t.steps ++ [b] }, [recordedLine b]) := by
  rw [intern, List.idxOf?_eq_none_iff.2 new]

/-- The steps that are added to a table are the first of each kind that it did not hold. -/
lemma steps_recordAll (t : BuildTable) (bs : List BuildStep) :
    (t.recordAll bs).steps = t.steps ++ firsts id (bs.filter fun b => b ∉ t.steps) := by
  induction bs generalizing t with
  | nil => simp [recordAll, firsts]
  | cons b rest ih =>
    rw [recordAll, List.foldl_cons, ← recordAll, ih]
    by_cases h : b ∈ t.steps
    · rw [intern_of_mem h, List.filter_cons_of_neg (by simpa using h)]
    · -- `b` is recorded now, so that what is new after it is new and other than `b`
      rw [intern_of_not_mem h, List.filter_cons_of_pos (by simpa using h), firsts_cons,
        List.filter_filter, List.append_assoc]
      congr 3
      simp [not_or, Bool.and_comm]

/-- An empty table in which steps are recorded holds each of them once, in the order of their first
use. -/
lemma steps_recordAll_empty (owner : Nat) (bs : List BuildStep) :
    ((empty owner).recordAll bs).steps = firsts id bs := by
  rw [steps_recordAll]
  simp [empty]

/-- Interning a step that may be missing records it if it is there. -/
lemma intern?_eq_recordAll (t : BuildTable) (b : Option BuildStep) :
    (t.intern? b).2.1 = t.recordAll b.toList := by
  cases b with
  | none => rfl
  | some b => rfl

/-- If the object for a step stays the same whatever is recorded later, the step is recorded. -/
lemma mem_steps_of_intern? {t : BuildTable} {b : BuildStep} {o : Option SharedBuild}
    (h : ∀ u, t.Within u → (u.intern? (some b)).1 = o) : b ∈ t.steps := by
  by_contra new
  -- if it were not, another step could come first and take its place
  have other : (⟨"" :: b.commands, b.location⟩ : BuildStep) ≠ b := by
    intro e
    have e := congrArg (fun b => b.commands.length) e
    simp at e
  let u : BuildTable := { t with steps := t.steps ++ [⟨"" :: b.commands, b.location⟩] }
  have new' : b ∉ u.steps := by simpa [u, new] using Ne.symm other
  have now : (t.intern b).1.position = t.steps.length := by rw [intern_of_not_mem new]
  have later : (u.intern b).1.position = t.steps.length + 1 := by
    rw [intern_of_not_mem new']
    simp [u]
  have same : (t.intern b).1 = (u.intern b).1 :=
    Option.some.inj ((h t (.refl t)).trans (h u ⟨rfl, List.prefix_append _ _⟩).symm)
  rw [same, later] at now
  omega

/-- The known step of something that was made before is recorded by recording nothing. -/
lemma recordAll_of_madeOf {t : BuildTable} {b : Option BuildStep} {o : Option SharedBuild}
    (h : ∀ u, t.Within u → (u.intern? b).1 = o) : t.recordAll b.toList = t := by
  cases b with
  | none => rfl
  | some b => exact intern_of_mem (mem_steps_of_intern? h)

end BuildTable

open BuildTable

namespace Reference

variable (machines : Table MachineDef) (suites : Table SuiteDef)

/-- The build step of what a reference leads to, if it has one. -/
def buildStep? : Reference → Option BuildStep
  | machine n => (machines.get? n).bind Machine.buildStep?
  | suite _ n => (suites.get? n).bind Suite.buildStep?

/-- The build steps of references in order. -/
def buildSteps (refs : List Reference) : List BuildStep :=
  refs.filterMap (buildStep? machines suites)

variable {machines suites}

/-- The build step of the first reference comes before those of the others. -/
lemma buildSteps_cons (r : Reference) (refs : List Reference) :
    buildSteps machines suites (r :: refs) =
      (r.buildStep? machines suites).toList ++ buildSteps machines suites refs := by
  rw [buildSteps, buildSteps, List.filterMap_cons]
  cases r.buildStep? machines suites <;> rfl

/-- References one after the other have their build steps one after the other. -/
lemma buildSteps_append (refs more : List Reference) :
    buildSteps machines suites (refs ++ more) =
      buildSteps machines suites refs ++ buildSteps machines suites more :=
  List.filterMap_append

end Reference

namespace Experiment.Walk

variable {ctx : Context} {settings : RunSettings} {w w' : Walk}

/-- To get the machine of a name records its build step. -/
lemma machine?_builds (hw : Faithful ctx w) {name : String} {m : Machine}
    (h : w.machine? ctx name = some (m, w')) :
    w'.shared.builds = w.shared.builds.recordAll
      ((Reference.machine name).buildStep? ctx.machines ctx.suites).toList := by
  unfold machine? at h
  split at h
  · rename_i m' found
    cases h
    obtain ⟨d, defined, made⟩ := hw.machines name m found
    rw [Reference.buildStep?, defined]
    exact (recordAll_of_madeOf fun u later => congrArg Machine.build (made u later)).symm
  · obtain ⟨d, defined, e⟩ := Option.map_eq_some_iff.1 h
    cases e
    rw [Reference.buildStep?, defined]
    exact intern?_eq_recordAll _ _

/-- To get the suite of a name records its build step. -/
lemma suite_builds (hw : Faithful ctx w) {machine name : String} {d : SuiteDef}
    (defined : ctx.suites.get? name = some d) :
    (w.suite name d).2.shared.builds = w.shared.builds.recordAll
      ((Reference.suite machine name).buildStep? ctx.machines ctx.suites).toList := by
  rw [Reference.buildStep?, defined]
  unfold suite
  split
  · rename_i s found
    obtain ⟨d', defined', made⟩ := hw.suites name s found
    cases defined.symm.trans defined'
    exact (recordAll_of_madeOf fun u later => congrArg Suite.build (made u later)).symm
  · exact intern?_eq_recordAll _ _

/-- Walking the benchmarks of a suite records no build steps. -/
lemma benchmarks_builds (ctx : Context) (settings : RunSettings) (m : Machine) (s : Suite)
    (w : Walk) (bs : List (String × Option BenchmarkDetails)) :
    (benchmarks ctx settings m s w bs).shared.builds = w.shared.builds := by
  induction bs generalizing w with
  | nil => rfl
  | cons b rest ih =>
    have first : (benchmark ctx settings m s w b).shared.builds = w.shared.builds := by
      unfold benchmark
      dsimp only
      split <;> rfl
    exact (ih _).trans first

/-- To pass references is to record their build steps. -/
lemma Passes.builds {refs : List Reference} (h : Passes ctx settings w refs w')
    (hw : Faithful ctx w) :
    w'.shared.builds =
      w.shared.builds.recordAll (Reference.buildSteps ctx.machines ctx.suites refs) := by
  induction h with
  | nil => rfl
  | machine found _ ih =>
    obtain ⟨_, _, _, first⟩ := machine?_takes settings hw found
    rw [ih first.faithful, machine?_builds hw found, Reference.buildSteps_cons, recordAll_append]
  | suite machine defined made _ ih =>
    have first := suiteBenchmarks_takes settings hw machine defined made
    rw [ih first.faithful, benchmarks_builds, suite_builds hw defined, Reference.buildSteps_cons,
      recordAll_append]

end Experiment.Walk

namespace Experiment

/-- The table after a compilation, also if it fails, is the one before with the build steps of all
references recorded that come before the first that leads nowhere. -/
lemma compile_builds (ctx : Context) (name : String) (d : ExperimentDef) (s : Shared) :
    (compile ctx name d s).2.builds = s.builds.recordAll
      (Reference.buildSteps ctx.machines ctx.suites
        (Reference.settled ctx.machines ctx.suites d.references)) := by
  rw [(compile_snd ctx name d s).2]
  exact (walk_passes ctx name d s).builds (.start ctx s)

end Experiment

end BenchPlan
