import BenchPlan.Proofs.Soundness

/-!
# Something to run

The check of a configuration asks every suite for benchmarks, every experiment for executions and
every execution for suites, so that every experiment has something to run. It counts the entries of
these lists, though, and an entry that is a mapping may name nothing at all. A sound configuration
can thus have an experiment that compiles to no run (`no_runs_of_blank_entries`). What an experiment
of a sound configuration has to run is what its entries name: it lists a run exactly if some
execution names a machine and one of its suites names a benchmark, which is so whenever no entry is
blank (`compile_ne_nil_iff`).
-/

namespace BenchPlan

open Experiment Slot

namespace Config

variable {c : Config} {name : String} {d : ExperimentDef}

/-- Some execution of an experiment names a machine, and one of its suites names a benchmark. -/
def HasWork (c : Config) (d : ExperimentDef) : Prop :=
  ∃ entry ∈ d.executions, ∃ x ∈ entry.executions, ∃ n ∈ x.2.getD d.suites,
    ∃ s, c.suites.get? n = some s ∧ ∃ entry' ∈ s.benchmarks, entry'.benchmarks ≠ []

/-- An experiment of a sound configuration has a slot exactly if it has work. -/
lemma slots_ne_nil_iff (sound : c.check = []) (defined : c.experiments.get? name = some d) :
    d.slots c.machines c.suites ≠ [] ↔ c.HasWork d := by
  constructor
  · intro h
    obtain ⟨l, m⟩ := List.exists_mem_of_ne_nil _ h
    obtain ⟨x, mx, m⟩ := List.mem_flatMap.1 m
    obtain ⟨n, mn, m⟩ := List.mem_flatMap.1 m
    obtain ⟨entry, mentry, mx⟩ := List.mem_flatMap.1 mx
    obtain ⟨e, _, suite, listed⟩ := Reference.mem_slots (r := .suite x.1 n) m
    injection e with _ same
    subst same
    obtain ⟨entry', mentry', listed⟩ := List.mem_flatMap.1 listed
    exact ⟨entry, mentry, x, mx, _, mn, _, suite, entry', mentry', List.ne_nil_of_mem listed⟩
  · rintro ⟨entry, mentry, x, mx, n, mn, s, suite, entry', mentry', nonempty⟩
    have mx : x ∈ d.allExecutions := List.mem_flatMap.2 ⟨entry, mentry, mx⟩
    -- the machine is defined, since the check looks up all that is referred to
    have referred : .machine x.1 ∈ d.references :=
      List.mem_flatMap.2 ⟨x, mx, List.mem_cons_self⟩
    obtain ⟨md, machine⟩ := Table.get?_of_contains (resolves_of_sound sound defined referred)
    obtain ⟨b, mb⟩ := List.exists_mem_of_ne_nil _ nonempty
    have mb : b ∈ s.allBenchmarks := List.mem_flatMap.2 ⟨entry', mentry', mb⟩
    have slot := mem_suiteSlots machine suite mb
    exact List.ne_nil_of_mem (List.mem_flatMap.2 ⟨x, mx, List.mem_flatMap.2 ⟨n, mn, slot⟩⟩)

/-- An experiment of a sound configuration has work if no entry is blank. -/
lemma hasWork_of_sound (sound : c.check = []) (defined : c.experiments.get? name = some d)
    (executions : ∀ entry ∈ d.executions, entry.executions ≠ [])
    (benchmarks : ∀ n s, c.suites.get? n = some s → ∀ entry ∈ s.benchmarks,
      entry.benchmarks ≠ []) : c.HasWork d := by
  have rules : c.Sound := check_eq_nil_iff.1 sound
  have listed := (Table.get?_eq_some_iff _).1 defined
  obtain ⟨entry, mentry⟩ := List.exists_mem_of_ne_nil _ (rules.executions _ _ listed)
  obtain ⟨x, mx⟩ := List.exists_mem_of_ne_nil _ (executions entry mentry)
  have mx' : x ∈ d.allExecutions := List.mem_flatMap.2 ⟨entry, mentry, mx⟩
  obtain ⟨n, mn⟩ := List.exists_mem_of_ne_nil _ (rules.inEffect _ _ listed _ _ mx')
  have referred : .suite x.1 n ∈ d.references :=
    List.mem_flatMap.2 ⟨x, mx', List.mem_cons_of_mem _ (List.mem_map.2 ⟨n, mn, rfl⟩)⟩
  obtain ⟨s, suite⟩ := Table.get?_of_contains (resolves_of_sound sound defined referred)
  obtain ⟨entry', mentry'⟩ := List.exists_mem_of_ne_nil _
    (rules.benchmarks _ _ ((Table.get?_eq_some_iff _).1 suite))
  exact ⟨entry, mentry, x, mx, n, mn, s, suite, entry', mentry',
    benchmarks n s suite entry' mentry'⟩

/-- Without a filter an experiment lists a run exactly if it has a slot. -/
lemma runs_ne_nil_iff {ctx : Context} {s : Shared} {x : Experiment}
    (unfiltered : ctx.filter = .empty) (h : (compile ctx name d s).1 = .ok x) :
    x.runs ≠ [] ↔ d.slots ctx.machines ctx.suites ≠ [] := by
  have listed := compile_represents h (.refl _)
  rw [unfiltered, admitted_empty] at listed
  rw [ne_eq, ne_eq, ← List.length_eq_zero_iff, ← listed.length_eq, List.length_eq_zero_iff,
    firsts_eq_nil]

/-- What the experiments of a sound configuration have to run. Without a filter each of them
compiles, and it lists a run exactly if some execution names a machine and one of its suites names a
benchmark. This is so if no entry of its executions and of the suites is blank. -/
theorem compile_ne_nil_iff (sound : c.check = []) (defined : c.experiments.get? name = some d)
    (ctx : Context) (s : Shared) :
    ∃ x, (compile { ctx with machines := c.machines, suites := c.suites, filter := .empty } name d
        s).1 = .ok x ∧
      (x.runs ≠ [] ↔ c.HasWork d) ∧
      ((∀ entry ∈ d.executions, entry.executions ≠ []) →
        (∀ n s, c.suites.get? n = some s → ∀ entry ∈ s.benchmarks, entry.benchmarks ≠ []) →
        x.runs ≠ []) := by
  obtain ⟨x, compiled⟩ : ∃ x, (compile { ctx with
      machines := c.machines, suites := c.suites, filter := .empty } name d s).1 = .ok x := by
    rw [compile_of_resolved (firstDangling_of_sound sound defined)]
    exact ⟨_, rfl⟩
  have work := (runs_ne_nil_iff rfl compiled).trans (slots_ne_nil_iff sound defined)
  refine ⟨x, compiled, work, ?_⟩
  intro executions benchmarks
  exact work.2 (hasWork_of_sound sound defined executions benchmarks)

/-- The experiments of the demonstration compile to runs, none of their entries being blank. -/
theorem compile_ne_nil_iff_demo :
    demoConfig.check = [] ∧ demoConfig.experiments.get? "E" = some demoExperiment ∧
    ∃ x, (compile { demoContext with
        machines := demoConfig.machines, suites := demoConfig.suites, filter := .empty } "E"
        demoExperiment demoShared).1 = .ok x ∧ x.runs ≠ [] := by
  obtain ⟨x, compiled, _, work⟩ :=
    @compile_ne_nil_iff demoConfig "E" demoExperiment rfl rfl demoContext demoShared
  refine ⟨rfl, rfl, x, compiled, work (by decide) ?_⟩
  intro n s defined
  have entry : (n, s) ∈ [("S", demoSuite)] := (Table.get?_eq_some_iff _).1 defined
  cases List.mem_singleton.1 entry
  decide

/-- A sound configuration with blank entries: one experiment has an execution that names no machine,
and the other a suite that names no benchmark. -/
def demoBlank : Config :=
  { demoConfig with
    suites := Table.ofList
      [("S", demoSuite), ("T", { demoSuite with benchmarks := [.detailed Table.empty] })]
    experiments := Table.ofList
      [("D", { demoExperiment with executions := [.detailed Table.empty] }),
        ("E", { demoExperiment with suites := ["T"], executions := [.machine "V"] })] }

/-- Nothing is found wrong with blank entries, but the experiments have nothing to run. -/
theorem no_runs_of_blank_entries :
    demoBlank.check = [] ∧ ∀ name ∈ demoBlank.experiments.keys, ∃ d x,
      demoBlank.experiments.get? name = some d ∧
      (compile { demoContext with
          machines := demoBlank.machines, suites := demoBlank.suites, filter := .empty } name d
          ⟨.empty, .empty 0, []⟩).1 = .ok x ∧ x.runs = [] := by
  refine ⟨rfl, ?_⟩
  intro name m
  have names : demoBlank.experiments.keys = ["D", "E"] := rfl
  rw [names, List.mem_cons, List.mem_singleton] at m
  obtain rfl | rfl := m
  · exact ⟨_, _, rfl, rfl, rfl⟩
  · exact ⟨_, _, rfl, rfl, rfl⟩

end Config

end BenchPlan
