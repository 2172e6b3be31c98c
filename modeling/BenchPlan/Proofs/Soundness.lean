import BenchPlan.Proofs.Compilation
import BenchPlan.Proofs.Findings

/-!
# Sound configurations compile

Checking a configuration and compiling its experiments look up the same references. Whatever
reference compiling finds to lead nowhere, the check has a finding about it (`reported_of_mem`).
Hence the experiments of a configuration without findings compile (`compile_checked`).
-/

namespace BenchPlan

open Experiment

namespace Config

variable {c : Config} {name : String} {d : ExperimentDef}

/-- The check of a configuration has a finding about a reference of an experiment. -/
def Reported (c : Config) (experiment : String) : Reference → Prop
  | .machine n => .unknownMachine experiment n ∈ c.check
  | .suite _ n =>
    .unknownSuite experiment n ∈ c.check ∨ ∃ m, .unknownSuiteOf experiment m n ∈ c.check

/-- Every reference of an experiment that leads nowhere is reported. -/
lemma reported_of_mem (defined : (name, d) ∈ c.experiments.entries) {r : Reference}
    (m : r ∈ d.references) (h : r.resolves c.machines c.suites = false) : c.Reported name r := by
  obtain ⟨x, mx, m⟩ := List.mem_flatMap.1 m
  cases List.mem_cons.1 m with
  | inl e =>
    subst e
    exact mem_check_iff.2 (.unknownMachine defined mx (contains_eq_false.1 h))
  | inr m =>
    obtain ⟨n, mn, rfl⟩ := List.mem_map.1 m
    exact unknownSuite_iff.2 ⟨d, defined, names_of_mem mx mn, contains_eq_false.1 h⟩

/-- The reference at which compiling an experiment stops is reported. -/
lemma reported_of_compile (defined : c.experiments.get? name = some d) (ctx : Context) (s : Shared)
    {e : DanglingName}
    (h : (compile { ctx with machines := c.machines, suites := c.suites } name d s).1 =
      .error e) : ∃ r, e = Reference.dangling name r ∧ c.Reported name r := by
  cases stop : Reference.firstDangling c.machines c.suites d.references with
  | none =>
    rw [compile_of_resolved stop] at h
    cases h
  | some r =>
    rw [compile_of_dangling stop] at h
    cases h
    have unresolved : r.resolves c.machines c.suites = false := by
      simpa using List.find?_some stop
    exact ⟨r, rfl, reported_of_mem ((Table.get?_eq_some_iff _).1 defined)
      (List.mem_of_find?_eq_some stop) unresolved⟩

/-- Nothing is reported if the check finds nothing. -/
lemma not_reported (sound : c.check = []) (r : Reference) : ¬ c.Reported name r := by
  cases r with
  | machine n => simp [Reported, sound]
  | suite m n => simp [Reported, sound]

/-- Every name that an experiment of a sound configuration refers to is defined. -/
lemma resolves_of_sound (sound : c.check = []) (defined : c.experiments.get? name = some d)
    {r : Reference} (m : r ∈ d.references) : r.resolves c.machines c.suites = true := by
  by_contra unresolved
  exact not_reported sound r (reported_of_mem ((Table.get?_eq_some_iff _).1 defined) m
    (Bool.eq_false_iff.2 unresolved))

/-- No reference of an experiment of a sound configuration leads nowhere. -/
lemma firstDangling_of_sound (sound : c.check = []) (defined : c.experiments.get? name = some d) :
    Reference.firstDangling c.machines c.suites d.references = none := by
  apply List.find?_eq_none.2
  intro r m
  simp [resolves_of_sound sound defined m]

/-- Check and compilation agree on dangling references. With whatever filter, store and build table
an experiment of a configuration is compiled: if that stops at an unknown machine, the check finds
that the experiment refers to it; if it stops at an unknown suite, the check finds that the
experiment or one of its executions refers to it, and the message says so with both names. A
configuration without findings compiles. -/
theorem compile_checked (defined : c.experiments.get? name = some d) (ctx : Context) (s : Shared) :
    (∀ e n, (compile { ctx with machines := c.machines, suites := c.suites } name d s).1 =
        .error (.machine e n) → e = name ∧ Finding.unknownMachine name n ∈ c.check ∧
          "Experiment '" ++ name ++ "' refers to unknown virtual machine '" ++ n ++ "'." ∈
            c.check.map Finding.message) ∧
    (∀ e n, (compile { ctx with machines := c.machines, suites := c.suites } name d s).1 =
        .error (.suite e n) → e = name ∧
          (Finding.unknownSuite name n ∈ c.check ∧
              "Experiment '" ++ name ++ "' refers to unknown suite '" ++ n ++ "'." ∈
                c.check.map Finding.message ∨
            ∃ m, Finding.unknownSuiteOf name m n ∈ c.check ∧
              "Execution of '" ++ m ++ "' in experiment '" ++ name ++
                "' refers to unknown suite '" ++ n ++ "'." ∈ c.check.map Finding.message)) ∧
    (c.check = [] →
      ∃ x, (compile { ctx with machines := c.machines, suites := c.suites } name d s).1 =
        .ok x) := by
  refine ⟨?_, ?_, ?_⟩
  · intro e n h
    obtain ⟨r, same, reported⟩ := reported_of_compile defined ctx s h
    cases r with
    | machine _ =>
      cases same
      exact ⟨rfl, reported, List.mem_map_of_mem (f := Finding.message) reported⟩
    | suite _ _ => cases same
  · intro e n h
    obtain ⟨r, same, reported⟩ := reported_of_compile defined ctx s h
    cases r with
    | machine _ => cases same
    | suite _ _ =>
      cases same
      refine ⟨rfl, ?_⟩
      obtain found | ⟨m, found⟩ := reported
      · exact .inl ⟨found, List.mem_map_of_mem (f := Finding.message) found⟩
      · exact .inr ⟨m, found, List.mem_map_of_mem (f := Finding.message) found⟩
  · intro sound
    cases result : (compile { ctx with machines := c.machines, suites := c.suites } name d s).1 with
    | ok x => exact ⟨x, rfl⟩
    | error e =>
      obtain ⟨r, _, reported⟩ := reported_of_compile defined ctx s result
      exact absurd reported (not_reported sound r)

/-- A configuration in which one experiment names an unknown suite twice, for itself and for an
execution, and another one an unknown machine. -/
def demoDangling : Config :=
  { demoConfig with
    experiments := Table.ofList
      [("D", { demoExperiment with
          suites := ["Gone"]
          executions := [.detailed (Table.ofList [("V", ⟨some ["S", "Gone"]⟩)])] }),
        ("E", { demoExperiment with executions := [.machine "V", .machine "Lost"] })] }

/-- The suite that an execution and its experiment both name is reported once, for the experiment;
the unknown machine is reported as well, and the configuration with all names defined compiles. -/
theorem compile_checked_demo :
    (∃ d, demoDangling.experiments.get? "D" = some d ∧
      (compile { demoContext with machines := demoDangling.machines, suites := demoDangling.suites }
        "D" d demoShared).1 = .error (.suite "D" "Gone") ∧
      (Finding.unknownSuite "D" "Gone" ∈ demoDangling.check ∧
          "Experiment 'D' refers to unknown suite 'Gone'." ∈
            demoDangling.check.map Finding.message ∨
        ∃ m, Finding.unknownSuiteOf "D" m "Gone" ∈ demoDangling.check ∧
          "Execution of '" ++ m ++ "' in experiment '" ++ "D" ++ "' refers to unknown suite '" ++
            "Gone" ++ "'." ∈ demoDangling.check.map Finding.message)) ∧
    (∃ d, demoDangling.experiments.get? "E" = some d ∧
      (compile { demoContext with machines := demoDangling.machines, suites := demoDangling.suites }
        "E" d demoShared).1 = .error (.machine "E" "Lost") ∧
      Finding.unknownMachine "E" "Lost" ∈ demoDangling.check ∧
      "Experiment 'E' refers to unknown virtual machine 'Lost'." ∈
        demoDangling.check.map Finding.message) ∧
    (∃ d, demoConfig.experiments.get? "E" = some d ∧ demoConfig.check = [] ∧
      ∃ x, (compile
        { demoContext with machines := demoConfig.machines, suites := demoConfig.suites } "E" d
          demoShared).1 = .ok x) := by
  refine ⟨⟨_, rfl, rfl, ?_⟩, ⟨_, rfl, rfl, ?_⟩, ⟨_, rfl, rfl, ?_⟩⟩
  · exact ((@compile_checked demoDangling "D" _ rfl demoContext demoShared).2.1
      _ _ rfl).2
  · exact ((@compile_checked demoDangling "E" _ rfl demoContext demoShared).1
      _ _ rfl).2
  · exact (@compile_checked demoConfig "E" _ rfl demoContext demoShared).2.2 rfl

end Config

end BenchPlan
