import BenchPlan.Config.Check
import Mathlib.Tactic.ByContra

/-!
# What the check finds

What can be wrong with a configuration, said without the check: `Wrong` has one case for each kind
of finding, and `Sound` says that nothing is wrong, by the rules that a configuration follows. The
check finds all that is wrong in one pass and nothing else (`mem_check_iff`), part by part from
`mem_checkSuite`, `mem_checkExecution` and `mem_checkExperiment`. It passes over a suite of an
execution that the experiment names as well, but no such suite is lost: it is found for the
experiment (`check_complete`).
-/

namespace BenchPlan.Config

/-- What is wrong with a configuration. Of the suites that an execution names those are left out
that its experiment names too. -/
inductive Wrong (c : Config) : Finding → Prop where
  | noBenchmarks {n : String} {s : SuiteDef} (defined : (n, s) ∈ c.suites.entries)
      (blank : s.benchmarks = []) : Wrong c (.noBenchmarks n)
  | noExecutions {e : String} {d : ExperimentDef} (defined : (e, d) ∈ c.experiments.entries)
      (blank : d.executions = []) : Wrong c (.noExecutions e)
  | unknownSuite {e n : String} {d : ExperimentDef} (defined : (e, d) ∈ c.experiments.entries)
      (named : n ∈ d.suites) (unknown : n ∉ c.suites.keys) : Wrong c (.unknownSuite e n)
  | unknownMachine {e m : String} {own : Option (List String)} {d : ExperimentDef}
      (defined : (e, d) ∈ c.experiments.entries) (execution : (m, own) ∈ d.allExecutions)
      (unknown : m ∉ c.machines.keys) : Wrong c (.unknownMachine e m)
  | noSuites {e m : String} {own : Option (List String)} {d : ExperimentDef}
      (defined : (e, d) ∈ c.experiments.entries) (execution : (m, own) ∈ d.allExecutions)
      (blank : own.getD d.suites = []) : Wrong c (.noSuites e m)
  | unknownSuiteOf {e m n : String} {ns : List String} {d : ExperimentDef}
      (defined : (e, d) ∈ c.experiments.entries) (execution : (m, some ns) ∈ d.allExecutions)
      (named : n ∈ ns) (unknown : n ∉ c.suites.keys) (other : n ∉ d.suites) :
      Wrong c (.unknownSuiteOf e m n)

/-- A suite that an experiment names for all its executions or one of them for itself. -/
def Names (d : ExperimentDef) (n : String) : Prop :=
  n ∈ d.suites ∨ ∃ m ns, (m, some ns) ∈ d.allExecutions ∧ n ∈ ns

/-- The rules that a configuration follows. -/
structure Sound (c : Config) : Prop where
  benchmarks : ∀ n s, (n, s) ∈ c.suites.entries → s.benchmarks ≠ []
  executions : ∀ e d, (e, d) ∈ c.experiments.entries → d.executions ≠ []
  machines : ∀ e d, (e, d) ∈ c.experiments.entries →
    ∀ m own, (m, own) ∈ d.allExecutions → m ∈ c.machines.keys
  inEffect : ∀ e d, (e, d) ∈ c.experiments.entries →
    ∀ m own, (m, own) ∈ d.allExecutions → own.getD d.suites ≠ []
  suites : ∀ e d, (e, d) ∈ c.experiments.entries → ∀ n, Names d n → n ∈ c.suites.keys

variable {c : Config} {name machine : String} {d : ExperimentDef} {own : Option (List String)}
  {f : Finding}

/-- A table does not contain what is none of its keys. -/
lemma contains_eq_false {α : Type} {t : Table α} {n : String} :
    t.contains n = false ↔ n ∉ t.keys := by
  rw [← Bool.not_eq_true, Table.contains_eq_true]

/-- A suite that is in effect for an execution is named. -/
lemma names_of_mem {n : String} (execution : (machine, own) ∈ d.allExecutions)
    (named : n ∈ own.getD d.suites) : Names d n := by
  cases own with
  | none => exact .inl named
  | some ns => exact .inr ⟨machine, ns, execution, named⟩

/-- Nothing is found in a suite but that its list is empty. -/
lemma mem_checkSuite {s : SuiteDef} :
    f ∈ checkSuite name s ↔ s.benchmarks = [] ∧ f = .noBenchmarks name := by
  rw [checkSuite, List.mem_ite_nil_right, List.isEmpty_iff, List.mem_singleton]

/-- What is found in an execution: that its machine is unknown, that it has no suites, and which of
its suites are unknown that its experiment does not name. -/
lemma mem_checkExecution :
    f ∈ c.checkExecution name d machine own ↔
      machine ∉ c.machines.keys ∧ f = .unknownMachine name machine ∨
      own.getD d.suites = [] ∧ f = .noSuites name machine ∨
      ∃ n ∈ own.getD d.suites, n ∉ c.suites.keys ∧ n ∉ d.suites ∧
        f = .unknownSuiteOf name machine n := by
  simp only [checkExecution, List.mem_append, List.mem_ite_nil_left, List.mem_ite_nil_right,
    List.mem_singleton, List.isEmpty_iff, Table.contains_eq_true, or_assoc]
  apply or_congr_right
  apply or_congr_right
  simp only [List.mem_map, List.mem_filter, Bool.and_eq_true, Bool.not_eq_true', contains_eq_false,
    List.contains_eq_mem, decide_eq_false_iff_not]
  constructor
  · rintro ⟨n, ⟨named, unknown, other⟩, rfl⟩
    exact ⟨n, named, unknown, other, rfl⟩
  · rintro ⟨n, named, unknown, other, rfl⟩
    exact ⟨n, ⟨named, unknown, other⟩, rfl⟩

/-- What is found in an experiment: that it has no executions, which of the suites that it names are
unknown, and what is found in its executions. -/
lemma mem_checkExperiment :
    f ∈ c.checkExperiment name d ↔
      d.executions = [] ∧ f = .noExecutions name ∨
      (∃ n ∈ d.suites, n ∉ c.suites.keys ∧ f = .unknownSuite name n) ∨
      ∃ m own, (m, own) ∈ d.allExecutions ∧ f ∈ c.checkExecution name d m own := by
  simp only [checkExperiment, List.mem_append, List.mem_ite_nil_right, List.mem_singleton,
    List.isEmpty_iff, List.mem_flatMap, Prod.exists, or_assoc]
  apply or_congr_right
  apply or_congr_left
  simp only [List.mem_map, List.mem_filter, Bool.not_eq_true', contains_eq_false]
  constructor
  · rintro ⟨n, ⟨named, unknown⟩, rfl⟩
    exact ⟨n, named, unknown, rfl⟩
  · rintro ⟨n, named, unknown, rfl⟩
    exact ⟨n, ⟨named, unknown⟩, rfl⟩

/-- What is found in a configuration is found in a suite or in an experiment. -/
lemma mem_check :
    f ∈ c.check ↔
      (∃ n s, (n, s) ∈ c.suites.entries ∧ f ∈ checkSuite n s) ∨
      ∃ e d, (e, d) ∈ c.experiments.entries ∧ f ∈ c.checkExperiment e d := by
  simp only [check, List.mem_append, List.mem_flatMap, Prod.exists]

/-- The check finds what is wrong. -/
lemma mem_check_iff : f ∈ c.check ↔ c.Wrong f := by
  rw [mem_check]
  simp only [mem_checkSuite, mem_checkExperiment, mem_checkExecution]
  constructor
  · rintro (⟨n, s, defined, blank, rfl⟩ | ⟨e, d, defined, found⟩)
    · exact .noBenchmarks defined blank
    · obtain ⟨blank, rfl⟩ | ⟨n, named, unknown, rfl⟩ | ⟨m, own, execution, found⟩ := found
      · exact .noExecutions defined blank
      · exact .unknownSuite defined named unknown
      · obtain ⟨unknown, rfl⟩ | ⟨blank, rfl⟩ | ⟨n, named, unknown, other, rfl⟩ := found
        · exact .unknownMachine defined execution unknown
        · exact .noSuites defined execution blank
        · cases own with
          | none => exact absurd named other
          | some ns => exact .unknownSuiteOf defined execution named unknown other
  · intro wrong
    cases wrong with
    | noBenchmarks defined blank => exact .inl ⟨_, _, defined, blank, rfl⟩
    | noExecutions defined blank => exact .inr ⟨_, _, defined, .inl ⟨blank, rfl⟩⟩
    | unknownSuite defined named unknown =>
      exact .inr ⟨_, _, defined, .inr (.inl ⟨_, named, unknown, rfl⟩)⟩
    | unknownMachine defined execution unknown =>
      exact .inr ⟨_, _, defined, .inr (.inr ⟨_, _, execution, .inl ⟨unknown, rfl⟩⟩)⟩
    | noSuites defined execution blank =>
      exact .inr ⟨_, _, defined, .inr (.inr ⟨_, _, execution, .inr (.inl ⟨blank, rfl⟩)⟩)⟩
    | unknownSuiteOf defined execution named unknown other =>
      exact .inr ⟨_, _, defined, .inr (.inr ⟨_, _, execution,
        .inr (.inr ⟨_, named, unknown, other, rfl⟩)⟩)⟩

/-- An unknown suite that an experiment names is found, for itself or for one of its executions. -/
lemma unknownSuite_iff {n : String} :
    (.unknownSuite name n ∈ c.check ∨ ∃ m, .unknownSuiteOf name m n ∈ c.check) ↔
      ∃ d, (name, d) ∈ c.experiments.entries ∧ Names d n ∧ n ∉ c.suites.keys := by
  simp only [mem_check_iff]
  constructor
  · rintro (wrong | ⟨m, wrong⟩)
    · cases wrong with
      | unknownSuite defined named unknown => exact ⟨_, defined, .inl named, unknown⟩
    · cases wrong with
      | unknownSuiteOf defined execution named unknown _ =>
        exact ⟨_, defined, .inr ⟨_, _, execution, named⟩, unknown⟩
  · rintro ⟨d, defined, named | ⟨m, ns, execution, named⟩, unknown⟩
    · exact .inl (.unknownSuite defined named unknown)
    · -- the execution keeps quiet about a suite that the experiment names itself
      by_cases other : n ∈ d.suites
      · exact .inl (.unknownSuite defined other unknown)
      · exact .inr ⟨m, .unknownSuiteOf defined execution named unknown other⟩

/-- Nothing is wrong exactly with a configuration that follows the rules. -/
lemma not_wrong_iff : (∀ f, ¬ c.Wrong f) ↔ c.Sound := by
  constructor
  · intro right
    refine ⟨?_, ?_, ?_, ?_, ?_⟩
    · intro n s defined blank
      exact right _ (.noBenchmarks defined blank)
    · intro e d defined blank
      exact right _ (.noExecutions defined blank)
    · intro e d defined m own execution
      by_contra unknown
      exact right _ (.unknownMachine defined execution unknown)
    · intro e d defined m own execution blank
      exact right _ (.noSuites defined execution blank)
    · intro e d defined n named
      by_contra unknown
      obtain found | ⟨m, found⟩ := unknownSuite_iff.2 ⟨d, defined, named, unknown⟩
      · exact right _ (mem_check_iff.1 found)
      · exact right _ (mem_check_iff.1 found)
  · intro sound f wrong
    cases wrong with
    | noBenchmarks defined blank => exact sound.benchmarks _ _ defined blank
    | noExecutions defined blank => exact sound.executions _ _ defined blank
    | unknownSuite defined named unknown => exact unknown (sound.suites _ _ defined _ (.inl named))
    | unknownMachine defined execution unknown =>
      exact unknown (sound.machines _ _ defined _ _ execution)
    | noSuites defined execution blank => exact sound.inEffect _ _ defined _ _ execution blank
    | unknownSuiteOf defined execution named unknown _ =>
      exact unknown (sound.suites _ _ defined _ (.inr ⟨_, _, execution, named⟩))

/-- Nothing is found exactly in a configuration that follows the rules. -/
lemma check_eq_nil_iff : c.check = [] ↔ c.Sound := by
  rw [List.eq_nil_iff_forall_not_mem, ← not_wrong_iff]
  simp only [mem_check_iff]

/-- The messages are those about what is wrong, in the words for its kind. -/
lemma mem_messages_iff {t : String} :
    t ∈ c.check.map Finding.message ↔
      (∃ n, c.Wrong (.noBenchmarks n) ∧ t = "Suite '" ++ n ++ "' defines no benchmarks.") ∨
      (∃ e, c.Wrong (.noExecutions e) ∧ t = "Experiment '" ++ e ++ "' defines no executions.") ∨
      (∃ e n, c.Wrong (.unknownSuite e n) ∧
        t = "Experiment '" ++ e ++ "' refers to unknown suite '" ++ n ++ "'.") ∨
      (∃ e m, c.Wrong (.unknownMachine e m) ∧
        t = "Experiment '" ++ e ++ "' refers to unknown virtual machine '" ++ m ++ "'.") ∨
      (∃ e m, c.Wrong (.noSuites e m) ∧
        t = "Execution of '" ++ m ++ "' in experiment '" ++ e ++ "' has no suites.") ∨
      ∃ e m n, c.Wrong (.unknownSuiteOf e m n) ∧
        t = "Execution of '" ++ m ++ "' in experiment '" ++ e ++ "' refers to unknown suite '" ++
          n ++ "'." := by
  simp only [List.mem_map, mem_check_iff]
  constructor
  · rintro ⟨f, wrong, rfl⟩
    cases f with
    | noBenchmarks n => exact .inl ⟨n, wrong, rfl⟩
    | noExecutions e => exact .inr (.inl ⟨e, wrong, rfl⟩)
    | unknownSuite e n => exact .inr (.inr (.inl ⟨e, n, wrong, rfl⟩))
    | unknownMachine e m => exact .inr (.inr (.inr (.inl ⟨e, m, wrong, rfl⟩)))
    | noSuites e m => exact .inr (.inr (.inr (.inr (.inl ⟨e, m, wrong, rfl⟩))))
    | unknownSuiteOf e m n => exact .inr (.inr (.inr (.inr (.inr ⟨e, m, n, wrong, rfl⟩))))
  · rintro (⟨n, wrong, rfl⟩ | ⟨e, wrong, rfl⟩ | ⟨e, n, wrong, rfl⟩ | ⟨e, m, wrong, rfl⟩ |
      ⟨e, m, wrong, rfl⟩ | ⟨e, m, n, wrong, rfl⟩)
    · exact ⟨_, wrong, rfl⟩
    · exact ⟨_, wrong, rfl⟩
    · exact ⟨_, wrong, rfl⟩
    · exact ⟨_, wrong, rfl⟩
    · exact ⟨_, wrong, rfl⟩
    · exact ⟨_, wrong, rfl⟩

/-- A configuration in which something is wrong of every kind. -/
def demoUnsound : Config where
  runs := none
  standardDataFile := none
  standardExperiment := none
  buildLogFile := none
  reporting := Table.empty
  suites := Table.ofList
    [("S", ⟨"g", "c", none, none, [.name "A"]⟩), ("T", ⟨"g", "c", none, none, []⟩)]
  machines := Table.ofList [("V", ⟨none, "b", none, none⟩)]
  experiments := Table.ofList
    [("D", ⟨none, none, none, ["Gone"],
        [.detailed (Table.ofList [("V", ⟨some ["S", "Gone", "Away"]⟩), ("Lost", ⟨some []⟩)])]⟩),
      ("E", ⟨none, none, none, ["S"], []⟩)]

end BenchPlan.Config
