import BenchPlan.Proofs.Outcome

/-!
# The order of tables

Suites, machines and experiments are looked up by their names, so the order in which a document
defines them matters little. Configurations that differ in it alone (`Config.Reordered`) have the
same findings in another order, the same slots in the same order, and the same requests come to a
plan (`Decided.reordered`).
-/

namespace BenchPlan

namespace Table

variable {α : Type} {t t' : Table α}

/-- The order of the entries does not matter to a search for a name. -/
lemma get?_eq_of_perm (h : t.entries.Perm t'.entries) : t.get? = t'.get? := by
  funext name
  apply Option.ext
  intro value
  rw [get?_eq_some_iff, get?_eq_some_iff, h.mem_iff]

/-- Tables with the same entries contain the same names. -/
lemma contains_eq_of_perm (h : t.entries.Perm t'.entries) : t.contains = t'.contains := by
  funext name
  rw [contains, contains, get?_eq_of_perm h]

end Table

/-- Configurations that differ at most in the order of the entries of their tables of suites,
machines and experiments. -/
structure Config.Reordered (c c' : Config) : Prop where
  runs : c.runs = c'.runs
  standardDataFile : c.standardDataFile = c'.standardDataFile
  standardExperiment : c.standardExperiment = c'.standardExperiment
  buildLogFile : c.buildLogFile = c'.buildLogFile
  reporting : c.reporting = c'.reporting
  suites : c.suites.entries.Perm c'.suites.entries
  machines : c.machines.entries.Perm c'.machines.entries
  experiments : c.experiments.entries.Perm c'.experiments.entries

namespace Config.Reordered

variable {c c' : Config}

/-- Reordered configurations define the same experiments. -/
lemma keys (h : c.Reordered c') : c.experiments.keys.Perm c'.experiments.keys :=
  h.experiments.map Prod.fst

/-- What is wrong with an experiment stays wrong. -/
lemma checkExperiment (h : c.Reordered c') : c.checkExperiment = c'.checkExperiment := by
  funext name d
  simp only [Config.checkExperiment, Config.checkExecution, Table.contains_eq_of_perm h.suites,
    Table.contains_eq_of_perm h.machines]

/-- The same is wrong with both, in another order. -/
lemma check (h : c.Reordered c') : c.check.Perm c'.check := by
  rw [Config.check, Config.check, h.checkExperiment]
  exact (h.suites.flatMap_right _).append (h.experiments.flatMap_right _)

/-- The slots of an experiment are the same, also in their order. -/
lemma slots (h : c.Reordered c') (d : ExperimentDef) :
    d.slots c.machines c.suites = d.slots c'.machines c'.suites := by
  have suite : suiteSlots c.machines c.suites = suiteSlots c'.machines c'.suites := by
    funext machine suite
    rw [suiteSlots, suiteSlots, Table.get?_eq_of_perm h.machines, Table.get?_eq_of_perm h.suites]
  rw [ExperimentDef.slots, ExperimentDef.slots, suite]

end Config.Reordered

namespace Plan

variable {c c' : Config} {file file' : FileContent} {request : PlanRequest} {n : String}

/-- The name that is chosen does not depend on the order of the tables. -/
lemma Chosen.reordered {requested : Option String} (h : Chosen c requested n)
    (same : c.Reordered c') : Chosen c' requested n := by
  cases h with
  | given nonempty => exact .given nonempty
  | standard nothing standard nonempty =>
    exact .standard nothing (same.standardExperiment ▸ standard) nonempty

/-- What comes to a plan does so with the tables in another order. -/
lemma Decided.reordered (h : Decided file request (.ok (c, n))) (reads : Reads file' c')
    (same : c.Reordered c') : Decided file' request (.ok (c', n)) := by
  cases h with
  | planned _ sound formed chosen known =>
    have sound' : c'.check = [] := (sound ▸ same.check).nil_eq.symm
    exact .planned reads sound' formed (chosen.reordered same) (known.imp_right same.keys.mem_iff.1)

end Plan

end BenchPlan
