import BenchPlan.Proofs.Reordering
import BenchPlan.Proofs.Selection
import BenchPlan.Proofs.Sorting

/-!
# The rows of a plan

A row shows what runs that agree have in common. So the rows of a compiled experiment are those of
its definition, one for the first admitted slot of each key, although its runs may have been
registered by other experiments (`rows_of_compile`), and the rows of a plan depend on the names of
its experiments and on what these look up. With the tables of the configuration in another order
the listing is the same (`ofPlan_reordered`).
-/

namespace BenchPlan

open Experiment Slot

namespace ListingRow

/-- The row of a run that the experiment with a name lists: the values of the run itself, and the
data file of this experiment, or else the one that stands in for the standard one, or else that. -/
def ofMember (c : Config) (dataFile : Option String) (name : String) (r : Run) : ListingRow where
  experiment := name
  machine := r.benchmark.machine.name
  suite := r.benchmark.suite.name
  benchmark := r.benchmark.name
  extraArgs := r.benchmark.extraArgs
  invocations := r.settings.invocations
  iterations := r.settings.iterations
  dataFile := ((c.experiments.get? name).bind (·.dataFile)).or (dataFile.or c.standardDataFile)
  cmdline := r.cmdline

/-- The rows of the experiment with a name, if there is one, by its definition. -/
def ofName (ctx : Context) (c : Config) (dataFile : Option String) (name : String) :
    List ListingRow :=
  (c.experiments.get? name).elim [] fun d =>
    (firsts (key (settingsOf ctx d)) (admitted ctx.filter (d.slots ctx.machines ctx.suites))).map
      fun l => ofMember c dataFile name (l.run (BuildTable.empty 0) (settingsOf ctx d))

variable {ctx : Context} {c : Config} {dataFile : Option String} {name other : String}

/-- Runs that agree have the same row. -/
lemma ofMember_congr {r r' : Run} (h : r.Agrees r') :
    ofMember c dataFile name r = ofMember c dataFile name r' := by
  rw [ofMember, h.machine.name, h.suite.name, h.name, h.extraArgs, h.settings, h.cmdline]
  rfl

/-- The rows of an experiment have its name. -/
lemma experiment_of_mem {r : ListingRow} (m : r ∈ ofName ctx c dataFile name) :
    r.experiment = name := by
  rw [ofName] at m
  cases defined : c.experiments.get? name with
  | none =>
    rw [defined] at m
    cases m
  | some d =>
    rw [defined] at m
    obtain ⟨l, _, rfl⟩ := List.mem_map.1 m
    rfl

/-- Rows of one key are of one experiment only. -/
lemma filter_eq_nil (ne : other ≠ name) (k : List String) :
    (ofName ctx c dataFile other).filter (fun r => r.sortKey = name :: k) = [] := by
  rw [List.filter_eq_nil_iff]
  intro r m same
  have e : r.sortKey = name :: k := by simpa using same
  exact ne ((experiment_of_mem m).symm.trans (List.cons.inj e).1)

/-- Rows of one key are of one of two experiments at most. -/
lemma filter_eq_nil_or (ne : name ≠ other) (k : List String) :
    (ofName ctx c dataFile name).filter (fun r => r.sortKey = k) = [] ∨
      (ofName ctx c dataFile other).filter (fun r => r.sortKey = k) = [] := by
  cases k with
  | nil => exact .inl (List.filter_eq_nil_iff.2 fun r _ e => by simp [sortKey] at e)
  | cons n k =>
    by_cases e : name = n
    · exact .inr (filter_eq_nil (fun e' => ne (e.trans e'.symm)) k)
    · exact .inl (filter_eq_nil e k)

end ListingRow

namespace Experiment

variable {ctx : Context} {name : String} {d : ExperimentDef} {s : Shared} {x : Experiment}

/-- The rows of a compiled experiment are those of its definition. -/
lemma rows_of_compile (sourced : Sourced ctx s) (h : (compile ctx name d s).1 = .ok x) {c : Config}
    (defined : c.experiments.get? name = some d) (dataFile : Option String) :
    (x.runs.map fun o => ListingRow.ofMember c dataFile name o.run) =
      ListingRow.ofName ctx c dataFile name := by
  have listed := (List.forall₂_and_left _ _).2 ⟨fun l m => m, compile_represents h (.refl _)⟩
  rw [ListingRow.ofName, defined, Option.elim_some, ← List.forall₂_eq_eq_eq,
    List.forall₂_map_left_iff, List.forall₂_map_right_iff]
  refine listed.flip.imp ?_
  rintro o l ⟨first, represents⟩
  rw [run_of_held sourced first represents.held]
  exact ListingRow.ofMember_congr (l.run_agrees _ _ _)

end Experiment

namespace Plan

variable {owner : Nat} {c c' : Config} {request : PlanRequest} {probe probe' : Probe}
  {p p' : Plan} {name : String} {x : Experiment}

/-- The rows of an experiment have the values of its runs and its own data file. -/
lemma ofExperiment_eq (made : (ofConfig owner c request probe .empty).result = .ok p)
    (m : (name, x) ∈ p.experiments.entries) :
    ListingRow.ofExperiment x =
      x.runs.map fun o => ListingRow.ofMember c request.dataFile name o.run := by
  obtain ⟨d, s, defined, _, compiled, _⟩ :=
    compiled_of_ofConfig made ((Table.get?_eq_some_iff _).2 m)
  rw [ofWalk_of_compile compiled]
  apply List.map_congr_left
  intro o _
  rw [ListingRow.ofMember, defined]
  rfl

/-- The rows of an experiment of a plan are those of its definition. -/
lemma ofExperiment_eq_ofName (made : (ofConfig owner c request probe .empty).result = .ok p)
    (m : (name, x) ∈ p.experiments.entries) :
    ListingRow.ofExperiment x =
      ListingRow.ofName (requestContext c request probe p.filter) c request.dataFile name := by
  obtain ⟨d, s, defined, sourced, compiled, _⟩ :=
    compiled_of_ofConfig made ((Table.get?_eq_some_iff _).2 m)
  rw [ofExperiment_eq made m]
  exact rows_of_compile sourced compiled defined request.dataFile

/-- The rows of a plan are those of the definitions of its experiments. -/
lemma rows_of_ofConfig (made : (ofConfig owner c request probe .empty).result = .ok p) :
    p.experiments.values.flatMap ListingRow.ofExperiment =
      p.experiments.keys.flatMap
        (ListingRow.ofName (requestContext c request probe p.filter) c request.dataFile) := by
  rw [Table.values, Table.keys, List.flatMap_map, List.flatMap_map]
  exact List.flatMap_congr fun e m => ofExperiment_eq_ofName made m

/-- The listing has a row for each run of each experiment. -/
lemma ofPlan_perm (made : (ofConfig owner c request probe .empty).result = .ok p) :
    (ListingRow.ofPlan p).Perm (p.experiments.entries.flatMap fun e =>
      e.2.runs.map fun o => ListingRow.ofMember c request.dataFile e.1 o.run) := by
  have rows : p.experiments.values.flatMap ListingRow.ofExperiment =
      p.experiments.entries.flatMap fun e =>
        e.2.runs.map fun o => ListingRow.ofMember c request.dataFile e.1 o.run := by
    rw [Table.values, List.flatMap_map]
    exact List.flatMap_congr fun e m => ofExperiment_eq made m
  rw [← rows]
  exact List.mergeSort_perm _ _

/-- No row of the listing stands before one of a lesser key. -/
lemma ofPlan_sorted (p : Plan) :
    (ListingRow.ofPlan p).Pairwise fun r s => ¬ s.sortKey < r.sortKey := by
  have sorted :=
    List.pairwise_mergeSort ListingRow.comparesBy.trans ListingRow.comparesBy.total
      (p.experiments.values.flatMap ListingRow.ofExperiment)
  refine sorted.imp ?_
  intro r s before
  simpa [ListingRow.le] using before

/-- In the listing the rows of one key are those of their experiment, as they come there. -/
lemma filter_ofPlan (made : (ofConfig owner c request probe .empty).result = .ok p)
    (m : (name, x) ∈ p.experiments.entries) (k : List String) :
    (ListingRow.ofPlan p).filter (fun r => r.sortKey = name :: k) =
      (ListingRow.ofExperiment x).filter fun r => r.sortKey = name :: k := by
  rw [ListingRow.ofPlan, ListingRow.comparesBy.filter_mergeSort, rows_of_ofConfig made,
    ofExperiment_eq_ofName made m]
  exact filter_flatMap_of_mem (fun _ ne => ListingRow.filter_eq_nil ne k) p.experiments.nodup
    (List.mem_map_of_mem m)

/-- The rows of the definitions do not depend on the order of the tables. -/
lemma ofName_reordered (h : c.Reordered c') (request : PlanRequest) (probe probe' : Probe)
    (filter : Filter) :
    ListingRow.ofName (requestContext c request probe filter) c request.dataFile =
      ListingRow.ofName (requestContext c' request probe' filter) c' request.dataFile := by
  funext name
  rw [ListingRow.ofName, ListingRow.ofName, Table.get?_eq_of_perm h.experiments]
  congr 1
  funext d
  have settings : settingsOf (requestContext c request probe filter) d =
      settingsOf (requestContext c' request probe' filter) d := by
    simp only [settingsOf, requestContext, context, withDataFile, h.runs]
  have row : ListingRow.ofMember c request.dataFile name =
      ListingRow.ofMember c' request.dataFile name := by
    funext r
    rw [ListingRow.ofMember, ListingRow.ofMember, Table.get?_eq_of_perm h.experiments,
      h.standardDataFile]
  rw [settings, row]
  exact congrArg (fun ls => (firsts _ (admitted filter ls)).map _) (h.slots d)

/-- The listing is the same with the tables in another order. -/
lemma ofPlan_reordered (h : c.Reordered c')
    (made : (ofConfig owner c request probe .empty).result = .ok p)
    (made' : (ofConfig owner c' request probe' .empty).result = .ok p')
    (keys : p.experiments.keys.Perm p'.experiments.keys) :
    ListingRow.ofPlan p = ListingRow.ofPlan p' := by
  obtain ⟨_, _, parsed, _⟩ := inTurn_of_ofConfig made
  obtain ⟨_, _, parsed', _⟩ := inTurn_of_ofConfig made'
  rw [ListingRow.ofPlan, ListingRow.ofPlan, rows_of_ofConfig made, rows_of_ofConfig made',
    ← Except.ok.inj (parsed.symm.trans parsed'), ← ofName_reordered h request probe probe']
  apply ListingRow.comparesBy.mergeSort_congr
  intro k
  exact filter_flatMap_of_perm (fun _ _ ne => ListingRow.filter_eq_nil_or ne k) keys

end Plan

end BenchPlan
