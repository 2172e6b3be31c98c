import BenchPlan.Proofs.Sharing
import Mathlib.Algebra.Ring.Nat
import Mathlib.Data.List.Pairwise

/-!
# Run sets and the store

A plan knows its runs three times over: each experiment has a list of them, the plan has the set of
all, and the store holds what is handed out. They account for each other. Compiling an experiment
adds to the objects of the store those that it lists and no other (`mem_objects_compile`), so that
experiments compiled in turn add what they list together (`InTurn.mem_objects`). The set of a plan
keeps one object of each key, and since all objects of a plan are held by one store, this drops none
(`mem_runs`). How the numbers compare is said in `ofConfig_accounted`.
-/

namespace BenchPlan

open Experiment

/-- No object of a store comes twice. -/
lemma RunStore.nodup_objects (s : RunStore) : s.objects.Nodup := by
  have positions : s.objects.map SharedRun.position = List.range s.objects.length := by
    apply List.ext_getElem
    · simp
    · intro i _ _
      simp [objects]
  exact .of_map SharedRun.position (positions ▸ List.nodup_range)

namespace Experiment

variable {ctx : Context} {name : String} {d : ExperimentDef} {s t : Shared} {x : Experiment}
  {o : SharedRun}

/-- The objects after an experiment is compiled are those before and those that it lists. -/
lemma mem_objects_compile (h : (compile ctx name d s).1 = .ok x) :
    o ∈ (compile ctx name d s).2.store.objects ↔ o ∈ s.store.objects ∨ o ∈ x.runs := by
  have store := compile_store ctx name d s (.refl _)
  rw [met, Reference.settled_eq (resolved_of_compile h), ← ExperimentDef.slots_eq] at store
  rw [store, runs_of_compile h (.refl _), RunStore.mem_objects_registerAll, mem_firsts_iff_mem]
  -- what is handed out for a key is what the store holds for it
  intro o m o' m' e
  have held := RunStore.find?_of_mem_registerAll m
  have held' := RunStore.find?_of_mem_registerAll m'
  rw [e, held'] at held
  exact (Option.some.inj held).symm

/-- The objects after experiments are compiled in turn are those before and those that they list. -/
lemma InTurn.mem_objects {defs : List (String × ExperimentDef)} {xs : List (String × Experiment)}
    (h : InTurn ctx s defs xs t) :
    o ∈ t.store.objects ↔ o ∈ s.store.objects ∨ ∃ e ∈ xs, o ∈ e.2.runs := by
  induction h with
  | nil => simp
  | @cons s s' t name d x defs xs first _ ih =>
    have step := mem_objects_compile (o := o) (congrArg Prod.fst first)
    rw [first] at step
    rw [ih, step, List.exists_mem_cons_iff, or_assoc]

end Experiment

namespace Plan

variable {owner : Nat} {config : Config} {request : PlanRequest} {probe : Probe}
  {store : RunStore} {p : Plan} {name : String} {x : Experiment} {o : SharedRun}

/-- The runs that an experiment of a plan lists have different keys. -/
lemma pairwise_of_ofConfig (made : (ofConfig owner config request probe store).result = .ok p)
    (compiled : p.experiment? name = some x) :
    x.runs.Pairwise fun o o' => o.run.key ≠ o'.run.key := by
  obtain ⟨_, _, _, _, inTurn, _⟩ := inTurn_of_ofConfig made
  obtain ⟨d, s, _, _, compiled, _⟩ := inTurn.mem (P := fun _ => True) (fun _ _ _ h => h) trivial
    ((Table.get?_eq_some_iff _).1 compiled)
  refine (compile_pairwise compiled).imp ?_
  intro o o' other
  simpa [Run.same] using other

/-- The set of the runs of an experiment has what the experiment lists. -/
lemma runSet_of_ofConfig (made : (ofConfig owner config request probe store).result = .ok p)
    (compiled : p.experiment? name = some x) : x.runSet = x.runs := by
  rw [runSet, Walk.foldl_list_nil]
  exact firsts_eq_self.2 (pairwise_of_ofConfig made compiled)

/-- All that the experiments of a plan list, one experiment after the other. -/
def listed (p : Plan) : List SharedRun := p.experiments.entries.flatMap fun e => e.2.runs

/-- What a plan lists is what its experiments list. -/
lemma mem_listed :
    o ∈ p.listed ↔ ∃ name x, p.experiment? name = some x ∧ o ∈ x.runs := by
  rw [listed, List.mem_flatMap]
  constructor
  · rintro ⟨⟨name, x⟩, compiled, m⟩
    exact ⟨name, x, (Table.get?_eq_some_iff _).2 compiled, m⟩
  · rintro ⟨name, x, compiled, m⟩
    exact ⟨(name, x), (Table.get?_eq_some_iff _).1 compiled, m⟩

/-- In a plan a key has one object. -/
lemma eq_of_listed (made : (ofConfig owner config request probe store).result = .ok p)
    {o' : SharedRun} (m : o ∈ p.listed) (m' : o' ∈ p.listed) (e : o.run.key = o'.run.key) :
    o = o' := by
  obtain ⟨_, _, compiled, m⟩ := mem_listed.1 m
  obtain ⟨_, _, compiled', m'⟩ := mem_listed.1 m'
  have held := find?_of_ofConfig made compiled m
  rw [e, find?_of_ofConfig made compiled' m'] at held
  exact (Option.some.inj held).symm

/-- The set of the runs of a plan keeps the first object of each key that is listed. -/
lemma runs_of_ofConfig (made : (ofConfig owner config request probe store).result = .ok p) :
    p.runs = firsts (fun o => o.run.key) p.listed := by
  have sets : p.experiments.values.flatMap runSet = p.listed := by
    rw [listed, Table.values, List.flatMap_map]
    apply List.flatMap_congr
    rintro ⟨name, x⟩ compiled
    exact runSet_of_ofConfig made ((Table.get?_eq_some_iff _).2 compiled)
  rw [runs, sets, Walk.foldl_list_nil]

/-- The set of the runs of a plan has what its experiments list. -/
lemma mem_runs (made : (ofConfig owner config request probe store).result = .ok p) :
    o ∈ p.runs ↔ ∃ name x, p.experiment? name = some x ∧ o ∈ x.runs := by
  rw [runs_of_ofConfig made, mem_firsts_iff_mem, mem_listed]
  exact fun o m o' m' e => eq_of_listed made m m' e

/-- No key is listed twice exactly if no two experiments share a run. -/
lemma pairwise_listed (made : (ofConfig owner config request probe store).result = .ok p) :
    (p.listed.Pairwise fun o o' => o.run.key ≠ o'.run.key) ↔
      ∀ name name' x x', p.experiment? name = some x → p.experiment? name' = some x' →
        name ≠ name' → ∀ o ∈ x.runs, o ∉ x'.runs := by
  rw [listed, List.pairwise_flatMap]
  constructor
  · rintro ⟨_, apart⟩ name name' x x' compiled compiled' other o m m'
    have different : (name, x) ≠ (name', x') := fun e => other (congrArg Prod.fst e)
    have symm : Std.Symm fun e e' : String × Experiment =>
        ∀ o ∈ e.2.runs, ∀ o' ∈ e'.2.runs, o.run.key ≠ o'.run.key :=
      ⟨fun _ _ h o m o' m' e => h o' m' o m e.symm⟩
    exact apart.forall ((Table.get?_eq_some_iff _).1 compiled)
      ((Table.get?_eq_some_iff _).1 compiled') different o m o m' rfl
  · intro apart
    have names : p.experiments.entries.Pairwise fun e e' => e.1 ≠ e'.1 :=
      List.pairwise_map.1 p.experiments.nodup
    constructor
    · rintro ⟨name, x⟩ compiled
      exact pairwise_of_ofConfig made ((Table.get?_eq_some_iff _).2 compiled)
    · refine names.imp_of_mem ?_
      rintro ⟨name, x⟩ ⟨name', x'⟩ compiled compiled' other o m o' m' e
      have same : o = o' := eq_of_listed made (List.mem_flatMap.2 ⟨_, compiled, m⟩)
        (List.mem_flatMap.2 ⟨_, compiled', m'⟩) e
      exact apart name name' x x' ((Table.get?_eq_some_iff _).2 compiled)
        ((Table.get?_eq_some_iff _).2 compiled') other o m (same ▸ m')

/-- The number of runs that a plan lists is the sum over its experiments. -/
lemma length_listed (p : Plan) :
    p.listed.length = (p.experiments.values.map fun x => x.runs.length).sum := by
  rw [listed, List.length_flatMap, Table.values, List.map_map]
  rfl

/-- The objects after a request that succeeds are those before and those of the plan. -/
lemma mem_objects_ofConfig (made : (ofConfig owner config request probe store).result = .ok p) :
    o ∈ (ofConfig owner config request probe store).store.objects ↔
      o ∈ store.objects ∨ o ∈ p.runs := by
  obtain ⟨_, s, _, _, inTurn, _, same, _⟩ := finished_of_ofConfig made
  rw [same, inTurn.mem_objects, runs_of_ofConfig made,
    mem_firsts_iff_mem fun o m o' m' e => eq_of_listed made m m' e, listed, List.mem_flatMap]
  rfl

/-- Run sets and the store account for each other. The set of the runs of a plan has no two equal
runs, and has exactly what its experiments list; the set of one experiment has as many runs as the
experiment lists. The objects of the store are those that it had before and those of the plan. There
are at most as many runs in the plan as its experiments list together, and as many exactly if no two
of them share a run. If the store was empty before, it has as many runs as the plan. -/
theorem ofConfig_accounted (made : (ofConfig owner config request probe store).result = .ok p) :
    (p.runs.Pairwise fun o o' => ¬ o.run.Alike o'.run) ∧
    (∀ o, o ∈ p.runs ↔ ∃ name x, p.experiment? name = some x ∧ o ∈ x.runs) ∧
    (∀ name x, p.experiment? name = some x →
      x.runSet.length = x.runs.length ∧ ∀ o, o ∈ x.runSet ↔ o ∈ x.runs) ∧
    (∀ o, o ∈ (ofConfig owner config request probe store).store.objects ↔
      o ∈ store.objects ∨ o ∈ p.runs) ∧
    p.runs.length ≤ (p.experiments.values.map fun x => x.runs.length).sum ∧
    (p.runs.length = (p.experiments.values.map fun x => x.runs.length).sum ↔
      ∀ name name' x x', p.experiment? name = some x → p.experiment? name' = some x' →
        name ≠ name' → ∀ o ∈ x.runs, o ∉ x'.runs) ∧
    (store = .empty →
      p.runs.length = (ofConfig owner config request probe store).store.size) := by
  have different : p.runs.Pairwise fun o o' => ¬ o.run.Alike o'.run := by
    rw [runs_of_ofConfig made]
    refine (pairwise_firsts _ _).imp ?_
    intro o o' other
    rwa [Run.alike_iff]
  refine ⟨different, fun o => mem_runs made, ?_, fun o => mem_objects_ofConfig made, ?_, ?_, ?_⟩
  · intro name x compiled
    rw [runSet_of_ofConfig made compiled]
    exact ⟨rfl, fun o => Iff.rfl⟩
  · rw [runs_of_ofConfig made, ← length_listed]
    exact (firsts_sublist _ _).length_le
  · rw [runs_of_ofConfig made, ← length_listed, length_firsts_eq, pairwise_listed made]
  · rintro rfl
    have nodup : p.runs.Nodup := by
      refine different.imp ?_
      rintro o _ other rfl
      exact other (Run.alike_iff.2 rfl)
    have same : p.runs.Perm (ofConfig owner config request probe .empty).store.objects := by
      rw [List.perm_ext_iff_of_nodup nodup (RunStore.nodup_objects _)]
      intro o
      rw [mem_objects_ofConfig made]
      exact (or_iff_right List.not_mem_nil).symm
    rw [same.length_eq, RunStore.objects, List.length_mapIdx, RunStore.size]

/-- Both experiments of the demonstration list all four runs of the plan, so that together they list
more than it has. The second one by itself shares no run. -/
theorem ofConfig_accounted_demo : ∃ p q,
    (ofConfig 0 demoConfig demoRequest (.fixed true) .empty).result = .ok p ∧
    (ofConfig 0 demoConfig { demoRequest with experiment := some "E" } (.fixed true)
      .empty).result = .ok q ∧
    p.runs.length = 4 ∧ p.runs.length = (ofConfig 0 demoConfig demoRequest (.fixed true)
      .empty).store.size ∧
    p.runs.length ≠ (p.experiments.values.map fun x => x.runs.length).sum ∧
    q.runs.length = (q.experiments.values.map fun x => x.runs.length).sum := by
  obtain ⟨_, _, _, _, _, shared, size⟩ := @ofConfig_accounted 0 demoConfig demoRequest
    (.fixed true) .empty _ rfl
  obtain ⟨_, _, _, _, _, alone, _⟩ := @ofConfig_accounted 0 demoConfig
    { demoRequest with experiment := some "E" } (.fixed true) .empty _ rfl
  refine ⟨_, _, rfl, rfl, rfl, size rfl, ?_, alone.2 ?_⟩
  · intro same
    exact shared.1 same "D" "E" _ _ rfl rfl (by decide) _ (List.mem_of_getElem? (i := 0) rfl)
      (List.mem_of_getElem? (i := 0) rfl)
  · rintro name name' x x' compiled compiled' other
    have only : ∀ n, n ∈ ["E"] → n = "E" := fun n m => List.mem_singleton.1 m
    exact absurd ((only name (Table.mem_keys.2 ⟨x, compiled⟩)).trans
      (only name' (Table.mem_keys.2 ⟨x', compiled'⟩)).symm) other

end Plan

end BenchPlan
