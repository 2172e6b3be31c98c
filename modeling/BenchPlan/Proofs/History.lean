import BenchPlan.Proofs.Sharing

/-!
# Independence of history

What was planned before decides which objects a request is handed, and nothing else. Two stores may
hold different runs: a request fails with both or with none and for the same reason, and experiments
compiled with one and with the other list equal runs (`alike_of_compile`). What a request adds to
the keys of a store is known from the configuration and the request (`keys_ofConfig`), so that
requests may be exchanged, and a request that was carried out finds all its runs when it is carried
out again. These facts are put together in `ofConfig_history`.
-/

namespace BenchPlan

open Experiment Slot

namespace RunStore

/-- The keys of the registered runs. -/
def keys (s : RunStore) : Finset RunKey := (s.runs.map Run.key).toFinset

/-- The keys of a store are those that it holds an object for. -/
lemma mem_keys {s : RunStore} {k : RunKey} : k ∈ s.keys ↔ ∃ o, s.find? k = some o := by
  rw [keys, List.mem_toFinset, List.mem_map]
  constructor
  · rintro ⟨r, m, rfl⟩
    exact find?_of_mem m
  · rintro ⟨o, held⟩
    exact ⟨o.run, mem_of_find? held, key_of_find? held⟩

/-- Registering a run adds its key. -/
lemma keys_register (s : RunStore) (r : Run) : (s.register r).2.keys = insert r.key s.keys := by
  unfold register
  split
  · rename_i o held
    exact (Finset.insert_eq_of_mem (mem_keys.2 ⟨o, held⟩)).symm
  · rw [keys, List.map_append, List.toFinset_append, Finset.union_comm]
    rfl

/-- Registering runs adds their keys, whatever the store holds. -/
lemma keys_registerAll (s : RunStore) (rs : List Run) :
    (s.registerAll rs).2.keys = s.keys ∪ (rs.map Run.key).toFinset := by
  induction rs generalizing s with
  | nil => simp [registerAll]
  | cons r rest ih =>
    have later := ih (s.register r).2
    rw [keys_register, Finset.insert_union] at later
    rw [List.map_cons, List.toFinset_cons, Finset.union_insert]
    exact later

/-- Registering runs whose keys are all known changes nothing. -/
lemma registerAll_of_known {s : RunStore} {rs : List Run} (known : ∀ r ∈ rs, r.key ∈ s.keys) :
    (s.registerAll rs).2 = s := by
  induction rs with
  | nil => rfl
  | cons r rest ih =>
    obtain ⟨o, held⟩ := mem_keys.1 (known r List.mem_cons_self)
    have same : (s.register r).2 = s := by rw [register, held]
    show ((s.register r).2.registerAll rest).2 = s
    rw [same]
    exact ih fun r' m => known r' (List.mem_cons_of_mem _ m)

end RunStore

/-- Experiments are alike if they are equal but for the objects of their runs, and these are equal
runs one by one. -/
structure Experiment.Alike (x y : Experiment) : Prop where
  rest : { x with runs := y.runs } = y
  runs : List.Forall₂ (fun o o' => o.run.Alike o'.run) x.runs y.runs

namespace Experiment

variable {ctx : Context} {name : String} {d : ExperimentDef} {s s' t t' : Shared}
  {x y : Experiment} {store : RunStore}

/-- What an experiment is compiled to does not depend on the store, up to objects. -/
lemma alike_of_compile (h : (compile ctx name d s).1 = .ok x)
    (h' : (compile ctx name d s').1 = .ok y) : x.Alike y := by
  have runs : List.Forall₂ (fun o o' => o.run.Alike o'.run) x.runs y.runs := by
    -- both list one object for each of the same slots
    have matched := forall₂_of_common (compile_represents h (.refl _))
      (compile_represents h' (.refl _))
    refine matched.imp ?_
    rintro o o' ⟨l, represents, represents'⟩
    exact Run.alike_iff.2 (represents.key.trans represents'.key.symm)
  rw [ofWalk_of_compile h, ofWalk_of_compile h'] at runs ⊢
  exact ⟨rfl, runs⟩

/-- Experiments that are compiled in turn are alike, whatever was there before. -/
lemma InTurn.alike {defs : List (String × ExperimentDef)} {xs ys : List (String × Experiment)}
    (h : InTurn ctx s defs xs t) (h' : InTurn ctx s' defs ys t') :
    List.Forall₂ (fun e e' => e.1 = e'.1 ∧ e.2.Alike e'.2) xs ys := by
  refine h.forall₂ (P := fun _ _ => True) (R := Experiment.Alike) ?_ ?_ h' trivial
  · exact fun _ _ _ _ _ => trivial
  · exact fun _ _ _ _ _ _ _ hx hy => alike_of_compile hx hy

/-- Alike experiments whose runs are all held by one store are equal. -/
lemma Alike.eq_of_held (h : x.Alike y)
    (held : ∀ o ∈ x.runs, store.find? o.run.key = some o)
    (held' : ∀ o ∈ y.runs, store.find? o.run.key = some o) : x = y := by
  have runs : x.runs = y.runs := by
    apply eq_of_forall₂ h.runs
    intro o m o' m' alike
    have same := held o m
    rw [Run.alike_iff.1 alike, held' o' m'] at same
    exact (Option.some.inj same).symm
  calc
    x = { x with runs := y.runs } := by rw [← runs]
    _ = y := h.rest

end Experiment

namespace Plan

variable {owner owner' : Nat} {config : Config} {request : PlanRequest} {probe : Probe}
  {store store' : RunStore} {p q : Plan}

/-- The keys of the runs that a request asks for: those of the admitted slots that it comes to. -/
def wanted (config : Config) (request : PlanRequest) : Finset RunKey :=
  match task config request with
  | .error _ => ∅
  | .ok (filter, defs) =>
    let ctx := context config none none filter
    ((reached config.machines config.suites defs).flatMap fun e =>
      (admitted filter (met ctx e.2)).map (Slot.key (settingsOf ctx e.2))).toFinset

/-- The keys of what a request asks for are those that are wanted. -/
lemma map_key_asks (owner : Nat) (config : Config) (request : PlanRequest) (probe : Probe) :
    ((asks owner config request probe).map Run.key).toFinset = wanted config request := by
  unfold asks wanted
  cases task config request with
  | error e => rfl
  | ok t =>
    obtain ⟨filter, defs⟩ := t
    simp only [asked, List.map_flatMap, Walk.runsOf, List.map_map]
    rfl

/-- The keys of a store after a request, with success or without, are those before and those that
are wanted. -/
lemma keys_ofConfig (owner : Nat) (config : Config) (request : PlanRequest) (probe : Probe)
    (store : RunStore) :
    (ofConfig owner config request probe store).store.keys =
      store.keys ∪ wanted config request := by
  rw [store_ofConfig, RunStore.keys_registerAll, map_key_asks]

/-- A request that was carried out registers nothing when it is carried out again. -/
lemma store_ofConfig_again (owner owner' : Nat) (config : Config) (request : PlanRequest)
    (probe : Probe) (store : RunStore) :
    (ofConfig owner' config request probe (ofConfig owner config request probe store).store).store =
      (ofConfig owner config request probe store).store := by
  refine (@store_ofConfig owner' config request probe _).trans (RunStore.registerAll_of_known ?_)
  intro r m
  have asked : r.key ∈ wanted config request := by
    rw [← map_key_asks owner' config request probe, List.mem_toFinset]
    exact List.mem_map_of_mem m
  rw [keys_ofConfig]
  exact Finset.mem_union_right _ asked

/-- Plans of the same request list runs alike whatever store they are made with. -/
lemma alike_of_ofConfig (made : (ofConfig owner config request probe store).result = .ok p)
    (made' : (ofConfig owner' config request probe store').result = .ok q) :
    List.Forall₂ (fun e e' => e.1 = e'.1 ∧ e.2.Alike e'.2) p.experiments.entries
      q.experiments.entries := by
  obtain ⟨names, s, parsed, selected, inTurn, _⟩ := inTurn_of_ofConfig made
  obtain ⟨names', s', parsed', selected', inTurn', _⟩ := inTurn_of_ofConfig made'
  cases selected.symm.trans selected'
  rw [Except.ok.inj (parsed.symm.trans parsed')] at inTurn
  exact inTurn.alike inTurn'

/-- A request that succeeds with a store succeeds with every other. -/
lemma exists_ofConfig (made : (ofConfig owner config request probe store).result = .ok p)
    (owner' : Nat) (store' : RunStore) :
    ∃ q, (ofConfig owner' config request probe store').result = .ok q := by
  cases result : (ofConfig owner' config request probe store').result with
  | ok q => exact ⟨q, rfl⟩
  | error e =>
    have failed : (ofConfig owner config request probe store).result = .error e :=
      result_ofConfig_eq_error.2 (result_ofConfig_eq_error.1 result)
    cases made.symm.trans failed

/-- A request that is carried out again is handed the very same objects. -/
lemma experiments_ofConfig_again
    (made : (ofConfig owner config request probe store).result = .ok p)
    (again : (ofConfig owner' config request probe
      (ofConfig owner config request probe store).store).result = .ok q) :
    q.experiments = p.experiments := by
  have held {n x o} (compiled : (n, x) ∈ p.experiments.entries) (m : o ∈ x.runs) :=
    find?_of_ofConfig made ((Table.get?_eq_some_iff _).2 compiled) m
  have held' {n x o} (compiled : (n, x) ∈ q.experiments.entries) (m : o ∈ x.runs) :=
    find?_of_ofConfig again ((Table.get?_eq_some_iff _).2 compiled) m
  rw [store_ofConfig_again] at held'
  apply Table.ext
  apply eq_of_forall₂ (alike_of_ofConfig again made)
  rintro ⟨n, x⟩ compiled' ⟨n', y⟩ compiled ⟨rfl, alike⟩
  have same : x = y := alike.eq_of_held (fun _ => held' compiled') fun _ => held compiled
  rw [same]

/-- History never changes which runs are planned. With any two stores a request fails for the same
reason or succeeds with both, and then the same experiments are compiled, listing equal runs one by
one. With success or without, it adds to the keys of a store what it wants, which is known from the
configuration and the request alone. So two requests leave the same keys in either order, and one
that is carried out again leaves the store as it is and is handed the very same objects. -/
theorem ofConfig_history (config : Config) (request : PlanRequest) (probe : Probe) :
    (∀ owner owner' s s' e, (ofConfig owner config request probe s).result = .error e ↔
      (ofConfig owner' config request probe s').result = .error e) ∧
    (∀ owner owner' s s' p q, (ofConfig owner config request probe s).result = .ok p →
      (ofConfig owner' config request probe s').result = .ok q →
      List.Forall₂ (fun e e' => e.1 = e'.1 ∧ e.2.Alike e'.2) p.experiments.entries
        q.experiments.entries) ∧
    (∀ owner s, (ofConfig owner config request probe s).store.keys =
      s.keys ∪ wanted config request) ∧
    (∀ owner owner' config' request' probe' s,
      (ofConfig owner' config' request' probe'
        (ofConfig owner config request probe s).store).store.keys =
      (ofConfig owner config request probe
        (ofConfig owner' config' request' probe' s).store).store.keys) ∧
    ∀ owner owner' s,
      (ofConfig owner' config request probe (ofConfig owner config request probe s).store).store =
        (ofConfig owner config request probe s).store ∧
      ∀ p, (ofConfig owner config request probe s).result = .ok p →
        ∃ q, (ofConfig owner' config request probe
            (ofConfig owner config request probe s).store).result = .ok q ∧
          q.experiments = p.experiments := by
  refine ⟨?_, ?_, ?_, ?_, ?_⟩
  · intro owner owner' s s' e
    rw [result_ofConfig_eq_error, result_ofConfig_eq_error]
  · intro owner owner' s s' p q made made'
    exact alike_of_ofConfig made made'
  · intro owner s
    exact keys_ofConfig owner config request probe s
  · intro owner owner' config' request' probe' s
    rw [keys_ofConfig, keys_ofConfig, keys_ofConfig, keys_ofConfig]
    exact Finset.union_right_comm _ _ _
  · intro owner owner' s
    refine ⟨store_ofConfig_again owner owner' config request probe s, ?_⟩
    intro p made
    obtain ⟨q, again⟩ := exists_ofConfig made owner' (ofConfig owner config request probe s).store
    exact ⟨q, again, experiments_ofConfig_again made again⟩

/-- The experiments of the demonstration with an empty store and with one that holds a run of
another configuration. The runs are handed out at other positions, and the one that was held has
another command, but they are equal one by one; the second request finds all of them again. -/
theorem ofConfig_history_demo : ∃ p q r,
    (ofConfig 0 demoConfig demoRequest (.fixed true) .empty).result = .ok p ∧
    (ofConfig 1 demoConfig demoRequest (.fixed true) demoShared.store).result = .ok q ∧
    (ofConfig 2 demoConfig demoRequest (.fixed true)
      (ofConfig 1 demoConfig demoRequest (.fixed true) demoShared.store).store).result = .ok r ∧
    p.experiments.values.map (fun x => x.runs.map SharedRun.position) =
      [[0, 1, 2, 3], [0, 1, 2, 3]] ∧
    q.experiments.values.map (fun x => x.runs.map SharedRun.position) =
      [[1, 0, 2, 3], [1, 0, 2, 3]] ∧
    List.Forall₂ (fun e e' => e.1 = e'.1 ∧ e.2.Alike e'.2) p.experiments.entries
      q.experiments.entries ∧
    r.experiments = q.experiments ∧
    demoShared.store.keys ∪ wanted demoConfig demoRequest = wanted demoConfig demoRequest := by
  obtain ⟨_, alike, _, _, again⟩ := ofConfig_history demoConfig demoRequest (.fixed true)
  obtain ⟨r, made, same⟩ := (again 1 2 demoShared.store).2 _ rfl
  exact ⟨_, _, r, rfl, rfl, made, rfl, rfl, alike 0 1 .empty demoShared.store _ _ rfl rfl, same,
    by decide +kernel⟩

end Plan

end BenchPlan
