import BenchPlan.Proofs.Reach
import BenchPlan.Proofs.Selection

/-!
# Filtering before and after

It makes no difference whether runs are kept out while experiments are compiled or picked out of
what is compiled without a filter. A filter looks at parts of the key only, so of the slots with one
key it admits all or none (`find?_admitted`). Two compilations of an experiment, one with a filter
and one without, thus keep their stores in step: for the keys that the filter admits both hold runs
that agree (`inStep_compile`). References are looked up and build steps recorded before the filter
is asked, so that both fail alike and record the same steps. For whole plans this is
`ofConfig_filtered`.
-/

namespace BenchPlan

open BuildTable Experiment Slot

/-- What filters see of the runs with a key. -/
def RunKey.identity (k : RunKey) : Identity := ⟨k.machine, k.suite, k.benchmark⟩

/-- The key of a run has its identity. -/
lemma Run.identity_key (r : Run) : r.key.identity = r.benchmark.identity := rfl

/-- A run agrees with itself. -/
lemma Run.Agrees.refl (r : Run) : r.Agrees r :=
  ⟨⟨rfl, rfl, rfl, rfl, rfl⟩, ⟨rfl, rfl, rfl, rfl, rfl⟩, rfl, rfl, rfl, rfl⟩

namespace Slot

/-- The key of a slot has its identity. -/
lemma identity_key (settings : RunSettings) (l : Slot) :
    (l.key settings).identity = l.identity := rfl

/-- For a key that a filter admits the same slot is found among those admitted and among all. -/
lemma find?_admitted {f : Filter} {k : RunKey} (h : f.admits k.identity = true)
    (settings : RunSettings) (ls : List Slot) :
    (admitted f ls).find? (fun l => l.key settings == k) =
      ls.find? fun l => l.key settings == k := by
  rw [admitted, List.find?_filter]
  congr 1
  funext l
  by_cases e : l.key settings = k
  · subst e
    rw [identity_key] at h
    simp [h]
  · simp [e]

/-- The first of each key among the slots that a filter admits are those it admits among the first
of each key. -/
lemma firsts_admitted (settings : RunSettings) (f : Filter) (ls : List Slot) :
    firsts (key settings) (admitted f ls) =
      (firsts (key settings) ls).filter fun l => f.admits l.identity := by
  apply firsts_filter
  intro l l' e
  rw [identity_of_key e]

end Slot

namespace Experiment

/-- The same without a filter. -/
def Context.unfiltered (ctx : Context) : Context := { ctx with filter := .empty }

/-- The experiment with the runs that a filter admits. -/
def restrict (f : Filter) (x : Experiment) : Experiment :=
  { x with runs := x.runs.filter fun o => f.admits o.run.benchmark.identity }

/-- Two stores are in step for a filter if they hold runs that agree for every key it admits. -/
def InStep (f : Filter) (s s' : RunStore) : Prop :=
  ∀ k : RunKey, f.admits k.identity = true →
    Option.Rel Run.Agrees ((s.find? k).map SharedRun.run) ((s'.find? k).map SharedRun.run)

variable {ctx : Context} {name : String} {d : ExperimentDef} {s s' t t' : Shared}
  {x y : Experiment}

/-- A store is in step with itself. -/
lemma InStep.refl (f : Filter) (s : RunStore) : InStep f s s := by
  intro k _
  cases s.find? k with
  | none => exact .none
  | some o => exact .some (.refl o.run)

/-- A key is found behind an experiment with the run that was found before, or else with that of the
first admitted slot that has it. -/
lemma map_run_find?_compile (ctx : Context) (name : String) (d : ExperimentDef) (s : Shared)
    (k : RunKey) :
    ((compile ctx name d s).2.store.find? k).map SharedRun.run =
      ((s.store.find? k).map SharedRun.run).or
        (((admitted ctx.filter (met ctx d)).find? fun l => l.key (settingsOf ctx d) == k).map
          (Slot.run (compile ctx name d s).2.builds (settingsOf ctx d))) := by
  rw [compile_store ctx name d s (.refl _), RunStore.map_run_find?_registerAll, find?_runsOf]

/-- What one option holds or else another agrees with what agreeing options hold. -/
lemma rel_or {α β : Type} {R : α → β → Prop} {a a' : Option α} {b b' : Option β}
    (h : Option.Rel R a b) (h' : Option.Rel R a' b') : Option.Rel R (a.or a') (b.or b') := by
  cases h with
  | none => exact h'
  | some related => exact .some related

/-- Compiling an experiment with a filter and without keeps the stores in step. -/
lemma inStep_compile (h : InStep ctx.filter s.store s'.store) (name : String)
    (d : ExperimentDef) :
    InStep ctx.filter (compile ctx name d s).2.store
      (compile ctx.unfiltered name d s').2.store := by
  intro k admits
  rw [map_run_find?_compile, map_run_find?_compile, find?_admitted admits,
    show ctx.unfiltered.filter = .empty from rfl, admitted_empty]
  -- what was held before is in step already, and what is new is of one slot
  apply rel_or (h k admits)
  show Option.Rel _ (((met ctx d).find? fun l => l.key (settingsOf ctx d) == k).map _)
    (((met ctx d).find? fun l => l.key (settingsOf ctx d) == k).map _)
  cases (met ctx d).find? fun l => l.key (settingsOf ctx d) == k with
  | none => exact .none
  | some l => exact .some (l.run_agrees _ _ _)

/-- The run that represents a slot has its identity. -/
lemma Represents.identity {settings : RunSettings} {before after : RunStore} {t : BuildTable}
    {l : Slot} {o : SharedRun} (h : Represents settings before after t l o) :
    o.run.benchmark.identity = l.identity := by
  rw [← Run.identity_key, h.key, identity_key]

/-- Of what is listed without a filter one picks out the objects of the slots that it admits. -/
lemma represents_restrict (f : Filter) (hy : (compile ctx.unfiltered name d s').1 = .ok y) :
    List.Forall₂
      (Represents (settingsOf ctx d) s'.store (compile ctx.unfiltered name d s').2.store
        (compile ctx.unfiltered name d s').2.builds)
      (firsts (key (settingsOf ctx d)) (admitted f (d.slots ctx.machines ctx.suites)))
      (y.restrict f).runs := by
  have all := compile_represents hy (.refl _)
  rw [show ctx.unfiltered.filter = .empty from rfl, admitted_empty] at all
  rw [firsts_admitted]
  refine List.rel_filter ?_ all
  intro l o represents
  show f.admits l.identity = true ↔ f.admits o.run.benchmark.identity = true
  rw [represents.identity]

/-- What is compiled with a filter is what is compiled without, restricted to the filter. -/
lemma agrees_restrict_of_compile (h : InStep ctx.filter s.store s'.store)
    (hx : (compile ctx name d s).1 = .ok x) (hy : (compile ctx.unfiltered name d s').1 = .ok y) :
    x.Agrees (y.restrict ctx.filter) := by
  have runs : List.Forall₂ (fun o o' => o.run.Agrees o'.run ∧ o.run.cmdline = o'.run.cmdline)
      x.runs (y.restrict ctx.filter).runs := by
    have listed := (List.forall₂_and_left _ _).2
      ⟨fun l m => (List.mem_filter.1 (mem_of_mem_firsts m)).2, compile_represents hx (.refl _)⟩
    refine (forall₂_of_common listed (represents_restrict ctx.filter hy)).imp ?_
    rintro o o' ⟨l, ⟨admits, represents⟩, represents'⟩
    -- both are held for the key of a slot that is admitted
    have same := inStep_compile h name d (l.key (settingsOf ctx d)) admits
    rw [represents.held, represents'.held] at same
    cases same with
    | some agrees => exact ⟨agrees, agrees.cmdline⟩
  rw [ofWalk_of_compile hx, ofWalk_of_compile hy] at runs ⊢
  exact ⟨rfl, rfl, rfl, rfl, rfl, rfl, rfl, rfl, runs⟩

/-- Experiments that are compiled in turn with a filter are those compiled without, restricted. -/
lemma InTurn.agrees_restrict {defs : List (String × ExperimentDef)}
    {xs ys : List (String × Experiment)} (h : InTurn ctx s defs xs t)
    (h' : InTurn ctx.unfiltered s' defs ys t') (inStep : InStep ctx.filter s.store s'.store) :
    List.Forall₂ (fun e e' => e.1 = e'.1 ∧ e.2.Agrees (e'.2.restrict ctx.filter)) xs ys := by
  refine h.forall₂ (P := fun s s' => InStep ctx.filter s.store s'.store)
    (R := fun x y => x.Agrees (y.restrict ctx.filter)) ?_ ?_ h' inStep
  · exact fun name d s s' inStep => inStep_compile inStep name d
  · exact fun name d s s' x y inStep hx hy => agrees_restrict_of_compile inStep hx hy

end Experiment

namespace Plan

variable {owner owner' : Nat} {config : Config} {request : PlanRequest} {probe : Probe}
  {store : RunStore} {filter : Filter} {p q : Plan}

/-- The request without a filter. -/
def unfiltered (request : PlanRequest) : PlanRequest := { request with filters := [] }

/-- A request comes down to the same experiments with a filter and without. -/
lemma task_unfiltered (parsed : Filter.parse request.filters = .ok filter) :
    task config request =
      (task config (unfiltered request)).map fun t => (filter, t.2) := by
  have none : Filter.parse (unfiltered request).filters = .ok .empty := rfl
  simp only [task, parsed, none]
  dsimp only [unfiltered]
  cases select (withDataFile config request.dataFile) request.experiment with
  | error e => rfl
  | ok names => rfl

/-- A request fails for the same reason with a filter and without. -/
lemma failure?_unfiltered (parsed : Filter.parse request.filters = .ok filter) :
    failure? config request = failure? config (unfiltered request) := by
  rw [failure?, failure?, task_unfiltered parsed]
  cases task config (unfiltered request) with
  | error e => rfl
  | ok t => rfl

/-- The build steps of a plan are those of all references of its experiments, each once. -/
lemma steps_of_ofConfig {names : List String}
    (selected : select (withDataFile config request.dataFile) request.experiment = .ok names)
    (made : (ofConfig owner config request probe store).result = .ok p) :
    p.builds.steps = firsts id (Reference.buildSteps config.machines config.suites
      ((definitions config names).flatMap fun e => e.2.references)) := by
  obtain ⟨_, _, parsed, _⟩ := inTurn_of_ofConfig made
  have task := task_of_select parsed selected
  rw [builds_ofConfig task made, recorded, steps_recordAll_empty,
    visited_eq (resolved_of_ofConfig task made)]

/-- The build step of a machine or suite that a compiled experiment refers to is recorded. -/
lemma contains_of_ofConfig (made : (ofConfig owner config request probe store).result = .ok p)
    {name : String} {d : ExperimentDef} (compiled : name ∈ p.experiments.keys)
    (defined : config.experiments.get? name = some d) {r : Reference} (m : r ∈ d.references)
    {b : BuildStep} (step : r.buildStep? config.machines config.suites = some b) :
    p.builds.contains b = true := by
  obtain ⟨names, _, _, selected, _⟩ := inTurn_of_ofConfig made
  rw [keys_of_ofConfig made selected] at compiled
  have mem : (name, d) ∈ definitions config names :=
    mem_definitions.2 ⟨List.mem_of_mem_filter compiled, defined⟩
  rw [BuildTable.contains, steps_of_ofConfig selected made, List.contains_iff_mem]
  have referred : r ∈ (definitions config names).flatMap fun e => e.2.references :=
    List.mem_flatMap.2 ⟨_, mem, m⟩
  have recorded := List.mem_filterMap.2 ⟨r, referred, step⟩
  obtain ⟨b', kept, rfl⟩ := exists_mem_firsts (f := id) recorded
  exact kept

/-- Filtering commutes with compilation. For every configuration, request and store, a request with
well-formed filter tokens and the same one without any fail with the same error or both succeed. The
plans then have the same experiments in the same order, each with the runs that the filter picks out
of those compiled without, which agree one by one in all that is in them, and the same build steps,
also those of machines and suites whose benchmarks are all kept out. -/
theorem ofConfig_filtered (parsed : Filter.parse request.filters = .ok filter) :
    (∀ e, (ofConfig owner config request probe store).result = .error e ↔
      (ofConfig owner' config (unfiltered request) probe store).result = .error e) ∧
    ∀ p q, (ofConfig owner config request probe store).result = .ok p →
      (ofConfig owner' config (unfiltered request) probe store).result = .ok q →
      List.Forall₂ (fun e e' => e.1 = e'.1 ∧ e.2.Agrees (e'.2.restrict filter))
        p.experiments.entries q.experiments.entries ∧
      p.builds.steps = q.builds.steps ∧
      ∀ name ∈ p.experiments.keys, ∀ d, config.experiments.get? name = some d →
        ∀ r ∈ d.references, ∀ b, r.buildStep? config.machines config.suites = some b →
          p.builds.contains b = true := by
  constructor
  · intro e
    rw [result_ofConfig_eq_error, result_ofConfig_eq_error, failure?_unfiltered parsed]
  · intro p q made made'
    obtain ⟨names, s, parsed₁, selected, inTurn, _⟩ := inTurn_of_ofConfig made
    obtain ⟨names', s', parsed₂, selected', inTurn', _⟩ := inTurn_of_ofConfig made'
    cases selected.symm.trans selected'
    have steps := (steps_of_ofConfig selected made).trans (steps_of_ofConfig selected' made').symm
    rw [← Except.ok.inj (parsed.symm.trans parsed₁)] at inTurn
    have none : Filter.empty = q.filter := Except.ok.inj parsed₂
    rw [← none] at inTurn'
    refine ⟨?_, steps, ?_⟩
    · exact inTurn.agrees_restrict inTurn' (.refl filter store)
    · intro name m d defined r mr b step
      exact contains_of_ofConfig made m defined mr step

/-- A request for all experiments on one machine. -/
def demoFiltered : PlanRequest := { demoRequest with filters := ["vm:V"] }

/-- Half of the runs are kept out, and those that are left are the same as without the filter, one
of them held by the store before. The build step of the machine that is kept out is recorded. -/
theorem ofConfig_filtered_demo : ∃ p q,
    Filter.parse demoFiltered.filters = .ok ⟨[.machine "V"], []⟩ ∧
    (ofConfig 0 demoConfig demoFiltered (.fixed true) demoShared.store).result = .ok p ∧
    (ofConfig 1 demoConfig (unfiltered demoFiltered) (.fixed true) demoShared.store).result =
      .ok q ∧
    p.experiments.values.map (fun x => x.runs.map SharedRun.position) = [[1, 0], [1, 0]] ∧
    q.experiments.values.map (fun x => x.runs.map SharedRun.position) =
      [[1, 0, 2, 3], [1, 0, 2, 3]] ∧
    List.Forall₂ (fun e e' => e.1 = e'.1 ∧ e.2.Agrees (e'.2.restrict ⟨[.machine "V"], []⟩))
      p.experiments.entries q.experiments.entries ∧
    p.builds.steps = q.builds.steps ∧
    p.builds.contains ⟨["./build.sh"], some "/opt/v/"⟩ = true := by
  obtain ⟨_, same⟩ := @ofConfig_filtered 0 1 demoConfig demoFiltered (.fixed true) demoShared.store
    ⟨[.machine "V"], []⟩ rfl
  obtain ⟨runs, steps, recorded⟩ := same _ _ rfl rfl
  exact ⟨_, _, rfl, rfl, rfl, rfl, rfl, runs, steps,
    recorded "E" (by decide) _ rfl (.machine "W") (by decide) _ rfl⟩

end Plan

end BenchPlan
