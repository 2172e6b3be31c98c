import BenchPlan.Proofs.BuildSteps
import BenchPlan.Proofs.Planning

/-!
# How far a request gets

Compiling experiments in turn stops in the first one with a reference that leads nowhere, so it is
known from the definitions alone how far it gets (`reached`) and with which error it ends
(`compileAll_fst_eq_error`). On the way it registers the runs that are asked for (`asked`) and
records the build steps of the references that are come to (`visited`), no more and no less, whether
it succeeds or not (`compileAll_store`, `compileAll_builds`). A request is refused or comes down to
a filter and definitions (`task`). What becomes of it, and of the store that it is carried out with,
is said in these terms: `result_ofConfig_eq_error` and `store_ofConfig`.
-/

namespace BenchPlan

open BuildTable Slot

namespace Experiment

section definitions

variable (machines : Table MachineDef) (suites : Table SuiteDef)

/-- The name at which compiling an experiment stops, if there is one. -/
def stop? (e : String × ExperimentDef) : Option DanglingName :=
  (Reference.firstDangling machines suites e.2.references).map (Reference.dangling e.1)

/-- The experiments that are come to: all up to the first with a name that is not defined. -/
def reached : List (String × ExperimentDef) → List (String × ExperimentDef)
  | [] => []
  | e :: rest => e :: if (stop? machines suites e).isSome then [] else reached rest

/-- The references that are come to. -/
def visited (defs : List (String × ExperimentDef)) : List Reference :=
  (reached machines suites defs).flatMap fun e => Reference.settled machines suites e.2.references

end definitions

/-- The runs of the slots that are come to and admitted, with the objects of a table. -/
def asked (ctx : Context) (t : BuildTable) (defs : List (String × ExperimentDef)) : List Run :=
  (reached ctx.machines ctx.suites defs).flatMap fun e =>
    Walk.runsOf ctx (settingsOf ctx e.2) t (met ctx e.2)

variable {ctx : Context} {machines : Table MachineDef} {suites : Table SuiteDef} {s : Shared}
  {name : String} {d : ExperimentDef} {defs : List (String × ExperimentDef)}

/-- An experiment does not stop if none of its references leads nowhere. -/
lemma stop?_eq_none {e : String × ExperimentDef} :
    stop? machines suites e = none ↔
      Reference.firstDangling machines suites e.2.references = none :=
  Option.map_eq_none_iff

/-- Nothing is come to after an experiment with a name that is not defined. -/
lemma reached_of_stop {e : String × ExperimentDef} {n : DanglingName}
    (h : stop? machines suites e = some n) (rest : List (String × ExperimentDef)) :
    reached machines suites (e :: rest) = [e] := by
  rw [reached, h]
  rfl

/-- Behind an experiment that does not stop the others are come to. -/
lemma reached_of_resolved {e : String × ExperimentDef} (h : stop? machines suites e = none)
    (rest : List (String × ExperimentDef)) :
    reached machines suites (e :: rest) = e :: reached machines suites rest := by
  rw [reached, h]
  rfl

/-- All experiments are come to if none stops. -/
lemma reached_eq (h : ∀ e ∈ defs, stop? machines suites e = none) :
    reached machines suites defs = defs := by
  induction defs with
  | nil => rfl
  | cons e rest ih =>
    rw [reached_of_resolved (h e List.mem_cons_self),
      ih fun e' m => h e' (List.mem_cons_of_mem _ m)]

/-- If no experiment stops, all references are come to. -/
lemma visited_eq (h : ∀ e ∈ defs, stop? machines suites e = none) :
    visited machines suites defs = defs.flatMap fun e => e.2.references := by
  rw [visited, reached_eq h]
  apply List.flatMap_congr
  intro e m
  exact Reference.settled_eq (stop?_eq_none.1 (h e m))

/-- Compiling an experiment that stops ends with the name that is not defined. -/
lemma compile_of_stop {n : DanglingName}
    (h : stop? ctx.machines ctx.suites (name, d) = some n) :
    compile ctx name d s = (.error n, (compile ctx name d s).2) := by
  obtain ⟨r, stop, rfl⟩ := Option.map_eq_some_iff.1 h
  rw [compile_of_dangling stop]

/-- An experiment is compiled if all names are defined. -/
lemma compile_of_stop_none (h : stop? ctx.machines ctx.suites (name, d) = none) (s : Shared) :
    ∃ x, compile ctx name d s = (.ok x, (compile ctx name d s).2) := by
  rw [compile_of_resolved (stop?_eq_none.1 h)]
  exact ⟨_, rfl⟩

/-- A compilation registers the runs of the slots that it meets and that are admitted. -/
lemma compile_store (ctx : Context) (name : String) (d : ExperimentDef) (s : Shared)
    {t : BuildTable} (later : (compile ctx name d s).2.builds.Within t) :
    (compile ctx name d s).2.store =
      (s.store.registerAll (Walk.runsOf ctx (settingsOf ctx d) t (met ctx d))).2 := by
  obtain ⟨store, builds⟩ := compile_snd ctx name d s
  rw [builds] at later
  rw [store]
  exact (walk_takes ctx name d s).store t later

end Experiment

namespace Plan

open Experiment

section compileAll

variable {ctx : Context} {s : Shared} {defs : List (String × ExperimentDef)}
  {done : Table Experiment}

/-- Compiling experiments in turn ends with the first of them that stops. -/
lemma compileAll_of_stop {e : String × ExperimentDef} {n : DanglingName}
    (h : stop? ctx.machines ctx.suites e = some n) (rest : List (String × ExperimentDef)) :
    compileAll ctx (e :: rest) done s = (.error n, (compile ctx e.1 e.2 s).2) := by
  rw [compileAll, compile_of_stop h]

/-- Compiling experiments in turn goes on with the others after one that does not stop. -/
lemma compileAll_of_resolved {e : String × ExperimentDef}
    (h : stop? ctx.machines ctx.suites e = none) (rest : List (String × ExperimentDef))
    (done : Table Experiment) (s : Shared) :
    ∃ x, compileAll ctx (e :: rest) done s =
      compileAll ctx rest (done.insert e.1 x) (compile ctx e.1 e.2 s).2 := by
  obtain ⟨x, compiled⟩ := compile_of_stop_none h s
  refine ⟨x, ?_⟩
  rw [compileAll, compiled]

/-- Compiling experiments in turn fails exactly if one of them stops, with the first such name. -/
lemma compileAll_fst_eq_error (ctx : Context) (defs : List (String × ExperimentDef))
    (done : Table Experiment) (s : Shared) {n : DanglingName} :
    (compileAll ctx defs done s).1 = .error n ↔
      defs.findSome? (stop? ctx.machines ctx.suites) = some n := by
  induction defs generalizing done s with
  | nil => simp [compileAll]
  | cons e rest ih =>
    rw [List.findSome?_cons]
    cases h : stop? ctx.machines ctx.suites e with
    | some n' => simp [compileAll_of_stop h]
    | none =>
      obtain ⟨x, next⟩ := compileAll_of_resolved h rest done s
      rw [next]
      exact ih _ _

/-- The build steps of the references that are come to are recorded. -/
lemma compileAll_builds (ctx : Context) (defs : List (String × ExperimentDef))
    (done : Table Experiment) (s : Shared) :
    (compileAll ctx defs done s).2.builds = s.builds.recordAll
      (Reference.buildSteps ctx.machines ctx.suites (visited ctx.machines ctx.suites defs)) := by
  induction defs generalizing done s with
  | nil => rfl
  | cons e rest ih =>
    cases h : stop? ctx.machines ctx.suites e with
    | some n =>
      rw [compileAll_of_stop h, compile_builds, visited, reached_of_stop h]
      simp
    | none =>
      obtain ⟨x, next⟩ := compileAll_of_resolved h rest done s
      rw [next, ih, compile_builds, ← recordAll_append, ← Reference.buildSteps_append, visited,
        visited, reached_of_resolved h, List.flatMap_cons]

/-- The runs that are asked for are registered in turn. -/
lemma compileAll_store (ctx : Context) (defs : List (String × ExperimentDef))
    (done : Table Experiment) (s : Shared) {t : BuildTable}
    (later : (compileAll ctx defs done s).2.builds.Within t) :
    (compileAll ctx defs done s).2.store = (s.store.registerAll (asked ctx t defs)).2 := by
  induction defs generalizing done s with
  | nil => rfl
  | cons e rest ih =>
    cases h : stop? ctx.machines ctx.suites e with
    | some n =>
      rw [compileAll_of_stop h] at later ⊢
      rw [asked, reached_of_stop h, List.flatMap_singleton]
      exact compile_store ctx e.1 e.2 s later
    | none =>
      obtain ⟨x, next⟩ := compileAll_of_resolved h rest done s
      rw [next] at later ⊢
      -- the objects of the first experiment are those of the final table as well
      have within : (compile ctx e.1 e.2 s).2.builds.Within t := by
        rw [compileAll_builds] at later
        exact (within_recordAll _ _).trans later
      rw [ih _ _ later, compile_store ctx e.1 e.2 s within, asked, asked, reached_of_resolved h,
        List.flatMap_cons, RunStore.registerAll_append]

end compileAll

/-- What a request comes down to: a filter and the experiments to compile. It is refused if a token
of the filter is malformed or no experiment can be selected. -/
def task (config : Config) (request : PlanRequest) :
    Except PlanError (Filter × List (String × ExperimentDef)) :=
  match Filter.parse request.filters with
  | .error e => .error (.filter e)
  | .ok filter =>
    match select (withDataFile config request.dataFile) request.experiment with
    | .error e => .error e
    | .ok names => .ok (filter, definitions config names)

/-- Why a request fails, if it does. -/
def failure? (config : Config) (request : PlanRequest) : Option PlanError :=
  match task config request with
  | .error e => some e
  | .ok (_, defs) => (defs.findSome? (stop? config.machines config.suites)).map .dangling

/-- The table of build steps that a request leaves if it is not refused. -/
def recorded (owner : Nat) (config : Config) (defs : List (String × ExperimentDef)) : BuildTable :=
  (BuildTable.empty owner).recordAll
    (Reference.buildSteps config.machines config.suites
      (visited config.machines config.suites defs))

/-- The runs that a request asks for in order: those of the admitted slots that it comes to. -/
def asks (owner : Nat) (config : Config) (request : PlanRequest) (probe : Probe) : List Run :=
  match task config request with
  | .error _ => []
  | .ok (filter, defs) =>
    asked (requestContext config request probe filter) (recorded owner config defs) defs

variable {owner : Nat} {config : Config} {request : PlanRequest} {probe : Probe}
  {store : RunStore} {filter : Filter} {defs : List (String × ExperimentDef)}

/-- A request comes down to its filter and the definitions of the names that it selects. -/
lemma task_of_select {names : List String} (parsed : Filter.parse request.filters = .ok filter)
    (selected : select (withDataFile config request.dataFile) request.experiment = .ok names) :
    task config request = .ok (filter, definitions config names) := by
  simp only [task, parsed, selected]

/-- A refused request fails and registers nothing. -/
lemma ofConfig_of_refused {e : PlanError} (h : task config request = .error e) :
    (ofConfig owner config request probe store).result = .error e ∧
      (ofConfig owner config request probe store).store = store := by
  unfold task at h
  split at h
  · rename_i parsed
    cases h
    rw [ofConfig, parsed]
    exact ⟨rfl, rfl⟩
  · rename_i f parsed
    split at h
    · rename_i selected
      cases h
      simp only [ofConfig, parsed, selected, and_self]
    · cases h

/-- A request that is not refused is carried out by compiling its experiments in turn. It fails if
that fails, and otherwise the plan has what was compiled and recorded. -/
lemma ofConfig_of_task (h : task config request = .ok (filter, defs)) (owner : Nat)
    (probe : Probe) (store : RunStore) :
    ∃ r s, compileAll (requestContext config request probe filter) defs Table.empty
        (firstShared owner request probe store) = (r, s) ∧
      (ofConfig owner config request probe store).store = s.store ∧
      ((∃ n, r = .error n ∧
          (ofConfig owner config request probe store).result = .error (.dangling n)) ∨
        ∃ table p, r = .ok table ∧
          (ofConfig owner config request probe store).result = .ok p ∧
            p.experiments = table ∧ p.builds = s.builds) := by
  obtain ⟨r, s, compiled⟩ : ∃ r s, compileAll (requestContext config request probe filter) defs
    Table.empty (firstShared owner request probe store) = (r, s) := ⟨_, _, rfl⟩
  refine ⟨r, s, compiled, ?_⟩
  unfold task at h
  split at h
  · cases h
  · rename_i f parsed
    split at h
    · cases h
    · rename_i names selected
      cases h
      -- a data file given with the request changes no definition
      change compileAll (context _ _ _ _) (definitions (withDataFile config request.dataFile) names)
        _ ⟨_, _, _⟩ = _ at compiled
      cases r with
      | error n =>
        simp only [ofConfig, parsed, selected, compiled]
        exact ⟨trivial, .inl ⟨n, rfl, rfl⟩⟩
      | ok table =>
        simp only [ofConfig, parsed, selected, compiled]
        exact ⟨trivial, .inr ⟨table, _, rfl, rfl, rfl, rfl⟩⟩

/-- A request fails for the reason that can be read off the configuration, and for no other. -/
lemma result_ofConfig_eq_error {e : PlanError} :
    (ofConfig owner config request probe store).result = .error e ↔
      failure? config request = some e := by
  unfold failure?
  cases h : task config request with
  | error e' => simp [(ofConfig_of_refused h).1]
  | ok t =>
    obtain ⟨filter, defs⟩ := t
    obtain ⟨r, s, compiled, _, outcome⟩ := ofConfig_of_task h owner probe store
    have stops : ∀ n, r = .error n ↔
        defs.findSome? (stop? config.machines config.suites) = some n := by
      intro n
      have stops := @compileAll_fst_eq_error (requestContext config request probe filter) defs
        Table.empty (firstShared owner request probe store) n
      rwa [compiled] at stops
    cases outcome with
    | inl failed =>
      obtain ⟨n, rfl, result⟩ := failed
      simp [result, (stops n).1 rfl]
    | inr done =>
      obtain ⟨table, p, rfl, result, _⟩ := done
      have none : defs.findSome? (stop? config.machines config.suites) = none := by
        apply Option.eq_none_iff_forall_ne_some.2
        exact fun n stop => nomatch (stops n).2 stop
      simp [result, none]

/-- A request registers the runs that it asks for, whether it fails or not. -/
lemma store_ofConfig :
    (ofConfig owner config request probe store).store =
      (store.registerAll (asks owner config request probe)).2 := by
  unfold asks
  cases h : task config request with
  | error e => exact (ofConfig_of_refused h).2
  | ok t =>
    obtain ⟨filter, defs⟩ := t
    obtain ⟨r, s, compiled, same, _⟩ := ofConfig_of_task h owner probe store
    have registered := compileAll_store (requestContext config request probe filter) defs
      Table.empty (firstShared owner request probe store) (.refl _)
    rw [compileAll_builds, compiled] at registered
    exact same.trans registered

/-- A plan has what its experiments were compiled to. -/
lemma compileAll_of_made {p : Plan} (h : task config request = .ok (filter, defs))
    (made : (ofConfig owner config request probe store).result = .ok p) :
    ∃ s, compileAll (requestContext config request probe filter) defs Table.empty
        (firstShared owner request probe store) = (.ok p.experiments, s) ∧
      s.store = (ofConfig owner config request probe store).store ∧ s.builds = p.builds := by
  obtain ⟨r, s, compiled, same, outcome⟩ := ofConfig_of_task h owner probe store
  cases outcome with
  | inl failed =>
    obtain ⟨n, _, result⟩ := failed
    cases result.symm.trans made
  | inr done =>
    obtain ⟨table, q, rfl, result, rfl, builds⟩ := done
    cases result.symm.trans made
    exact ⟨s, compiled, same.symm, builds.symm⟩

/-- The table of a plan holds the build steps of the references that were come to. -/
lemma builds_ofConfig {p : Plan} (h : task config request = .ok (filter, defs))
    (made : (ofConfig owner config request probe store).result = .ok p) :
    p.builds = recorded owner config defs := by
  obtain ⟨s, compiled, _, builds⟩ := compileAll_of_made h made
  have recorded := compileAll_builds (requestContext config request probe filter) defs Table.empty
    (firstShared owner request probe store)
  rw [compiled] at recorded
  exact builds.symm.trans recorded

/-- No experiment comes twice in a request. -/
lemma nodup_of_task (h : task config request = .ok (filter, defs)) :
    (defs.map Prod.fst).Nodup := by
  unfold task at h
  split at h
  · cases h
  · split at h
    · cases h
    · rename_i names selected
      cases h
      exact nodup_definitions selected

/-- The experiments of a plan are those of the request, compiled in turn, and what this left in the
store is there in the end. -/
lemma inTurn_of_task {p : Plan} (h : task config request = .ok (filter, defs))
    (made : (ofConfig owner config request probe store).result = .ok p) :
    ∃ s, InTurn (requestContext config request probe filter)
        (firstShared owner request probe store) defs p.experiments.entries s ∧
      s.store = (ofConfig owner config request probe store).store := by
  obtain ⟨s, compiled, same, _⟩ := compileAll_of_made h made
  obtain ⟨xs, inTurn, e⟩ := compileAll_eq_ok.1 compiled
  refine ⟨s, ?_, same⟩
  rw [e]
  show InTurn _ _ _ (Table.ofList xs).entries s
  rw [inTurn.entries (nodup_of_task h)]
  exact inTurn

/-- If there is a plan, no experiment of the request stops. -/
lemma resolved_of_ofConfig {p : Plan} (h : task config request = .ok (filter, defs))
    (made : (ofConfig owner config request probe store).result = .ok p) :
    ∀ e ∈ defs, stop? config.machines config.suites e = none := by
  apply List.findSome?_eq_none_iff.1
  apply Option.eq_none_iff_forall_ne_some.2
  intro n stop
  have failed : failure? config request = some (.dangling n) := by
    simp only [failure?, h, stop, Option.map_some]
  cases made.symm.trans (result_ofConfig_eq_error.2 failed)

end Plan

end BenchPlan
