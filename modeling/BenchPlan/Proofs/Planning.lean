import BenchPlan.Plan
import BenchPlan.Proofs.Compilation

/-!
# Compiling experiments in turn

A plan is made by compiling the selected experiments one after the other, where each goes on with
the store, the build steps and the log that the one before left (`InTurn`). Making a plan succeeds
exactly if this does (`ofConfig_of_inTurn`), and then the plan holds what came of it in the order of
the names, and what was left is what comes of the request (`finished_of_ofConfig`). What every
compilation preserves holds whenever an experiment is compiled (`InTurn.mem`), and what every two
compilations preserve between them relates two runs through the same definitions
(`InTurn.forall₂`).
-/

namespace BenchPlan

namespace Experiment

variable {ctx : Context} {s t : Shared} {name : String} {d : ExperimentDef} {x : Experiment}

/-- Experiments are compiled one after the other, each with what the one before left. -/
inductive InTurn (ctx : Context) :
    Shared → List (String × ExperimentDef) → List (String × Experiment) → Shared → Prop where
  | nil (s : Shared) : InTurn ctx s [] [] s
  | cons {s s' t : Shared} {name : String} {d : ExperimentDef} {x : Experiment}
      {defs : List (String × ExperimentDef)} {xs : List (String × Experiment)}
      (first : compile ctx name d s = (.ok x, s')) (rest : InTurn ctx s' defs xs t) :
      InTurn ctx s ((name, d) :: defs) ((name, x) :: xs) t

namespace InTurn

variable {defs : List (String × ExperimentDef)} {xs : List (String × Experiment)}

/-- The compiled experiments have the names of their definitions. -/
lemma names (h : InTurn ctx s defs xs t) : xs.map Prod.fst = defs.map Prod.fst := by
  induction h with
  | nil => rfl
  | cons _ _ ih => rw [List.map_cons, List.map_cons, ih]

/-- The table of compiled experiments has them in the order in which they were compiled. -/
lemma entries (h : InTurn ctx s defs xs t) (names : (defs.map Prod.fst).Nodup) :
    (Table.ofList xs).entries = xs :=
  Table.entries_ofList (h.names ▸ names)

/-- The table before is an earlier state of the one after. -/
lemma within (h : InTurn ctx s defs xs t) : s.builds.Within t.builds := by
  induction h with
  | nil => exact .refl _
  | @cons s s' t name d x defs xs first _ ih =>
    have within := compile_within ctx name d s
    rw [first] at within
    exact within.trans ih

/-- Every experiment is compiled with something that has all properties which compilations
preserve, and what it recorded is there in the end. -/
lemma mem {P : Shared → Prop} (step : ∀ name d s, P s → P (compile ctx name d s).2)
    (h : InTurn ctx s defs xs t) (start : P s) (m : (name, x) ∈ xs) :
    ∃ d s', (name, d) ∈ defs ∧ P s' ∧ (compile ctx name d s').1 = .ok x ∧
      (compile ctx name d s').2.builds.Within t.builds := by
  induction h with
  | nil => cases m
  | @cons s s' t n d y defs xs first rest ih =>
    cases List.mem_cons.1 m with
    | inl e =>
      cases e
      refine ⟨d, s, List.mem_cons_self, start, ?_, ?_⟩
      · rw [first]
      · rw [first]
        exact rest.within
    | inr m =>
      have next := step n d s start
      rw [first] at next
      obtain ⟨d', s', mem, holds, result⟩ := ih next m
      exact ⟨d', s', List.mem_cons_of_mem _ mem, holds, result⟩

/-- Two runs through the same definitions compile related experiments if compilations keep their
states related and give related experiments when they start in related states. -/
lemma forall₂ {ctx' : Context} {P : Shared → Shared → Prop} {R : Experiment → Experiment → Prop}
    (step : ∀ name d s s', P s s' → P (compile ctx name d s).2 (compile ctx' name d s').2)
    (related : ∀ name d s s' x y, P s s' → (compile ctx name d s).1 = .ok x →
      (compile ctx' name d s').1 = .ok y → R x y)
    (h : InTurn ctx s defs xs t) {s' t' : Shared} {ys : List (String × Experiment)}
    (h' : InTurn ctx' s' defs ys t') (start : P s s') :
    List.Forall₂ (fun e e' => e.1 = e'.1 ∧ R e.2 e'.2) xs ys := by
  induction h generalizing s' ys with
  | nil =>
    cases h'
    exact .nil
  | @cons s u t name d x defs xs first _ ih =>
    cases h' with
    | @cons _ u' _ _ _ y _ ys first' rest' =>
      have head := related name d s s' x y start (congrArg Prod.fst first)
        (congrArg Prod.fst first')
      have next := step name d s s' start
      rw [first, first'] at next
      exact .cons ⟨rfl, head⟩ (ih rest' next)

end InTurn

end Experiment

namespace Plan

open Experiment

variable {ctx : Context} {s t : Shared}

/-- All experiments compile exactly if they do in turn, and then they are added in this order. -/
lemma compileAll_eq_ok {defs : List (String × ExperimentDef)} {done table : Table Experiment} :
    compileAll ctx defs done s = (.ok table, t) ↔
      ∃ xs, InTurn ctx s defs xs t ∧ table = xs.foldl (fun t e => t.insert e.1 e.2) done := by
  constructor
  · intro h
    induction defs generalizing done s with
    | nil =>
      cases h
      exact ⟨[], .nil _, rfl⟩
    | cons e rest ih =>
      obtain ⟨name, d⟩ := e
      rw [compileAll] at h
      split at h
      · cases h
      · rename_i x s' first
        obtain ⟨xs, inTurn, rfl⟩ := ih h
        exact ⟨(name, x) :: xs, .cons first inTurn, rfl⟩
  · rintro ⟨xs, h, rfl⟩
    induction h generalizing done with
    | nil => rfl
    | cons first _ ih =>
      rw [compileAll, first]
      exact ih

section definitions

variable {c : Config} {names : List String} {name : String} {d : ExperimentDef}

/-- The definitions of names are those of the names that have one. -/
lemma mem_definitions :
    (name, d) ∈ definitions c names ↔ name ∈ names ∧ c.experiments.get? name = some d := by
  simp only [definitions, List.mem_filterMap, Option.map_eq_some_iff, Prod.mk.injEq]
  constructor
  · rintro ⟨n, m, d', defined, rfl, rfl⟩
    exact ⟨m, defined⟩
  · rintro ⟨m, defined⟩
    exact ⟨name, m, d, defined, rfl, rfl⟩

/-- Definitions come in the order of the names, those without a definition left out. -/
lemma map_fst_definitions (c : Config) (names : List String) :
    (definitions c names).map Prod.fst = names.filter c.experiments.contains := by
  induction names with
  | nil => rfl
  | cons n rest ih =>
    cases h : c.experiments.get? n with
    | none =>
      have absent : c.experiments.contains n = false := by simp [Table.contains, h]
      rw [List.filter_cons_of_neg (by simp [absent]), ← ih]
      simp [definitions, h]
    | some d =>
      have present : c.experiments.contains n = true := Table.contains_of_get? h
      rw [List.filter_cons_of_pos present, ← ih]
      simp [definitions, h]

/-- The definition of a name that has one. -/
lemma definitions_one (h : c.experiments.get? name = some d) :
    definitions c [name] = [(name, d)] := by
  simp [definitions, h]

/-- No experiment is selected twice. -/
lemma nodup_of_select {requested : Option String} (h : select c requested = .ok names) :
    names.Nodup := by
  unfold select at h
  split at h
  · cases h
  · split at h
    · cases h
      exact c.experiments.nodup
    · split at h
      · cases h
        exact List.nodup_cons.2 ⟨List.not_mem_nil, List.nodup_nil⟩
      · cases h

/-- No experiment is defined twice among those selected. -/
lemma nodup_definitions {requested : Option String} (h : select c requested = .ok names) :
    ((definitions c names).map Prod.fst).Nodup := by
  rw [map_fst_definitions]
  exact (nodup_of_select h).filter _

/-- A name that is asked for stands for itself unless it is empty. -/
lemma resolveName_some (c : Config) (h : name ≠ "") : resolveName c (some name) = .ok name := by
  have given : nonEmpty (some name) = some name := by simp [nonEmpty, h]
  rw [resolveName, given, Option.some_or, given]

/-- All experiments are selected by the name that stands for them. -/
lemma select_all (c : Config) : select c (some allExperiments) = .ok c.experiments.keys := by
  rw [select, resolveName_some c (by decide)]
  exact if_pos rfl

/-- One experiment is selected by its name. -/
lemma select_one (defined : c.experiments.contains name = true) (nonempty : name ≠ "")
    (other : name ≠ allExperiments) : select c (some name) = .ok [name] := by
  rw [select, resolveName_some c nonempty]
  exact (if_neg other).trans (if_pos defined)

end definitions

/-- What the experiments of a request are compiled with. -/
def requestContext (config : Config) (request : PlanRequest) (probe : Probe) (filter : Filter) :
    Context :=
  context (withDataFile config request.dataFile) (Options.process request.options probe).options
    request.reporter filter

/-- What the first experiment of a request is compiled with. -/
def firstShared (owner : Nat) (request : PlanRequest) (probe : Probe) (store : RunStore) :
    Shared :=
  ⟨store, BuildTable.empty owner, (Options.process request.options probe).log⟩

variable {owner : Nat} {config : Config} {request : PlanRequest} {probe : Probe}
  {store : RunStore} {filter : Filter} {names : List String}

/-- If there is a plan, its experiments are the selected ones, compiled in turn, and what this left
is what comes of the request, with a line in the log. -/
lemma finished_of_ofConfig {p : Plan}
    (h : (ofConfig owner config request probe store).result = .ok p) :
    ∃ names s, Filter.parse request.filters = .ok p.filter ∧
      select (withDataFile config request.dataFile) request.experiment = .ok names ∧
      InTurn (requestContext config request probe p.filter) (firstShared owner request probe store)
        (definitions (withDataFile config request.dataFile) names) p.experiments.entries s ∧
      s.builds = p.builds ∧
      (ofConfig owner config request probe store).store = s.store ∧
      (ofConfig owner config request probe store).log =
        s.log ++ [compiledLine p.experiments.size p.builds.size] := by
  dsimp only [ofConfig] at h
  split at h
  · cases h
  · rename_i filter parsed
    split at h
    · cases h
    · rename_i names selected
      split at h
      · cases h
      · rename_i table s compiled
        cases h
        obtain ⟨xs, inTurn, rfl⟩ := compileAll_eq_ok.1 compiled
        refine ⟨names, s, parsed, selected, ?_, rfl, ?_, ?_⟩
        · show InTurn _ _ _ (Table.ofList xs).entries s
          rw [inTurn.entries (nodup_definitions selected)]
          exact inTurn
        · simp only [ofConfig, parsed, selected, compiled]
        · simp only [ofConfig, parsed, selected, compiled]

/-- A plan is made by compiling the experiments that are selected in turn. -/
lemma inTurn_of_ofConfig {p : Plan}
    (h : (ofConfig owner config request probe store).result = .ok p) :
    ∃ names s, Filter.parse request.filters = .ok p.filter ∧
      select (withDataFile config request.dataFile) request.experiment = .ok names ∧
      InTurn (requestContext config request probe p.filter) (firstShared owner request probe store)
        (definitions (withDataFile config request.dataFile) names) p.experiments.entries s ∧
      s.builds = p.builds := by
  obtain ⟨names, s, parsed, selected, inTurn, builds, _⟩ := finished_of_ofConfig h
  exact ⟨names, s, parsed, selected, inTurn, builds⟩

/-- The experiments of a plan are those of the selected names that are defined. -/
lemma keys_of_ofConfig {p : Plan} (h : (ofConfig owner config request probe store).result = .ok p)
    (selected : select (withDataFile config request.dataFile) request.experiment = .ok names) :
    p.experiments.keys = names.filter config.experiments.contains := by
  obtain ⟨names', s, _, selected', inTurn, _⟩ := inTurn_of_ofConfig h
  cases selected.symm.trans selected'
  exact inTurn.names.trans (map_fst_definitions _ _)

/-- If the selected experiments compile in turn, there is a plan. -/
lemma ofConfig_of_inTurn {xs : List (String × Experiment)} {s : Shared}
    (parsed : Filter.parse request.filters = .ok filter)
    (selected : select (withDataFile config request.dataFile) request.experiment = .ok names)
    (h : InTurn (requestContext config request probe filter) (firstShared owner request probe store)
      (definitions (withDataFile config request.dataFile) names) xs s) :
    ∃ p, (ofConfig owner config request probe store).result = .ok p := by
  have compiled : compileAll _ _ Table.empty _ = (.ok (Table.ofList xs), s) :=
    compileAll_eq_ok.2 ⟨xs, h, rfl⟩
  rw [requestContext, firstShared] at compiled
  simp only [ofConfig, parsed, selected, compiled]
  exact ⟨_, rfl⟩

end Plan

end BenchPlan
