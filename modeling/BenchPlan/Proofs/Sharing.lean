import BenchPlan.Proofs.Outcome
import BenchPlan.Proofs.Provenance
import Mathlib.Data.Finset.Card

/-!
# Sharing runs over a session

A session is a list of requests that are carried out one after the other with one store, whatever
they ask for and whether they succeed or not. What one request does to the store is to register what
it asks for, so what a session does is to register all of that in turn (`store_append`). From this
it is known at every point what the store holds: the first run of each key that was asked for
(`store_runs`). An object that was handed out is an object of the store ever after
(`find?_of_handedOut`), which makes the objects of a session known by the keys of their runs
(`session_shared`).
-/

namespace BenchPlan

/-- Two runs are equal in all that tells runs apart. An empty text of extra arguments is not the
absence of one. -/
structure Run.Alike (r r' : Run) : Prop where
  machine : r.benchmark.machine.name = r'.benchmark.machine.name
  suite : r.benchmark.suite.name = r'.benchmark.suite.name
  benchmark : r.benchmark.name = r'.benchmark.name
  extraArgs : r.benchmark.extraArgs = r'.benchmark.extraArgs
  settings : r.settings = r'.settings

/-- Runs are alike if they have the same key. -/
lemma Run.alike_iff {r r' : Run} : r.Alike r' ↔ r.key = r'.key := by
  constructor
  · rintro ⟨machine, suite, benchmark, extraArgs, settings⟩
    rw [key, key, machine, suite, benchmark, extraArgs, settings]
  · intro e
    obtain ⟨machine, suite, benchmark, extraArgs, settings⟩ := RunKey.mk.inj e
    exact ⟨machine, suite, benchmark, extraArgs, settings⟩

namespace Experiment

variable {ctx : Context} {s t : Shared} {defs : List (String × ExperimentDef)}
  {xs : List (String × Experiment)} {name : String} {x : Experiment}

/-- Compiling an experiment keeps the objects of the store. -/
lemma find?_compile {k : RunKey} {o : SharedRun} (d : ExperimentDef)
    (h : s.store.find? k = some o) : (compile ctx name d s).2.store.find? k = some o := by
  rw [compile_store ctx name d s (.refl _)]
  exact RunStore.find?_registerAll_old h _

/-- Compiling experiments in turn keeps the objects of the store. -/
lemma InTurn.find? {k : RunKey} {o : SharedRun} (h : InTurn ctx s defs xs t)
    (held : s.store.find? k = some o) : t.store.find? k = some o := by
  induction h with
  | nil => exact held
  | @cons s s' t name d x defs xs first _ ih =>
    have kept := @find?_compile ctx s name k o d held
    rw [first] at kept
    exact ih kept

/-- What an experiment lists is what the store holds when all are compiled. -/
lemma InTurn.find?_of_mem (h : InTurn ctx s defs xs t) (m : (name, x) ∈ xs) {o : SharedRun}
    (listed : o ∈ x.runs) : t.store.find? o.run.key = some o := by
  induction h with
  | nil => cases m
  | @cons s s' t n d y defs xs first rest ih =>
    cases List.mem_cons.1 m with
    | inl e =>
      cases e
      have held := find?_of_compile (congrArg Prod.fst first) listed
      rw [first] at held
      exact rest.find? held
    | inr m => exact ih m

end Experiment

open Experiment

namespace Plan

variable {owner : Nat} {config : Config} {request : PlanRequest} {probe : Probe}
  {store : RunStore} {p : Plan} {name : String} {x : Experiment} {o : SharedRun}

/-- What an experiment of a plan lists is what the store holds when the plan is made. -/
lemma find?_of_ofConfig (made : (ofConfig owner config request probe store).result = .ok p)
    (compiled : p.experiment? name = some x) (listed : o ∈ x.runs) :
    (ofConfig owner config request probe store).store.find? o.run.key = some o := by
  obtain ⟨names, _, parsed, selected, _⟩ := inTurn_of_ofConfig made
  obtain ⟨s, inTurn, same⟩ := inTurn_of_task (task_of_select parsed selected) made
  rw [← same]
  exact inTurn.find?_of_mem ((Table.get?_eq_some_iff _).1 compiled) listed

end Plan

/-- What a plan is made of: a configuration, or what is found where its file should be. -/
inductive Source where
  | config (config : Config)
  | file (path : String) (content : FileContent)

/-- A request in a session, with the answer of the probe and the owner of its build steps. -/
structure Call where
  owner : Nat
  source : Source
  request : PlanRequest
  probe : Probe

namespace Call

/-- What comes of a request with a store. -/
def outcome (c : Call) (s : RunStore) : Plan.Outcome :=
  match c.source with
  | .config config => Plan.ofConfig c.owner config c.request c.probe s
  | .file path content => Plan.ofFile c.owner path content c.request c.probe s

/-- The runs that a request asks for in order. -/
def asks (c : Call) : List Run :=
  match c.source with
  | .config config => Plan.asks c.owner config c.request c.probe
  | .file _ content =>
    match Config.load content with
    | .error _ => []
    | .ok config => Plan.asks c.owner config c.request c.probe

variable {c : Call} {s : RunStore} {p : Plan} {name : String} {x : Experiment} {o : SharedRun}

/-- A request registers the runs that it asks for. -/
lemma outcome_store (c : Call) (s : RunStore) :
    (c.outcome s).store = (s.registerAll c.asks).2 := by
  unfold outcome asks
  cases c.source with
  | config config => exact Plan.store_ofConfig
  | file path content =>
    dsimp only
    unfold Plan.ofFile
    cases Config.load content with
    | error e => rfl
    | ok config => exact Plan.store_ofConfig

/-- What a plan lists is what the store holds for its key. -/
lemma find?_of_outcome (made : (c.outcome s).result = .ok p)
    (compiled : p.experiment? name = some x) (listed : o ∈ x.runs) :
    (c.outcome s).store.find? o.run.key = some o := by
  unfold outcome at made ⊢
  cases source : c.source with
  | config config =>
    rw [source] at made
    exact Plan.find?_of_ofConfig made compiled listed
  | file path content =>
    rw [source] at made
    dsimp only at made ⊢
    unfold Plan.ofFile at made ⊢
    split at made
    · cases made
    · exact Plan.find?_of_ofConfig made compiled listed

end Call

namespace Session

/-- The store after requests that were carried out in turn, nothing being registered before. -/
def store (calls : List Call) : RunStore := calls.foldl (fun s c => (c.outcome s).store) .empty

/-- The runs that were asked for, each as its slot defines it. -/
def registered (calls : List Call) : List Run := calls.flatMap Call.asks

/-- An object is listed by an experiment of a plan that came of one of the requests. -/
def HandedOut (calls : List Call) (o : SharedRun) : Prop :=
  ∃ before c after p name x, calls = before ++ c :: after ∧
    (c.outcome (store before)).result = .ok p ∧ p.experiment? name = some x ∧ o ∈ x.runs

variable {calls more : List Call} {o o' : SharedRun}

/-- One more request is carried out last. -/
lemma store_concat (calls : List Call) (c : Call) :
    store (calls ++ [c]) = (c.outcome (store calls)).store := by
  rw [store, List.foldl_concat]
  rfl

/-- Further requests register what they ask for. -/
lemma store_append (calls more : List Call) :
    store (calls ++ more) = ((store calls).registerAll (registered more)).2 := by
  induction more generalizing calls with
  | nil => simp [registered, RunStore.registerAll]
  | cons c rest ih =>
    -- the first of them is one step, and the others go on from there
    have next := ih (calls ++ [c])
    rw [store_concat, c.outcome_store, List.append_assoc] at next
    rw [show calls ++ c :: rest = calls ++ ([c] ++ rest) from rfl, next, registered, registered,
      List.flatMap_cons, RunStore.registerAll_append]

/-- A session registers what its requests ask for. -/
lemma store_eq (calls : List Call) :
    store calls = (RunStore.empty.registerAll (registered calls)).2 := by
  have all := store_append [] calls
  rwa [List.nil_append] at all

/-- The store holds the first run of each key that was asked for. -/
lemma store_runs (calls : List Call) :
    (store calls).runs = firsts Run.key (registered calls) := by
  have new : ∀ r ∈ registered calls, decide (RunStore.empty.find? r.key = none) = true :=
    fun _ _ => rfl
  rw [store_eq, RunStore.runs_registerAll, List.filter_eq_self.2 new]
  exact List.nil_append _

/-- What was handed out is held for its key ever after. -/
lemma find?_of_handedOut (h : HandedOut calls o) : (store calls).find? o.run.key = some o := by
  obtain ⟨before, c, after, p, name, x, rfl, made, compiled, listed⟩ := h
  have held := c.find?_of_outcome made compiled listed
  -- the request left it in the store, and those after it keep it there
  rw [show before ++ c :: after = before ++ [c] ++ after by simp, store_append, store_concat]
  exact RunStore.find?_registerAll_old held _

/-- No two objects of the store are alike. -/
lemma pairwise_store (calls : List Call) :
    (store calls).objects.Pairwise fun o o' => ¬ o.run.Alike o'.run := by
  have runs := pairwise_firsts Run.key (registered calls)
  rw [← store_runs, ← RunStore.map_run_objects, List.pairwise_map] at runs
  refine runs.imp ?_
  intro o o' other
  rwa [Run.alike_iff]

/-- The store has as many runs as keys were asked for. -/
lemma size_store (calls : List Call) :
    (store calls).size = ((registered calls).map Run.key).toFinset.card := by
  have keys : ((firsts Run.key (registered calls)).map Run.key).Nodup :=
    List.pairwise_map.2 (pairwise_firsts _ _)
  have same : ((firsts Run.key (registered calls)).map Run.key).toFinset =
      ((registered calls).map Run.key).toFinset := by
    ext k
    simp only [List.mem_toFinset, List.mem_map]
    constructor
    · rintro ⟨r, m, rfl⟩
      exact ⟨r, mem_of_mem_firsts m, rfl⟩
    · rintro ⟨r, m, rfl⟩
      exact exists_mem_firsts m
  rw [← same, List.toFinset_card_of_nodup keys, List.length_map, RunStore.size, store_runs]

/-- An object that was handed out is for the first run with its key that was asked for. -/
lemma first_of_handedOut (h : HandedOut calls o) :
    (registered calls).find? (fun r => r.key == o.run.key) = some o.run := by
  have held := RunStore.mem_of_find? (find?_of_handedOut h)
  rw [store_runs] at held
  exact mem_firsts.1 held

/-- Objects that were handed out for equal runs are one object. -/
lemma eq_of_handedOut (h : HandedOut calls o) (h' : HandedOut calls o')
    (e : o.run.key = o'.run.key) : o = o' := by
  have held := find?_of_handedOut h
  rw [e, find?_of_handedOut h'] at held
  exact (Option.some.inj held).symm

/-- Runs are shared over a session. Whatever is asked for, with success or without, and wherever one
stops to look: the store is what comes of registering the runs of the slots in turn. No two of its
objects are equal runs, no object is ever removed or changed, and there are as many as keys were
asked for. What was handed out is an object of the store, and for the first run with its key that
was asked for; two of these are one object exactly if they are equal runs. -/
theorem session_shared (calls more : List Call) :
    store calls = (RunStore.empty.registerAll (registered calls)).2 ∧
    ((store calls).objects.Pairwise fun o o' => ¬ o.run.Alike o'.run) ∧
    (store calls).objects <+: (store (calls ++ more)).objects ∧
    (store calls).size = ((registered calls).map Run.key).toFinset.card ∧
    ((store calls).isEmpty = true ↔ (store calls).size = 0) ∧
    ∀ o, HandedOut calls o →
      o ∈ (store calls).objects ∧
      (registered calls).find? (fun r => r.same o.run) = some o.run ∧
      ∀ o', HandedOut calls o' →
        (o = o' ↔ o.run.Alike o'.run) ∧ (o.position = o'.position ↔ o = o') := by
  refine ⟨store_eq calls, ?_, ?_, size_store calls, ?_, ?_⟩
  · exact pairwise_store calls
  · rw [store_append]
    exact RunStore.objects_registerAll _ _
  · rw [RunStore.isEmpty, List.isEmpty_iff, RunStore.size, List.length_eq_zero_iff]
  · intro o h
    refine ⟨List.mem_of_find?_eq_some (find?_of_handedOut h), first_of_handedOut h, ?_⟩
    intro o' h'
    constructor
    · rw [Run.alike_iff]
      exact ⟨fun e => e ▸ rfl, eq_of_handedOut h h'⟩
    · exact ⟨RunStore.eq_of_position (find?_of_handedOut h) (find?_of_handedOut h'),
        congrArg SharedRun.position⟩

/-- A configuration that defines the suite of the demonstration otherwise, and an experiment on a
machine that is not defined. -/
def demoStale : Config :=
  { demoConfig with
    suites := Table.ofList [("S", { demoSuite with command := "stale" })]
    experiments := Table.ofList
      [("D", demoExperiment), ("F", { demoExperiment with executions := [.machine "X"] })] }

/-- All experiments are asked for, first of a file that is missing, then of the stale configuration
and at last of the one of the demonstration. -/
def demoCalls : List Call :=
  [.file "config.yml" .missing, .config demoStale, .config demoConfig].map fun source =>
    ⟨0, source, Plan.demoRequest, .fixed true⟩

/-- The second request fails but leaves its runs, of which one is handed out to both experiments of
the third. There are four objects for the 45 slots. -/
theorem session_shared_demo : ∃ n o o',
    (store (demoCalls.take 1)).size = 0 ∧
    (Call.outcome ⟨0, .config demoStale, Plan.demoRequest, .fixed true⟩
      (store (demoCalls.take 1))).result = .error (.dangling n) ∧
    HandedOut demoCalls o ∧ HandedOut demoCalls o' ∧ o = o' ∧
    o.run.benchmark.template = "stale" ∧ o ∈ (store demoCalls).objects ∧
    (registered demoCalls).find? (fun r => r.same o.run) = some o.run ∧
    ((registered demoCalls).map Run.key).toFinset.card = 4 := by
  have left : HandedOut demoCalls _ :=
    ⟨demoCalls.take 2, _, [], _, "D", _, rfl, rfl, rfl, List.mem_of_getElem? (i := 0) rfl⟩
  have right : HandedOut demoCalls _ :=
    ⟨demoCalls.take 2, _, [], _, "E", _, rfl, rfl, rfl, List.mem_of_getElem? (i := 0) rfl⟩
  obtain ⟨_, _, _, size, _, shared⟩ := session_shared demoCalls []
  obtain ⟨held, first, same⟩ := shared _ left
  obtain ⟨one, _⟩ := same _ right
  exact ⟨_, _, _, rfl, rfl, left, right, one.2 ⟨rfl, rfl, rfl, rfl, rfl⟩, rfl, held, first,
    size.symm⟩

end Session

end BenchPlan
