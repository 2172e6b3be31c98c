import BenchPlan.Proofs.Reach

/-!
# Where a request stops

The experiments of a request are gone through in the order of the document, and in each of them its
references in their order. Laid out one after the other they are the `mentions` of the request, and
what becomes of it can be read off this one list: it fails exactly if something is mentioned that is
not defined (`find?_mentions`), and it registers the runs of what is mentioned before
(`asked_eq_mentions`). So a request that fails names the first mention of something that is not
defined, and leaves the store with the runs that were asked for until then (`ofConfig_stops`).
-/

namespace BenchPlan

open Experiment BuildTable

/-- A reference, with the experiment that it occurs in. -/
structure Mention where
  experiment : String
  definition : ExperimentDef
  reference : Reference

namespace Mention

/-- Whether what is mentioned is defined. -/
def resolves (machines : Table MachineDef) (suites : Table SuiteDef) (m : Mention) : Bool :=
  m.reference.resolves machines suites

/-- The mention as a dangling name. -/
def dangling (m : Mention) : DanglingName := m.reference.dangling m.experiment

/-- The runs of the admitted slots that a mention leads to, with the objects of a table. -/
def runs (ctx : Context) (t : BuildTable) (m : Mention) : List Run :=
  Walk.runsOf ctx (settingsOf ctx m.definition) t (m.reference.slots ctx.machines ctx.suites)

end Mention

/-- What experiments mention, in their order and in the order of their references. -/
def mentions (defs : List (String × ExperimentDef)) : List Mention :=
  defs.flatMap fun e => e.2.references.map (Mention.mk e.1 e.2)

/-- To go through experiments stops at the first mention of something that is not defined. -/
structure StopsAt (machines : Table MachineDef) (suites : Table SuiteDef)
    (defs : List (String × ExperimentDef)) (before : List Mention) (m : Mention) : Prop where
  split : ∃ after, mentions defs = before ++ m :: after
  resolved : ∀ b ∈ before, b.resolves machines suites = true
  unresolved : m.resolves machines suites = false

/-- The build steps of what is mentioned, recorded in turn. -/
def recordedFor (owner : Nat) (config : Config) (ms : List Mention) : BuildTable :=
  (BuildTable.empty owner).recordAll
    (Reference.buildSteps config.machines config.suites (ms.map (·.reference)))

section mentions

variable {machines : Table MachineDef} {suites : Table SuiteDef} {ctx : Context}

/-- What the first experiment mentions comes before what the others mention. -/
lemma mentions_cons (e : String × ExperimentDef) (rest : List (String × ExperimentDef)) :
    mentions (e :: rest) = e.2.references.map (Mention.mk e.1 e.2) ++ mentions rest :=
  List.flatMap_cons

/-- The first mention of something that is not defined is where an experiment stops first. -/
lemma find?_mentions (defs : List (String × ExperimentDef)) :
    ((mentions defs).find? fun m => !m.resolves machines suites).map Mention.dangling =
      defs.findSome? (stop? machines suites) := by
  induction defs with
  | nil => rfl
  | cons e rest ih =>
    have first : ((e.2.references.map (Mention.mk e.1 e.2)).find?
        fun m => !m.resolves machines suites).map Mention.dangling = stop? machines suites e := by
      rw [List.find?_map, Option.map_map]
      rfl
    rw [mentions_cons, List.find?_append, Option.map_or, ih, first, List.findSome?_cons]
    cases stop? machines suites e <;> rfl

/-- An experiment that stops has a reference that is not come to. -/
lemma length_settled_ne {e : String × ExperimentDef} {n : DanglingName}
    (stop : stop? machines suites e = some n) :
    (Reference.settled machines suites e.2.references).length ≠ e.2.references.length := by
  intro same
  have all : Reference.settled machines suites e.2.references = e.2.references :=
    (List.takeWhile_prefix _).eq_of_length same
  obtain ⟨r, dangling, _⟩ := Option.map_eq_some_iff.1 stop
  have settled : r ∈ Reference.settled machines suites e.2.references := by
    rw [all]
    exact List.mem_of_find?_eq_some dangling
  have unresolved := List.find?_some dangling
  simp [List.all_eq_true.1 List.all_takeWhile r settled] at unresolved

/-- What is mentioned before that are the references that are come to. -/
lemma takeWhile_mentions (defs : List (String × ExperimentDef)) :
    (mentions defs).takeWhile (Mention.resolves machines suites) =
      (reached machines suites defs).flatMap fun e =>
        (Reference.settled machines suites e.2.references).map (Mention.mk e.1 e.2) := by
  induction defs with
  | nil => rfl
  | cons e rest ih =>
    have first : (e.2.references.map (Mention.mk e.1 e.2)).takeWhile
        (Mention.resolves machines suites) =
          (Reference.settled machines suites e.2.references).map (Mention.mk e.1 e.2) := by
      rw [List.takeWhile_map]
      rfl
    rw [mentions_cons, List.takeWhile_append, first, List.length_map, List.length_map]
    cases stop : stop? machines suites e with
    | none =>
      have all := Reference.settled_eq (stop?_eq_none.1 stop)
      rw [reached_of_resolved stop, List.flatMap_cons, all, if_pos rfl, ih]
    | some n =>
      rw [reached_of_stop stop, if_neg (length_settled_ne stop), List.flatMap_singleton]

/-- The runs of slots from several references are those of each reference in turn. -/
lemma runsOf_flatMap (ctx : Context) (settings : RunSettings) (t : BuildTable)
    (refs : List Reference) (f : Reference → List Slot) :
    Walk.runsOf ctx settings t (refs.flatMap f) =
      refs.flatMap fun r => Walk.runsOf ctx settings t (f r) := by
  simp only [Walk.runsOf, Slot.admitted, List.filter_flatMap, List.map_flatMap]

/-- The runs that are asked for are those of what is mentioned before. -/
lemma asked_eq_mentions (ctx : Context) (t : BuildTable) (defs : List (String × ExperimentDef)) :
    asked ctx t defs = ((mentions defs).takeWhile (Mention.resolves ctx.machines ctx.suites)).flatMap
      (Mention.runs ctx t) := by
  rw [takeWhile_mentions, List.flatMap_assoc, asked]
  congr 1
  funext e
  rw [met, runsOf_flatMap, List.flatMap_map]
  rfl

/-- The references that are come to are those of what is mentioned before. -/
lemma visited_eq_mentions (defs : List (String × ExperimentDef)) :
    visited machines suites defs =
      ((mentions defs).takeWhile (Mention.resolves machines suites)).map (·.reference) := by
  rw [takeWhile_mentions, List.map_flatMap, visited]
  congr 1
  funext e
  rw [List.map_map]
  exact (List.map_id _).symm

section StopsAt

variable {defs : List (String × ExperimentDef)} {before : List Mention} {m : Mention}

/-- What is mentioned before the stop. -/
lemma StopsAt.takeWhile_eq (h : StopsAt machines suites defs before m) :
    (mentions defs).takeWhile (Mention.resolves machines suites) = before := by
  obtain ⟨after, split⟩ := h.split
  rw [split, List.takeWhile_append_of_pos h.resolved,
    List.takeWhile_cons_of_neg (by simp [h.unresolved]), List.append_nil]

/-- A search for something that is not defined finds where it stops. -/
lemma find?_eq_some_iff_stopsAt :
    (mentions defs).find? (fun m => !m.resolves machines suites) = some m ↔
      ∃ before, StopsAt machines suites defs before m := by
  rw [List.find?_eq_some_iff_append]
  simp only [Bool.not_eq_true', Bool.not_eq_false']
  constructor
  · rintro ⟨unresolved, before, after, split, resolved⟩
    exact ⟨before, ⟨after, split⟩, resolved, unresolved⟩
  · rintro ⟨before, ⟨after, split⟩, resolved, unresolved⟩
    exact ⟨unresolved, before, after, split, resolved⟩

end StopsAt

end mentions

namespace Plan

variable {owner : Nat} {config : Config} {request : PlanRequest} {probe : Probe} {store : RunStore}
  {filter : Filter} {defs : List (String × ExperimentDef)} {before : List Mention} {m : Mention}

/-- Why a request that is not refused fails: for the first mention of something not defined. -/
lemma failure?_eq_mentions (h : task config request = .ok (filter, defs)) :
    failure? config request =
      ((mentions defs).find? fun m => !m.resolves config.machines config.suites).map
        fun m => .dangling m.dangling := by
  simp only [failure?, h, ← find?_mentions, Option.map_map]
  rfl

/-- The runs that a request asks for are those of what is mentioned before it stops. -/
lemma asks_of_stopsAt (h : task config request = .ok (filter, defs))
    (stops : StopsAt config.machines config.suites defs before m) :
    asks owner config request probe =
      before.flatMap (Mention.runs (requestContext config request probe filter)
        (recordedFor owner config before)) := by
  have table : recorded owner config defs = recordedFor owner config before := by
    rw [recorded, visited_eq_mentions, stops.takeWhile_eq, recordedFor]
  simp only [asks, h]
  rw [asked_eq_mentions, table]
  exact congrArg (List.flatMap _) stops.takeWhile_eq

/-- What a failing request reports and leaves behind. For whatever configuration, with references
that lead nowhere or not, a request with a well-formed filter and a selection that is known fails
exactly if one of the selected experiments mentions something that is not defined. Whatever the
filter, it then reports the first such mention in the order of the experiments and of the references
in each, a machine before its suites. The store holds what it held and, for each key that is new,
the first run with this key among those of the admitted slots that are mentioned before, in whatever
experiment. -/
theorem ofConfig_stops {names : List String} (parsed : Filter.parse request.filters = .ok filter)
    (selected : select config request.experiment = .ok names) (owner : Nat) (probe : Probe)
    (store : RunStore) :
    ((∃ e, (ofConfig owner config request probe store).result = .error e) ↔
      ∃ m ∈ mentions (definitions config names),
        m.resolves config.machines config.suites = false) ∧
    (∀ e, (ofConfig owner config request probe store).result = .error e ↔
      ∃ before m, StopsAt config.machines config.suites (definitions config names) before m ∧
        e = .dangling m.dangling) ∧
    ∀ before m, StopsAt config.machines config.suites (definitions config names) before m →
      (ofConfig owner config request probe store).store.runs = store.runs ++
        firsts Run.key ((before.flatMap (Mention.runs (requestContext config request probe filter)
          (recordedFor owner config before))).filter fun r => store.find? r.key = none) := by
  have h : task config request = .ok (filter, definitions config names) :=
    task_of_select parsed selected
  refine ⟨?_, ?_, ?_⟩
  · simp only [result_ofConfig_eq_error, failure?_eq_mentions h]
    rw [← Option.isSome_iff_exists, Option.isSome_map, List.find?_isSome]
    simp
  · intro e
    rw [result_ofConfig_eq_error, failure?_eq_mentions h, Option.map_eq_some_iff]
    simp only [find?_eq_some_iff_stopsAt]
    constructor
    · rintro ⟨m, ⟨before, stops⟩, rfl⟩
      exact ⟨before, m, stops, rfl⟩
    · rintro ⟨before, m, stops, rfl⟩
      exact ⟨m, ⟨before, stops⟩, rfl⟩
  · intro before m stops
    rw [store_ofConfig, asks_of_stopsAt h stops, RunStore.runs_registerAll]

/-- A configuration whose second experiment has settings of its own and names a suite that is not
defined, after one that is and before a machine that is not. -/
def demoStopping : Config :=
  { demoConfig with
    experiments := Table.ofList
      [("D", demoExperiment),
        ("E", { demoExperiment with
          runs := some { RunSettings.Override.empty with invocations := some 7 }
          executions := [.machine "W", .detailed (Table.ofList [("V", ⟨some ["S", "Gone"]⟩)]),
            .machine "Lost"] })] }

/-- A request for all experiments, on one machine only. -/
def demoStoppingRequest : PlanRequest := ⟨none, none, some allExperiments, none, ["vm:W"]⟩

/-- The suite is reported that is not defined, though the filter admits nothing on its machine. The
store holds the run that it held, those of the first experiment and those of the second with its own
settings, since they come before. -/
theorem ofConfig_stops_demo :
    (∃ before m,
      StopsAt demoStopping.machines demoStopping.suites
        (definitions demoStopping ["D", "E"]) before m ∧ before.length = 13) ∧
    (ofConfig 0 demoStopping demoStoppingRequest (.fixed true) demoShared.store).result =
      .error (.dangling (.suite "E" "Gone")) ∧
    (ofConfig 0 demoStopping demoStoppingRequest (.fixed true) demoShared.store).store.runs.map
        (fun r => (r.benchmark.machine.name, r.benchmark.name, r.settings.invocations)) =
      [("V", "B", 1), ("W", "A", 1), ("W", "B", 1), ("W", "A", 7), ("W", "B", 7)] := by
  have outcome := @ofConfig_stops demoStopping demoStoppingRequest ⟨[.machine "W"], []⟩ ["D", "E"]
    rfl rfl 0 (.fixed true) demoShared.store
  have stops : StopsAt demoStopping.machines demoStopping.suites
      (definitions demoStopping ["D", "E"])
      ((mentions (definitions demoStopping ["D", "E"])).take 13)
      ⟨"E", _, .suite "V" "Gone"⟩ :=
    ⟨⟨_, rfl⟩, by decide, rfl⟩
  refine ⟨⟨_, _, stops, rfl⟩, (outcome.2.1 _).2 ⟨_, _, stops, rfl⟩, ?_⟩
  rw [outcome.2.2 _ _ stops]
  rfl

end Plan

end BenchPlan
