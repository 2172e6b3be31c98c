import BenchPlan.Proofs.Filtering
import Mathlib.Data.Finset.Card

/-!
# What a plan builds

The table of a plan holds the build steps that its experiments need and no others: those of the
machines that their executions name and of the suites that these run, whatever is kept out by a
filter (`mem_needed`, `steps_eq_firsts`). Each is recorded once, when it is first come to, and at
that moment a line is logged, so that the traces in the log are the steps of the table in order
(`traces_of_ofConfig`). With an empty store every build step that a run of the plan holds is an
object of the table (`mem_objects_of_holds`), and then one step is one object.
-/

namespace BenchPlan

open BuildTable Experiment Slot

namespace BuildTable

/-- The recorded steps as they are handed out. -/
def objects (t : BuildTable) : List SharedBuild := t.steps.mapIdx fun i s => ⟨t.owner, i, s⟩

/-- The objects of a table are its steps with their positions. -/
lemma mem_objects {t : BuildTable} {b : SharedBuild} :
    b ∈ t.objects ↔ b.owner = t.owner ∧ t.steps[b.position]? = some b.step := by
  rw [objects, List.mem_mapIdx]
  constructor
  · rintro ⟨i, lt, rfl⟩
    exact ⟨rfl, List.getElem?_eq_getElem lt⟩
  · rintro ⟨owner, found⟩
    obtain ⟨lt, step⟩ := List.getElem?_eq_some_iff.1 found
    exact ⟨b.position, lt, by rw [← owner, step]⟩

/-- The object for a recorded step is one of the table. -/
lemma intern_mem_objects {t : BuildTable} {s : BuildStep} (m : s ∈ t.steps) :
    (t.intern s).1 ∈ t.objects := by
  have place := idxOf?_intern t s
  rw [intern_of_mem m, List.idxOf?, List.findIdx?_eq_some_iff_getElem] at place
  obtain ⟨lt, found, _⟩ := place
  rw [intern_eq, mem_objects]
  exact ⟨rfl, by rw [List.getElem?_eq_getElem lt, eq_of_beq found]⟩

/-- An object that remains the one for its step whatever is recorded later is one of the table. -/
lemma mem_objects_of_intern? {t : BuildTable} {s : Option BuildStep} {b : SharedBuild}
    (h : ∀ u, t.Within u → (u.intern? s).1 = some b) : b ∈ t.objects := by
  cases s with
  | none => cases h t (.refl t)
  | some s =>
    have now := Option.some.inj (h t (.refl t))
    rw [← now]
    exact intern_mem_objects (mem_steps_of_intern? h)

/-- In a table without repetition one step has one object. -/
lemma position_eq_iff {t : BuildTable} (nodup : t.steps.Nodup) {b b' : SharedBuild}
    (m : b ∈ t.objects) (m' : b' ∈ t.objects) :
    (b.owner = b'.owner ∧ b.position = b'.position) ↔ b.step = b'.step := by
  obtain ⟨owner, found⟩ := mem_objects.1 m
  obtain ⟨owner', found'⟩ := mem_objects.1 m'
  constructor
  · rintro ⟨_, e⟩
    rw [e, found'] at found
    exact (Option.some.inj found).symm
  · intro e
    have lt := (List.getElem?_eq_some_iff.1 found).1
    rw [e, ← found'] at found
    exact ⟨owner.trans owner'.symm, (List.getElem?_inj lt nodup).1 found⟩

end BuildTable

/-- The traces of a log in order. -/
def Log.traces (log : Log) : Log := log.filter fun line => line.level = .trace

/-- Logs one after the other have their traces one after the other. -/
lemma Log.traces_append (log more : Log) : (log ++ more).traces = log.traces ++ more.traces :=
  List.filter_append _ _

namespace BuildTable

/-- What is logged when steps are recorded is traces only. -/
lemma Recorded.traces {t u : BuildTable} {log : Log} (h : Recorded t log u) :
    log.traces = log := by
  apply List.filter_eq_self.2
  intro line m
  simpa using h.level line m

/-- What is logged while an empty table is filled is its steps in order. -/
lemma Recorded.eq_map {owner : Nat} {u : BuildTable} {log : Log}
    (h : Recorded (empty owner) log u) : log = u.steps.map recordedLine := by
  cases h with
  | add new => rfl

end BuildTable

namespace Experiment

variable {ctx : Context} {name : String} {d : ExperimentDef} {s t : Shared} {x : Experiment}

/-- The traces that a compilation adds to the log are about the steps that it records. -/
lemma traces_compile (h : (compile ctx name d s).1 = .ok x) :
    ∃ log, (compile ctx name d s).2.log.traces = s.log.traces ++ log ∧
      Recorded s.builds log (compile ctx name d s).2.builds := by
  obtain ⟨log, change, e⟩ := compile_recorded h
  refine ⟨log, ?_, change⟩
  rw [e, Log.traces_append, Log.traces_append, change.traces]
  exact List.append_nil _

/-- The traces of compiling experiments in turn are those of the steps that are recorded. -/
lemma InTurn.traces {defs : List (String × ExperimentDef)} {xs : List (String × Experiment)}
    (h : InTurn ctx s defs xs t) :
    ∃ log, t.log.traces = s.log.traces ++ log ∧ Recorded s.builds log t.builds := by
  induction h with
  | nil s => exact ⟨[], (List.append_nil _).symm, .refl _⟩
  | @cons s s' t name d x defs xs first _ ih =>
    obtain ⟨log, e, change⟩ := traces_compile (congrArg Prod.fst first)
    obtain ⟨more, e', change'⟩ := ih
    rw [first] at e change
    exact ⟨log ++ more, by rw [e', e, List.append_assoc], change.trans change'⟩

end Experiment

/-- The options of a request are announced without traces, except those of the probe. -/
lemma Options.traces_process (options : Option Options) (probe : Probe) :
    (process options probe).log.traces =
      if (process options probe).probed then Log.traces probe.log else [] := by
  have announcement : ∀ v, (announcement v).traces = [] := by
    intro v
    cases v <;> rfl
  unfold process
  cases options with
  | none => rfl
  | some o =>
    dsimp only
    split
    · split
      · rw [Log.traces_append, announcement]
        rfl
      · rw [Log.traces_append, Log.traces_append, announcement]
        exact List.append_nil _
    · exact announcement _

/-- An experiment needs a build step: a machine that one of its executions names is built by the
commands of the step in its directory, or a suite that one of them runs is, at its location. -/
inductive Config.Needs (c : Config) (name : String) (b : BuildStep) : Prop where
  | machine {d : ExperimentDef} {x : String × Option (List String)} {m : MachineDef}
      (defined : c.experiments.get? name = some d) (execution : x ∈ d.allExecutions)
      (machine : c.machines.get? x.1 = some m) (commands : m.build = some b.commands)
      (directory : m.path = b.location) : Config.Needs c name b
  | suite {d : ExperimentDef} {x : String × Option (List String)} {n : String} {s : SuiteDef}
      (defined : c.experiments.get? name = some d) (execution : x ∈ d.allExecutions)
      (named : n ∈ x.2.getD d.suites) (suite : c.suites.get? n = some s)
      (commands : s.build = some b.commands) (location : s.location = b.location) :
      Config.Needs c name b

namespace Plan

variable {owner : Nat} {config : Config} {request : PlanRequest} {probe : Probe}
  {store : RunStore} {p : Plan} {names : List String} {b : BuildStep}

/-- The build steps that experiments need in the order in which they are come to: for each execution
that of its machine, and then those of its suites. -/
def needed (c : Config) (names : List String) : List BuildStep :=
  (definitions c names).flatMap fun e => e.2.allExecutions.flatMap fun x =>
    ((c.machines.get? x.1).bind Machine.buildStep?).toList ++
      (x.2.getD e.2.suites).filterMap fun n => (c.suites.get? n).bind Suite.buildStep?

/-- The build steps that are needed are those that the experiments refer to, in their order. -/
lemma needed_eq (c : Config) (names : List String) :
    needed c names = Reference.buildSteps c.machines c.suites
      ((definitions c names).flatMap fun e => e.2.references) := by
  rw [needed, Reference.buildSteps, List.filterMap_flatMap]
  apply List.flatMap_congr
  intro e _
  rw [ExperimentDef.references, List.filterMap_flatMap]
  apply List.flatMap_congr
  intro x _
  rw [executionReferences, ← Reference.buildSteps, Reference.buildSteps_cons,
    Reference.buildSteps, List.filterMap_map]
  rfl

/-- The steps that come up are those that are needed. -/
lemma mem_needed {c : Config} :
    b ∈ needed c names ↔ ∃ name ∈ names, c.Needs name b := by
  obtain ⟨commands, location⟩ := b
  simp only [needed, List.mem_flatMap, List.mem_append, Option.mem_toList, List.mem_filterMap,
    Option.bind_eq_some_iff, Machine.buildStep?, Suite.buildStep?, Option.map_eq_some_iff,
    BuildStep.mk.injEq]
  constructor
  · rintro ⟨⟨name, d⟩, selected, x, execution, step⟩
    obtain ⟨m, defined⟩ := mem_definitions.1 selected
    refine ⟨name, m, ?_⟩
    obtain ⟨md, machine, _, build, rfl, path⟩ | ⟨n, named, sd, suite, _, build, rfl, path⟩ := step
    · exact .machine defined execution machine build path
    · exact .suite defined execution named suite build path
  · rintro ⟨name, m, needs⟩
    cases needs with
    | machine defined execution machine build path =>
      exact ⟨(name, _), mem_definitions.2 ⟨m, defined⟩, _, execution,
        .inl ⟨_, machine, _, build, rfl, path⟩⟩
    | suite defined execution named suite build path =>
      exact ⟨(name, _), mem_definitions.2 ⟨m, defined⟩, _, execution,
        .inr ⟨_, named, _, suite, _, build, rfl, path⟩⟩

/-- Names that are not defined have no part in the definitions. -/
lemma definitions_filter (c : Config) (names : List String) :
    definitions c (names.filter c.experiments.contains) = definitions c names := by
  rw [definitions, List.filterMap_filter, definitions]
  congr 1
  funext n
  cases defined : c.experiments.get? n with
  | none => simp
  | some d => rw [if_pos (Table.contains_of_get? defined)]

/-- The table of a plan has the steps that its experiments need, each where it is first come to. -/
lemma steps_eq_firsts (made : (ofConfig owner config request probe store).result = .ok p) :
    p.builds.steps = firsts id (needed config p.experiments.keys) := by
  obtain ⟨names, _, _, selected, _⟩ := inTurn_of_ofConfig made
  rw [keys_of_ofConfig made selected, needed_eq, definitions_filter]
  exact steps_of_ofConfig selected made

/-- No step is in the table of a plan twice. -/
lemma nodup_steps (made : (ofConfig owner config request probe store).result = .ok p) :
    p.builds.steps.Nodup := by
  rw [steps_eq_firsts made]
  exact pairwise_firsts id _

/-- The table of a plan has the steps that are needed. -/
lemma mem_steps (made : (ofConfig owner config request probe store).result = .ok p) :
    b ∈ p.builds.steps ↔ b ∈ needed config p.experiments.keys := by
  rw [steps_eq_firsts made, mem_firsts_iff_mem]
  exact fun _ _ _ _ e => e

/-- The traces of a plan are those of the probe, if it was asked, and one for each step of its table
in order. -/
lemma traces_of_ofConfig (made : (ofConfig owner config request probe store).result = .ok p) :
    (ofConfig owner config request probe store).log.traces =
      (if (Options.process request.options probe).probed then Log.traces probe.log else []) ++
        p.builds.steps.map recordedLine := by
  obtain ⟨_, s, _, _, inTurn, builds, _, log⟩ := finished_of_ofConfig made
  obtain ⟨more, e, change⟩ := inTurn.traces
  have start : (firstShared owner request probe store).log =
    (Options.process request.options probe).log := rfl
  have last : Log.traces [compiledLine p.experiments.size p.builds.size] = [] := rfl
  rw [log, Log.traces_append, e, start, Options.traces_process, last, List.append_nil,
    change.eq_map, builds]

/-- A run that an experiment of the plan lists holds an object for a build step of its machine or of
its suite. -/
def Holds (p : Plan) (b : SharedBuild) : Prop :=
  ∃ name x o, p.experiment? name = some x ∧ o ∈ x.runs ∧
    (o.run.benchmark.machine.build = some b ∨ o.run.benchmark.suite.build = some b)

/-- With an empty store the runs of a plan hold objects of its table. -/
lemma mem_objects_of_holds (made : (ofConfig owner config request probe .empty).result = .ok p)
    {b : SharedBuild} (h : p.Holds b) : b ∈ p.builds.objects := by
  obtain ⟨name, x, o, compiled, m, build⟩ := h
  obtain ⟨d, s, _, sourced, made', within⟩ := compiled_of_ofConfig made compiled
  obtain ⟨l, _, _, run⟩ := (sourced_compile name d s sourced).of_held (find?_of_compile made' m)
  -- the run is made of the same objects with every later state of the table
  cases build with
  | inl build =>
    apply mem_objects_of_intern? (s := Machine.buildStep? l.machineDef)
    intro u later
    rw [run u (within.trans later)] at build
    exact build
  | inr build =>
    apply mem_objects_of_intern? (s := Suite.buildStep? l.suiteDef)
    intro u later
    rw [run u (within.trans later)] at build
    exact build

/-- The table of a plan holds exactly the build steps that are needed, each once. Whatever the
filter keeps out and whatever the store held before: a step is recorded exactly if a compiled
experiment needs it, the steps come in the order in which they are first come to, their number is
that of different steps, and the traces in the log, those of the probe apart, are one line for each
of them in this order. If the store was empty, every build step that a run of a compiled experiment
holds is an object of the table, and two of these are one object exactly if they are equal. -/
theorem ofConfig_builds (made : (ofConfig owner config request probe store).result = .ok p) :
    (∀ b, p.builds.contains b = true ↔ ∃ name ∈ p.experiments.keys, config.Needs name b) ∧
    p.builds.steps = firsts id (needed config p.experiments.keys) ∧
    p.builds.size = (needed config p.experiments.keys).toFinset.card ∧
    (ofConfig owner config request probe store).log.traces =
      (if (Options.process request.options probe).probed then Log.traces probe.log else []) ++
        p.builds.steps.map (fun b => ⟨.trace, "benchconf::model::build_command",
          "Recorded build command: " ++ " && ".intercalate b.commands⟩) ∧
    (store = .empty → ∀ b, p.Holds b → b ∈ p.builds.objects ∧ ∀ b', p.Holds b' →
      ((b.owner = b'.owner ∧ b.position = b'.position) ↔ b.step = b'.step)) := by
  refine ⟨?_, steps_eq_firsts made, ?_, traces_of_ofConfig made, ?_⟩
  · intro b
    rw [BuildTable.contains, List.contains_iff_mem, mem_steps made, mem_needed]
  · have same : (needed config p.experiments.keys).toFinset = p.builds.steps.toFinset := by
      ext b
      rw [List.mem_toFinset, List.mem_toFinset, mem_steps made]
    rw [same, List.toFinset_card_of_nodup (nodup_steps made), BuildTable.size]
  · rintro rfl b h
    have m := mem_objects_of_holds made h
    refine ⟨m, ?_⟩
    intro b' h'
    exact position_eq_iff (nodup_steps made) m (mem_objects_of_holds made h')

/-- The machines of the demonstration are built alike, so that their runs hold one object, which is
the first of two in the table. The other one is for the suite. -/
theorem ofConfig_builds_demo : ∃ p b b',
    (ofConfig 0 demoConfig demoRequest (.fixed true) .empty).result = .ok p ∧
    p.builds.steps = [⟨["./build.sh"], some "/opt/v/"⟩, ⟨["make"], none⟩] ∧
    (ofConfig 0 demoConfig demoRequest (.fixed true) .empty).log.traces =
      [⟨.trace, "benchconf::model::build_command", "Recorded build command: ./build.sh"⟩,
        ⟨.trace, "benchconf::model::build_command", "Recorded build command: make"⟩] ∧
    (∃ name ∈ p.experiments.keys, demoConfig.Needs name ⟨["make"], none⟩) ∧
    p.Holds b ∧ p.Holds b' ∧ b ∈ p.builds.objects ∧ b.owner = b'.owner ∧
    b.position = b'.position := by
  obtain ⟨p, b, b', made, left, right, same⟩ : ∃ p b b',
      (ofConfig 0 demoConfig demoRequest (.fixed true) .empty).result = .ok p ∧
      p.Holds b ∧ p.Holds b' ∧ b.step = b'.step :=
    ⟨_, _, _, rfl, ⟨"D", _, _, rfl, List.mem_of_getElem? (i := 0) rfl, .inl rfl⟩,
      ⟨"E", _, _, rfl, List.mem_of_getElem? (i := 2) rfl, .inl rfl⟩, rfl⟩
  obtain ⟨recorded, _, _, log, held⟩ := ofConfig_builds made
  obtain ⟨object, one⟩ := held rfl b left
  cases made
  exact ⟨_, b, b', rfl, rfl, log, (recorded ⟨["make"], none⟩).1 rfl, left, right, object,
    (one b' right).2 same⟩

end Plan

end BenchPlan
