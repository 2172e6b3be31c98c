import BenchPlan.Proofs.Planning

/-!
# Where runs come from

Runs are told apart by their key, which does not mention paths, commands or build steps, and a run
with a known key is not registered again. Yet in one plan nothing of a run is ever that of another:
machine and suite are determined by their names, and of the benchmarks of a suite with the same name
and extra arguments it is the first whose run gets registered, since a filter cannot tell them
apart. The store of a plan holds runs of such `Original` slots only (`Sourced`), whatever
experiments were compiled and with whatever filter. What an experiment lists for a slot is thus the
run of this slot (`run_of_held`), the one that the configuration defines (`ofConfig_defined`).
-/

namespace BenchPlan

open BuildTable Experiment Slot

/-- The first benchmark of a suite that has a name and a text for its extra arguments. -/
def SuiteDef.firstBenchmark? (d : SuiteDef) (name : String) (extraArgs : Option String) :
    Option (String × Option BenchmarkDetails) :=
  d.allBenchmarks.find? fun b => b.1 == name && Benchmark.extraArgsOf b.2 == extraArgs

namespace Slot

variable {machines : Table MachineDef} {suites : Table SuiteDef} {settings : RunSettings}
  {l l' : Slot}

/-- A slot is original if it has the definitions of its names and its benchmark is the first of the
suite with its name and extra arguments. -/
structure Original (machines : Table MachineDef) (suites : Table SuiteDef) (l : Slot) : Prop where
  machine : machines.get? l.machine = some l.machineDef
  suite : suites.get? l.suite = some l.suiteDef
  first : l.suiteDef.firstBenchmark? l.benchmark l.extraArgs = some (l.benchmark, l.details)

/-- An original slot is determined by its key. -/
lemma Original.eq_of_key {settings' : RunSettings} (h : l.Original machines suites)
    (h' : l'.Original machines suites) (e : l.key settings = l'.key settings') : l = l' := by
  obtain ⟨hm, hs, hb⟩ := h
  obtain ⟨hm', hs', hb'⟩ := h'
  obtain ⟨m, md, s, sd, b, details⟩ := l
  obtain ⟨m', md', s', sd', b', details'⟩ := l'
  simp only [key, extraArgs, RunKey.mk.injEq] at e hm hs hb hm' hs' hb'
  obtain ⟨rfl, rfl, rfl, args, rfl⟩ := e
  cases hm.symm.trans hm'
  cases hs.symm.trans hs'
  rw [args] at hb
  cases hb.symm.trans hb'
  rfl

/-- Among the slots of a suite on a machine a key comes down to a name and extra arguments. -/
lemma key_beq_key (settings : RunSettings) (l : Slot) (b : String × Option BenchmarkDetails) :
    (key settings { l with benchmark := b.1, details := b.2 } == l.key settings) =
      (b.1 == l.benchmark && Benchmark.extraArgsOf b.2 == l.extraArgs) := by
  rw [Bool.eq_iff_iff]
  simp [key, extraArgs]

/-- A slot is original if it is what a search for its key finds among the slots of references. -/
lemma original_of_find? {refs : List Reference} {k : RunKey}
    (h : (refs.flatMap (Reference.slots machines suites)).find? (fun l => l.key settings == k) =
      some l) : l.Original machines suites := by
  have e : l.key settings = k := by simpa using List.find?_some h
  subst e
  rw [List.find?_flatMap] at h
  obtain ⟨r, _, h⟩ := List.exists_of_findSome?_eq_some h
  -- the reference that it is found at is the one to its suite, with one slot for each benchmark
  obtain ⟨rfl, machine, suite, _⟩ := Reference.mem_slots (List.mem_of_find?_eq_some h)
  refine ⟨machine, suite, ?_⟩
  simp only [Reference.slots, suiteSlots, machine, suite, List.find?_map] at h
  obtain ⟨b, found, e⟩ := Option.map_eq_some_iff.1 h
  have first : l.suiteDef.firstBenchmark? l.benchmark l.extraArgs = some b := by
    rw [SuiteDef.firstBenchmark?, ← found]
    congr 1
    funext b
    exact (key_beq_key settings l b).symm
  have name : b.1 = l.benchmark := congrArg benchmark e
  have details : b.2 = l.details := congrArg Slot.details e
  rw [first, ← name, ← details]

/-- A search for a key among the slots that a filter admits finds what it finds among all. -/
lemma find?_of_find?_admitted {f : Filter} {ls : List Slot} {k : RunKey}
    (h : (admitted f ls).find? (fun l => l.key settings == k) = some l) :
    ls.find? (fun l => l.key settings == k) = some l := by
  have e : l.key settings = k := by simpa using List.find?_some h
  have admits : f.admits l.identity = true :=
    (List.mem_filter.1 (List.mem_of_find?_eq_some h)).2
  rw [admitted, List.find?_filter] at h
  rw [← h]
  congr 1
  funext l'
  -- what has the key is admitted as `l` is
  by_cases same : l'.key settings = k
  · have identity := identity_of_key (same.trans e.symm)
    simp [identity, admits, same]
  · simp [same]

end Slot

namespace Experiment

variable {ctx : Context} {s : Shared}

/-- Every registered run is that of an original slot, with the objects of all later tables. -/
def Sourced (ctx : Context) (s : Shared) : Prop :=
  ∀ r ∈ s.store.runs, ∃ l : Slot, l.Original ctx.machines ctx.suites ∧
    ∀ t, s.builds.Within t → r = l.run t r.settings

/-- An empty store holds no run that is not that of an original slot. -/
lemma Sourced.empty (ctx : Context) (builds : BuildTable) (log : Log) :
    Sourced ctx ⟨.empty, builds, log⟩ := by
  intro r m
  cases m

/-- Compiling an experiment registers runs of original slots only, also if it fails. -/
lemma sourced_compile (name : String) (d : ExperimentDef) (s : Shared) (h : Sourced ctx s) :
    Sourced ctx (compile ctx name d s).2 := by
  intro r m
  cases mem_store_compile m with
  | inl old =>
    obtain ⟨l, original, made⟩ := h r old
    exact ⟨l, original, fun t later => made t ((compile_within ctx name d s).trans later)⟩
  | inr new =>
    obtain ⟨l, found, made⟩ := new
    have original := Slot.original_of_find? (Slot.find?_of_find?_admitted found)
    refine ⟨l, original, ?_⟩
    intro t later
    have settings : r.settings = settingsOf ctx d := congrArg Run.settings (made t later)
    rw [settings]
    exact made t later

/-- The object that a store holds for a key is the run of the original slot with this key. -/
lemma Sourced.of_held (h : Sourced ctx s) {k : RunKey} {o : SharedRun}
    (held : s.store.find? k = some o) :
    ∃ l : Slot, l.Original ctx.machines ctx.suites ∧ l.key k.settings = k ∧
      ∀ t, s.builds.Within t → o.run = l.run t k.settings := by
  obtain ⟨l, original, made⟩ := h o.run (RunStore.mem_of_find? held)
  have e := RunStore.key_of_find? held
  have settings : o.run.settings = k.settings := congrArg RunKey.settings e
  rw [settings] at made
  refine ⟨l, original, ?_, made⟩
  rw [← e, made _ (.refl _)]
  rfl

end Experiment

/-- A run is the one that a configuration defines for a slot: its machine and suite are those of
their definitions, and its command is that of the first benchmark of the suite with the name and the
extra arguments of the slot. -/
structure Slot.Defines (t : BuildTable) (settings : RunSettings) (l : Slot) (r : Run) : Prop where
  machine : r.benchmark.machine = (Machine.ofDef l.machine l.machineDef t).1
  suite : r.benchmark.suite = (Suite.ofDef l.suite l.suiteDef t).1
  settings : r.settings = settings
  name : r.benchmark.name = l.benchmark
  extraArgs : r.benchmark.extraArgs = l.extraArgs
  command : ∃ b, l.suiteDef.firstBenchmark? l.benchmark l.extraArgs = some b ∧
    r.benchmark.command = Benchmark.commandOf b.2

namespace Slot

variable {machines : Table MachineDef} {suites : Table SuiteDef} {settings : RunSettings}
  {t : BuildTable} {l l' : Slot} {r : Run}

/-- The run of the original slot with the key of a slot is the one defined for it. -/
lemma Original.defines (h : l'.Original machines suites) (e : l'.key settings = l.key settings)
    (machine : machines.get? l.machine = some l.machineDef)
    (suite : suites.get? l.suite = some l.suiteDef) : l.Defines t settings (l'.run t settings) := by
  obtain ⟨hm, hs, hb⟩ := h
  simp only [key, RunKey.mk.injEq, and_true] at e
  obtain ⟨em, es, eb, args⟩ := e
  rw [em] at hm
  rw [es] at hs
  have md : l'.machineDef = l.machineDef := Option.some.inj (hm.symm.trans machine)
  have sd : l'.suiteDef = l.suiteDef := Option.some.inj (hs.symm.trans suite)
  rw [sd, eb, args] at hb
  refine ⟨?_, ?_, rfl, eb, args, _, hb, rfl⟩
  · show (Machine.ofDef l'.machine l'.machineDef t).1 = _
    rw [em, md]
  · show (Suite.ofDef l'.suite l'.suiteDef t).1 = _
    rw [es, sd]

/-- A run that is defined for a slot is its own run unless the suite has another benchmark with the
same name and extra arguments before, and this has a different command. -/
lemma Defines.cmdline (h : l.Defines t settings r)
    (other : r.cmdline ≠ (l.run t settings).cmdline) :
    ∃ b ∈ l.suiteDef.allBenchmarks, b.1 = l.benchmark ∧
      Benchmark.extraArgsOf b.2 = l.extraArgs ∧
      Benchmark.commandOf b.2 ≠ Benchmark.commandOf l.details := by
  obtain ⟨b, first, command⟩ := h.command
  have kind : b.1 = l.benchmark ∧ Benchmark.extraArgsOf b.2 = l.extraArgs := by
    simpa using List.find?_some first
  refine ⟨b, List.mem_of_find?_eq_some first, kind.1, kind.2, ?_⟩
  intro same
  apply other
  obtain ⟨⟨n, s, m, args, c⟩, settings'⟩ := r
  obtain ⟨rfl, rfl, rfl, rfl, rfl, _⟩ := h
  cases command.trans same
  rfl

end Slot

namespace Experiment

variable {ctx : Context} {name : String} {d : ExperimentDef} {s : Shared} {x : Experiment}

/-- What an experiment lists for a slot is the run of the slot itself, if the store held only runs
of original slots. -/
lemma run_of_held (sourced : Sourced ctx s) {l : Slot} {o : SharedRun}
    (first : l ∈ firsts (key (settingsOf ctx d))
      (admitted ctx.filter (d.slots ctx.machines ctx.suites)))
    (held : (compile ctx name d s).2.store.find? (l.key (settingsOf ctx d)) = some o) :
    o.run = l.run (compile ctx name d s).2.builds (settingsOf ctx d) := by
  have found := find?_of_find?_admitted (mem_firsts.1 first)
  rw [ExperimentDef.slots_eq] at found
  obtain ⟨l', original, e, made⟩ := (sourced_compile name d s sourced).of_held held
  cases original.eq_of_key (original_of_find? found) e
  exact made _ (.refl _)

/-- The run that an experiment lists for a slot is the one defined for it, if the store held only
runs of original slots when the experiment was compiled. -/
lemma defines_of_compile (sourced : Sourced ctx s) (h : (compile ctx name d s).1 = .ok x)
    {t : BuildTable} (later : (compile ctx name d s).2.builds.Within t) {l : Slot}
    (machine : ctx.machines.get? l.machine = some l.machineDef)
    (suite : ctx.suites.get? l.suite = some l.suiteDef) {o : SharedRun} (m : o ∈ x.runs)
    (e : o.run.key = l.key x.settings) : l.Defines t x.settings o.run := by
  have held := find?_of_compile h m
  obtain ⟨l', original, same, made⟩ := (sourced_compile name d s sourced).of_held held
  have settings : o.run.key.settings = x.settings := congrArg RunKey.settings e
  rw [settings] at same made
  rw [made t later]
  exact original.defines (same.trans e) machine suite

end Experiment

namespace Plan

variable {owner : Nat} {config : Config} {request : PlanRequest} {probe : Probe} {p : Plan}
  {name : String} {x : Experiment}

/-- An experiment of a plan that is made with an empty store was compiled from its definition with a
store of original slots. -/
lemma compiled_of_ofConfig (h : (ofConfig owner config request probe .empty).result = .ok p)
    (m : p.experiments.get? name = some x) :
    ∃ d s, config.experiments.get? name = some d ∧
      Sourced (requestContext config request probe p.filter) s ∧
      (compile (requestContext config request probe p.filter) name d s).1 = .ok x ∧
      (compile (requestContext config request probe p.filter) name d s).2.builds.Within
        p.builds := by
  obtain ⟨names, s, _, _, inTurn, builds⟩ := inTurn_of_ofConfig h
  obtain ⟨d, s', defined, sourced, compiled, later⟩ :=
    inTurn.mem sourced_compile (.empty _ _ _) ((Table.get?_eq_some_iff _).1 m)
  exact ⟨d, s', (mem_definitions.1 defined).2, sourced, compiled, builds ▸ later⟩

/-- Whatever is selected and however it is filtered, in a plan that is made with an empty store each
experiment lists for each of its admitted slots exactly one run with the key of the slot, and it is
the one that the configuration defines for the slot. Its command line can differ from that of the
slot only if the suite lists the same name and extra arguments twice, with different commands. -/
theorem ofConfig_defined (h : (ofConfig owner config request probe .empty).result = .ok p)
    (m : p.experiments.get? name = some x) :
    ∃ d, config.experiments.get? name = some d ∧
      x.settings = settingsOf (requestContext config request probe p.filter) d ∧
      ∀ l ∈ admitted p.filter (d.slots config.machines config.suites),
        config.machines.get? l.machine = some l.machineDef ∧
        config.suites.get? l.suite = some l.suiteDef ∧
        (l.benchmark, l.details) ∈ l.suiteDef.allBenchmarks ∧
        ∃ o ∈ x.runs, o.run.key = l.key x.settings ∧
          (∀ o' ∈ x.runs, o'.run.key = l.key x.settings → o' = o) ∧
          l.Defines p.builds x.settings o.run ∧
          (o.run.cmdline ≠ (l.run p.builds x.settings).cmdline →
            ∃ b ∈ l.suiteDef.allBenchmarks, b.1 = l.benchmark ∧
              Benchmark.extraArgsOf b.2 = l.extraArgs ∧
              Benchmark.commandOf b.2 ≠ Benchmark.commandOf l.details) := by
  obtain ⟨d, s, defined, sourced, compiled, later⟩ := compiled_of_ofConfig h m
  have settings : x.settings = settingsOf (requestContext config request probe p.filter) d := by
    rw [ofWalk_of_compile compiled]
    rfl
  refine ⟨d, defined, settings, ?_⟩
  intro l admitted
  have slot := List.mem_of_mem_filter admitted
  rw [ExperimentDef.slots_eq] at slot
  obtain ⟨r, _, slot⟩ := List.mem_flatMap.1 slot
  obtain ⟨_, machine, suite, listed⟩ := Reference.mem_slots slot
  obtain ⟨o, mem, held⟩ := held_of_compile compiled admitted
  rw [← settings] at held
  have e := RunStore.key_of_find? held
  have defines := defines_of_compile sourced compiled later machine suite mem e
  refine ⟨machine, suite, listed, o, mem, e, ?_, defines, defines.cmdline⟩
  intro o' mem' e'
  have held' := find?_of_compile compiled mem'
  rw [e', held] at held'
  exact (Option.some.inj held').symm

/-- A request for all experiments. -/
def demoRequest : PlanRequest := ⟨none, none, some allExperiments, none, []⟩

/-- A slot of the second experiment, whose run is registered by the first one. Its suite lists a
benchmark of the same name before. -/
def demoSlot : Slot := ⟨"V", demoMachine, "S", demoSuite, "A", some ⟨none, some "other"⟩⟩

/-- The run handed out for the slot is defined by the benchmark listed before, and its command line
is another than that of the slot. -/
theorem ofConfig_defined_demo : ∃ p x,
    (ofConfig 0 demoConfig demoRequest (.fixed true) .empty).result = .ok p ∧
    p.experiments.get? "E" = some x ∧
    demoSlot ∈ admitted p.filter (demoExperiment.slots demoConfig.machines demoConfig.suites) ∧
    ∃ o ∈ x.runs, o.run.key = demoSlot.key x.settings ∧
      demoSlot.Defines p.builds x.settings o.run ∧
      o.run.cmdline = "/opt/v/v run A" ∧
      (demoSlot.run p.builds x.settings).cmdline = "/opt/v/v other" := by
  obtain ⟨d, defined, _, slots⟩ :=
    @ofConfig_defined 0 demoConfig demoRequest (.fixed true) _ "E" _ rfl rfl
  cases defined
  obtain ⟨_, _, _, o, listed, e, unique, defines, _⟩ :=
    slots demoSlot (List.mem_of_getElem? (i := 1) rfl)
  have first := unique _ (List.mem_of_getElem? (i := 0) rfl) rfl
  subst first
  exact ⟨_, _, rfl, rfl, List.mem_of_getElem? (i := 1) rfl, _, listed, e, defines,
    by decide +kernel, by decide +kernel⟩

end Plan

end BenchPlan
