import BenchPlan.Proofs.Provenance

/-!
# One experiment and all experiments

An experiment comes out the same by itself and among all others. The runs that it lists are then
other objects, at other positions and with build steps of other tables, and they may have been
registered by other experiments; `Agrees` compares what is in them. Two compilations of an
experiment agree whenever both start with a store of runs of original slots (`agrees_of_compile`),
and so do the plans for one and for all experiments (`ofConfig_one`).
-/

namespace BenchPlan

open BuildTable Experiment Slot

/-- Machines agree if they are equal up to the objects of their build steps. -/
structure Machine.Agrees (m m' : Machine) : Prop where
  name : m.name = m'.name
  path : m.path = m'.path
  binary : m.binary = m'.binary
  args : m.args = m'.args
  build : m.build.map SharedBuild.step = m'.build.map SharedBuild.step

/-- Suites agree if they are equal up to the objects of their build steps. -/
structure Suite.Agrees (s s' : Suite) : Prop where
  name : s.name = s'.name
  gaugeAdapter : s.gaugeAdapter = s'.gaugeAdapter
  command : s.command = s'.command
  location : s.location = s'.location
  build : s.build.map SharedBuild.step = s'.build.map SharedBuild.step

/-- Runs agree if they are equal up to the objects of build steps. -/
structure Run.Agrees (r r' : Run) : Prop where
  machine : r.benchmark.machine.Agrees r'.benchmark.machine
  suite : r.benchmark.suite.Agrees r'.benchmark.suite
  name : r.benchmark.name = r'.benchmark.name
  extraArgs : r.benchmark.extraArgs = r'.benchmark.extraArgs
  command : r.benchmark.command = r'.benchmark.command
  settings : r.settings = r'.settings

/-- Experiments agree if they are equal up to the objects of their runs, and these agree one by one
and have the same command lines. -/
structure Experiment.Agrees (x y : Experiment) : Prop where
  name : x.name = y.name
  description : x.description = y.description
  dataFile : x.dataFile = y.dataFile
  settings : x.settings = y.settings
  reporting : x.reporting = y.reporting
  clean : x.clean = y.clean
  reporter : x.reporter = y.reporter
  options : x.options = y.options
  runs : List.Forall₂ (fun o o' => o.run.Agrees o'.run ∧ o.run.cmdline = o'.run.cmdline)
    x.runs y.runs

/-- A machine is made with the build step of its definition, whatever was recorded. -/
lemma Machine.ofDef_agrees (name : String) (d : MachineDef) (t u : BuildTable) :
    (Machine.ofDef name d t).1.Agrees (Machine.ofDef name d u).1 := by
  refine ⟨rfl, rfl, rfl, rfl, ?_⟩
  exact (map_step_intern? t _).trans (map_step_intern? u _).symm

/-- A suite agrees with itself, whatever was recorded. -/
lemma Suite.ofDef_agrees (name : String) (d : SuiteDef) (t u : BuildTable) :
    (Suite.ofDef name d t).1.Agrees (Suite.ofDef name d u).1 := by
  refine ⟨rfl, rfl, rfl, rfl, ?_⟩
  exact (map_step_intern? t _).trans (map_step_intern? u _).symm

/-- The runs of a slot agree, whatever was recorded. -/
lemma Slot.run_agrees (settings : RunSettings) (l : Slot) (t u : BuildTable) :
    (l.run t settings).Agrees (l.run u settings) :=
  ⟨Machine.ofDef_agrees _ _ t u, Suite.ofDef_agrees _ _ t u, rfl, rfl, rfl, rfl⟩

/-- Runs that agree have the same command. -/
lemma Run.Agrees.run_command {r r' : Run} (h : r.Agrees r') : Run.command r = Run.command r' := by
  have values : r.placeholderValue = r'.placeholderValue := by
    funext name
    rw [placeholderValue, placeholderValue, h.name, h.settings]
  have template : r.benchmark.template = r'.benchmark.template := by
    rw [Benchmark.template, Benchmark.template, h.command, h.suite.command]
  rw [Run.command, Run.command, values, template]

/-- Runs that agree have the same command line. -/
lemma Run.Agrees.cmdline {r r' : Run} (h : r.Agrees r') : r.cmdline = r'.cmdline := by
  have executable : r.benchmark.machine.executable = r'.benchmark.machine.executable := by
    rw [Machine.executable, Machine.executable, h.machine.path, h.machine.binary]
  have parts : r.parts = r'.parts := by
    rw [Run.parts, Run.parts, executable, h.machine.args, h.run_command, h.extraArgs]
  rw [Run.cmdline, Run.cmdline, parts]

namespace Experiment

variable {ctx : Context} {name : String} {d : ExperimentDef} {s s' : Shared} {x y : Experiment}

/-- Compilations of an experiment agree if the stores held runs of original slots only. -/
lemma agrees_of_compile (sourced : Sourced ctx s) (sourced' : Sourced ctx s')
    (h : (compile ctx name d s).1 = .ok x) (h' : (compile ctx name d s').1 = .ok y) :
    x.Agrees y := by
  have runs : List.Forall₂ (fun o o' => o.run.Agrees o'.run ∧ o.run.cmdline = o'.run.cmdline)
      x.runs y.runs := by
    -- both list one object for each of the same slots, and it is for the run of the slot
    have listed := (List.forall₂_and_left _ _).2 ⟨fun l m => m, compile_represents h (.refl _)⟩
    refine (forall₂_of_common listed (compile_represents h' (.refl _))).imp ?_
    rintro o o' ⟨l, ⟨first, represents⟩, represents'⟩
    rw [run_of_held sourced first represents.held,
      run_of_held sourced' first represents'.held]
    have agrees := l.run_agrees (settingsOf ctx d) (compile ctx name d s).2.builds
      (compile ctx name d s').2.builds
    exact ⟨agrees, agrees.cmdline⟩
  rw [ofWalk_of_compile h, ofWalk_of_compile h'] at runs ⊢
  exact ⟨rfl, rfl, rfl, rfl, rfl, rfl, rfl, rfl, runs⟩

end Experiment

namespace Plan

variable {owner owner' : Nat} {config : Config} {request : PlanRequest} {probe : Probe} {p : Plan}
  {name : String}

/-- A plan for all experiments has one of every name that is defined. -/
lemma exists_of_all
    (h : (ofConfig owner config { request with experiment := some allExperiments } probe
      .empty).result = .ok p)
    (defined : config.experiments.contains name = true) :
    ∃ x, p.experiments.get? name = some x := by
  apply Table.mem_keys.1
  rw [keys_of_ofConfig h (select_all _)]
  exact List.mem_filter.2 ⟨Table.mem_keys.2 (Table.get?_of_contains defined), defined⟩

/-- There is a plan for one experiment if its references lead somewhere, and it has no other. -/
lemma exists_plan_of_one {filter : Filter} {d : ExperimentDef}
    (parsed : Filter.parse request.filters = .ok filter)
    (defined : config.experiments.get? name = some d) (nonempty : name ≠ "")
    (other : name ≠ allExperiments)
    (resolved : Reference.firstDangling config.machines config.suites d.references = none) :
    ∃ q, (ofConfig owner config { request with experiment := some name } probe .empty).result =
      .ok q ∧ q.filter = filter ∧ q.experiments.keys = [name] := by
  have contains : config.experiments.contains name = true := Table.contains_of_get? defined
  have selected : select (withDataFile config request.dataFile) (some name) = .ok [name] :=
    select_one contains nonempty other
  have first : compile (requestContext config request probe filter) name d
      (firstShared owner request probe .empty) = _ := compile_of_resolved resolved
  have inTurn := InTurn.cons first (.nil _)
  rw [← definitions_one (c := withDataFile config request.dataFile) defined] at inTurn
  obtain ⟨q, made⟩ : ∃ q, (ofConfig owner config { request with experiment := some name } probe
      .empty).result = .ok q := ofConfig_of_inTurn parsed selected inTurn
  obtain ⟨_, _, parsed', _, _, _⟩ := inTurn_of_ofConfig made
  have keys := keys_of_ofConfig made selected
  rw [List.filter_cons_of_pos contains, List.filter_nil] at keys
  exact ⟨q, made, Except.ok.inj (parsed'.symm.trans parsed), keys⟩

/-- An experiment that is compiled among all others is also compiled by itself, and both agree. If
all experiments of a configuration compile, starting with an empty store, then so does each that can
be asked for by its name with the same filter, options, reporter, data file and probe. The plan has
this experiment alone, and it agrees with that of the same name in the plan for all. -/
theorem ofConfig_one
    (h : (ofConfig owner config { request with experiment := some allExperiments } probe
      .empty).result = .ok p)
    (defined : config.experiments.contains name = true) (nonempty : name ≠ "")
    (other : name ≠ allExperiments) :
    ∃ q x y, (ofConfig owner' config { request with experiment := some name } probe
        .empty).result = .ok q ∧
      q.experiments.keys = [name] ∧
      p.experiments.get? name = some x ∧ q.experiments.get? name = some y ∧ x.Agrees y := by
  obtain ⟨x, compiled⟩ := exists_of_all h defined
  -- among all it compiles, so its references lead somewhere, so it compiles by itself
  obtain ⟨d, s, hd, sourced, made, _⟩ := compiled_of_ofConfig h compiled
  obtain ⟨_, _, parsed, _, _, _⟩ := inTurn_of_ofConfig h
  obtain ⟨q, hq, filter, keys⟩ := exists_plan_of_one parsed hd nonempty other
    (resolved_of_compile made)
  obtain ⟨y, compiled'⟩ := Table.mem_keys.1 (keys ▸ List.mem_singleton_self name)
  obtain ⟨d', s', hd', sourced', made', _⟩ := compiled_of_ofConfig hq compiled'
  cases hd.symm.trans hd'
  rw [filter] at sourced' made'
  exact ⟨q, x, y, hq, keys, compiled, compiled', agrees_of_compile sourced sourced' made made'⟩

/-- The second experiment by itself agrees with that among both, where its runs were registered by
the first one. -/
theorem ofConfig_one_demo : ∃ p q x y,
    (ofConfig 0 demoConfig demoRequest (.fixed true) .empty).result = .ok p ∧
    (ofConfig 1 demoConfig { demoRequest with experiment := some "E" } (.fixed true)
      .empty).result = .ok q ∧
    q.experiments.keys = ["E"] ∧
    p.experiments.get? "E" = some x ∧ q.experiments.get? "E" = some y ∧ x.Agrees y ∧
    x.runs.map (fun o => o.run.cmdline) =
      ["/opt/v/v run A", "/opt/v/v run B", "/opt/v/v run A", "/opt/v/v run B"] := by
  obtain ⟨p, x, all, compiled, lines⟩ : ∃ p x,
      (ofConfig 0 demoConfig demoRequest (.fixed true) .empty).result = .ok p ∧
      p.experiments.get? "E" = some x ∧ x.runs.map (fun o => o.run.cmdline) =
        ["/opt/v/v run A", "/opt/v/v run B", "/opt/v/v run A", "/opt/v/v run B"] :=
    ⟨_, _, rfl, rfl, by decide +kernel⟩
  obtain ⟨q, x', y, one, keys, compiled', found, agrees⟩ :=
    @ofConfig_one 0 1 demoConfig demoRequest (.fixed true) p "E" all rfl (by decide) (by decide)
  cases compiled.symm.trans compiled'
  exact ⟨p, q, x, y, all, one, keys, compiled, found, agrees, lines⟩

end Plan

end BenchPlan
