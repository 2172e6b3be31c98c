import BenchPlan.Proofs.BuildSteps

/-!
# Machines and suites made anew

To remember the machines and suites of an experiment saves work and changes nothing else. Beside the
walk that remembers them stands a plain one, which looks every name up where it occurs and makes
what it finds anew. Both keep in step (`throughExecutions_keeps`): what is remembered is what would
be made again (`ofDef_of_madeOf`), with its build step recorded already and so without a line for
the log. Hence an experiment is compiled alike in both ways (`compile_anew`).
-/

namespace BenchPlan

open BuildTable

namespace Experiment

/-! ## The plain walk -/

namespace Anew

/-- How far a plain walk is. -/
structure State where
  shared : Shared
  runs : List SharedRun
  /-- How many benchmarks the filter kept out. -/
  excluded : Nat

/-- A part of a plain walk. It stops at a dangling name, and what it did before remains. -/
abbrev Part := ExceptT DanglingName (StateM State)

/-- Keeps the table of build steps as it is now, and what was logged. -/
def record (builds : BuildTable) (log : Log) : Part Unit :=
  modify fun s =>
    { s with shared := { s.shared with builds := builds, log := s.shared.log ++ log } }

/-- Makes the machine of a name. -/
def machine (ctx : Context) (experiment name : String) : Part Machine :=
  match ctx.machines.get? name with
  | none => throw (.machine experiment name)
  | some d => do
    let (m, builds, log) := Machine.ofDef name d (← get).shared.builds
    record builds log
    return m

/-- Makes the suite of a definition. -/
def suite (name : String) (d : SuiteDef) : Part Suite := do
  let (s, builds, log) := Suite.ofDef name d (← get).shared.builds
  record builds log
  return s

/-- Takes a benchmark in, if the filter admits it. -/
def benchmark (ctx : Context) (settings : RunSettings) (machine : Machine) (suite : Suite)
    (b : String × Option BenchmarkDetails) : Part Unit :=
  modify fun s =>
    let bench := Benchmark.ofDetails b.1 b.2 suite machine
    if ctx.filter.admits bench.identity then
      let (o, store) := s.shared.store.register ⟨bench, settings⟩
      { s with shared := { s.shared with store := store }, runs := Walk.list s.runs o }
    else { s with excluded := s.excluded + 1 }

/-- Makes a suite and takes its benchmarks in. -/
def throughSuite (ctx : Context) (settings : RunSettings) (experiment : String)
    (machine : Machine) (name : String) : Part Unit :=
  match ctx.suites.get? name with
  | none => throw (.suite experiment name)
  | some d => do
    let s ← suite name d
    forM d.allBenchmarks (benchmark ctx settings machine s)

/-- Makes a machine and goes through its suites, which are `common` unless there are others. -/
def throughExecution (ctx : Context) (settings : RunSettings) (experiment : String)
    (common : List String) (x : String × Option (List String)) : Part Unit := do
  let m ← machine ctx experiment x.1
  forM (x.2.getD common) (throughSuite ctx settings experiment m)

/-- The plain walk through a whole experiment. -/
def walk (ctx : Context) (name : String) (d : ExperimentDef) : Part Unit :=
  forM d.allExecutions (throughExecution ctx (settingsOf ctx d) name d.suites)

/-- Compiles an experiment by the plain walk. -/
def compile (ctx : Context) (name : String) (d : ExperimentDef) (s : Shared) :
    Except DanglingName Experiment × Shared :=
  match (walk ctx name d).run.run ⟨s, [], 0⟩ with
  | (.error e, t) => (.error e, t.shared)
  | (.ok (), t) =>
    (.ok
      { name := name
        description := d.description
        dataFile := d.dataFile.or ctx.standardDataFile
        settings := settingsOf ctx d
        reporting := ctx.reporting
        clean := ctx.clean
        reporter := ctx.reporter
        options := ctx.options
        runs := t.runs },
      { t.shared with
        log := t.shared.log ++ [compiledLine name t.runs.length t.excluded] })

variable {α β : Type} {s t : State} {x : Part α} {f : α → Part β}

/-- What follows a step that succeeds goes on from its result and its state. -/
lemma run_bind_of_ok {a : α} (h : x.run.run s = (.ok a, t)) :
    (x >>= f).run.run s = (f a).run.run t := by
  rw [ExceptT.run_bind, StateT.run_bind, h]
  rfl

/-- What follows a step that fails is not carried out. -/
lemma run_bind_of_error {e : DanglingName} (h : x.run.run s = (.error e, t)) :
    (x >>= f).run.run s = (.error e, t) := by
  rw [ExceptT.run_bind, StateT.run_bind, h]
  rfl

/-- Looking up a machine fails without changes or makes it of its definition. -/
lemma run_machine (ctx : Context) (experiment name : String) (s : State) :
    (machine ctx experiment name).run.run s =
      match ctx.machines.get? name with
      | none => (.error (.machine experiment name), s)
      | some d =>
        let (m, builds, log) := Machine.ofDef name d s.shared.builds
        let shared := { s.shared with builds := builds, log := s.shared.log ++ log }
        (.ok m, { s with shared := shared }) := by
  unfold machine
  cases ctx.machines.get? name with
  | none => rfl
  | some d => rfl

/-- A suite is made of its definition. -/
lemma run_suite (name : String) (d : SuiteDef) (s : State) :
    (suite name d).run.run s =
      let (x, builds, log) := Suite.ofDef name d s.shared.builds
      let shared := { s.shared with builds := builds, log := s.shared.log ++ log }
      (.ok x, { s with shared := shared }) :=
  rfl

end Anew

end Experiment

/-! ## What is remembered is what would be made again -/

namespace BuildTable

/-- The step of an object that stays the same whatever is recorded later gives this object, records
nothing and logs nothing. -/
lemma intern?_of_madeOf {t : BuildTable} {b : Option BuildStep} {o : Option SharedBuild}
    (h : ∀ u, t.Within u → (u.intern? b).1 = o) : t.intern? b = (o, t, []) := by
  cases b with
  | none =>
    have now : none = o := h t (.refl t)
    rw [← now]
    rfl
  | some b =>
    have now : some (t.intern b).1 = o := h t (.refl t)
    have known := mem_steps_of_intern? h
    obtain ⟨i, place⟩ : ∃ i, t.steps.idxOf? b = some i := by
      rw [← Option.ne_none_iff_exists', Ne, List.idxOf?_eq_none_iff, not_not]
      exact known
    rw [← now, intern?, intern, place]

end BuildTable

/-- To make a remembered machine again gives the same one, records nothing and logs nothing. -/
lemma Machine.ofDef_of_madeOf {m : Machine} {name : String} {d : MachineDef} {t : BuildTable}
    (h : m.MadeOf name d t) : Machine.ofDef name d t = (m, t, []) := by
  have now : (Machine.ofDef name d t).1 = m := h t (.refl t)
  have build : t.intern? (buildStep? d) = (m.build, t, []) :=
    intern?_of_madeOf fun u later => congrArg Machine.build (h u later)
  rw [ofDef, build] at now ⊢
  rw [← now]

/-- Making a suite again changes nothing. -/
lemma Suite.ofDef_of_madeOf {s : Suite} {name : String} {d : SuiteDef} {t : BuildTable}
    (h : s.MadeOf name d t) : Suite.ofDef name d t = (s, t, []) := by
  have now : (Suite.ofDef name d t).1 = s := h t (.refl t)
  have build : t.intern? (buildStep? d) = (s.build, t, []) :=
    intern?_of_madeOf fun u later => congrArg Suite.build (h u later)
  rw [ofDef, build] at now ⊢
  rw [← now]

/-! ## Both walks keep in step -/

namespace Experiment.Walk

variable {ctx : Context} {settings : RunSettings} {w w' : Walk}

/-- What is left of a walk without its memory. -/
def forget (w : Walk) : Anew.State := ⟨w.shared, w.runs, w.excluded⟩

/-- What a part of a walk comes to, without the memory. -/
def outcome : Walk × Option DanglingName → Except DanglingName Unit × Anew.State
  | (w, none) => (.ok (), w.forget)
  | (w, some e) => (.error e, w.forget)

/-- To look a machine up in the memory, or else to make it, comes to the same as to make it. -/
lemma machine?_keeps (hw : Faithful ctx w) (experiment name : String) :
    (Anew.machine ctx experiment name).run.run w.forget =
      match w.machine? ctx name with
      | none => (.error (.machine experiment name), w.forget)
      | some (m, w') => (.ok m, w'.forget) := by
  rw [Anew.run_machine]
  cases found : w.machines.lookup name with
  | some m =>
    obtain ⟨d, defined, made⟩ := hw.machines name m found
    -- making it again would log nothing, so that remembering it leaves no line out
    have again : Machine.ofDef name d w.forget.shared.builds = (m, w.shared.builds, []) :=
      Machine.ofDef_of_madeOf made
    simp only [machine?, found, defined, again]
    rw [forget, List.append_nil]
  | none =>
    simp only [machine?, found]
    cases ctx.machines.get? name with
    | none => rfl
    | some d => rfl

/-- Making a suite anew comes to the suite that the walk comes to and records the same. -/
lemma suite_keeps (hw : Faithful ctx w) {name : String} {d : SuiteDef}
    (defined : ctx.suites.get? name = some d) :
    (Anew.suite name d).run.run w.forget = (.ok (w.suite name d).1, (w.suite name d).2.forget) := by
  rw [Anew.run_suite]
  cases found : w.suites.lookup name with
  | some s =>
    obtain ⟨d', defined', made⟩ := hw.suites name s found
    cases defined.symm.trans defined'
    have again : Suite.ofDef name d w.forget.shared.builds = (s, w.shared.builds, []) :=
      Suite.ofDef_of_madeOf made
    simp only [suite, found, again]
    rw [forget, List.append_nil]
  | none =>
    simp only [suite, found]
    rfl

/-- Taking a benchmark anew does what the walk does. -/
lemma benchmark_keeps (ctx : Context) (settings : RunSettings) (m : Machine) (s : Suite)
    (w : Walk) (b : String × Option BenchmarkDetails) :
    (Anew.benchmark ctx settings m s b).run.run w.forget =
      (.ok (), (benchmark ctx settings m s w b).forget) := by
  unfold benchmark
  by_cases admitted : ctx.filter.admits (Benchmark.ofDetails b.1 b.2 s m).identity
  · simp only [if_pos admitted]
    show (Except.ok (), _) = _
    simp only [if_pos admitted]
    rfl
  · simp only [if_neg admitted]
    show (Except.ok (), _) = _
    simp only [if_neg admitted]
    rfl

/-- Taking the benchmarks of a suite anew does what the walk does. -/
lemma benchmarks_keeps (ctx : Context) (settings : RunSettings) (m : Machine) (s : Suite)
    (w : Walk) (bs : List (String × Option BenchmarkDetails)) :
    (forM bs (Anew.benchmark ctx settings m s)).run.run w.forget =
      (.ok (), (benchmarks ctx settings m s w bs).forget) := by
  induction bs generalizing w with
  | nil => rfl
  | cons b rest ih =>
    rw [List.forM_cons, Anew.run_bind_of_ok (benchmark_keeps ctx settings m s w b)]
    exact ih _

/-- Both walks come to the same through the suites of an execution. -/
lemma throughSuites_keeps (settings : RunSettings) (experiment : String) {mn : String}
    {md : MachineDef} {m : Machine} (hw : Faithful ctx w)
    (machine : ctx.machines.get? mn = some md) (hm : m.MadeOf mn md w.shared.builds)
    (names : List String) :
    (forM names (Anew.throughSuite ctx settings experiment m)).run.run w.forget =
      outcome (throughSuites ctx settings experiment m names w) := by
  induction names generalizing w with
  | nil => rfl
  | cons name rest ih =>
    rw [List.forM_cons, throughSuites]
    cases defined : ctx.suites.get? name with
    | none =>
      have stop : (Anew.throughSuite ctx settings experiment m name).run.run w.forget =
          (.error (.suite experiment name), w.forget) := by
        unfold Anew.throughSuite
        rw [defined]
        rfl
      exact Anew.run_bind_of_error stop
    | some d =>
      have first := suiteBenchmarks_takes settings hw machine defined hm
      have step : (Anew.throughSuite ctx settings experiment m name).run.run w.forget =
          (.ok (), (benchmarks ctx settings m (w.suite name d).1 (w.suite name d).2
            d.allBenchmarks).forget) := by
        unfold Anew.throughSuite
        rw [defined]
        exact (Anew.run_bind_of_ok (suite_keeps hw defined)).trans
          (benchmarks_keeps ctx settings m _ _ d.allBenchmarks)
      rw [Anew.run_bind_of_ok step]
      exact ih first.faithful (hm.mono first.within)

/-- Both walks come to the same through the executions of an experiment. -/
lemma throughExecutions_keeps (settings : RunSettings) (experiment : String)
    (common : List String) (hw : Faithful ctx w) (xs : List (String × Option (List String))) :
    (forM xs (Anew.throughExecution ctx settings experiment common)).run.run w.forget =
      outcome (throughExecutions ctx settings experiment common xs w) := by
  -- what this execution leaves in the memory is faithful again, which the rest needs
  induction xs generalizing w with
  | nil => rfl
  | cons x rest ih =>
    obtain ⟨name, own⟩ := x
    have machine := machine?_keeps hw experiment name
    rw [List.forM_cons, throughExecutions]
    cases found : w.machine? ctx name with
    | none =>
      rw [found] at machine
      exact Anew.run_bind_of_error (Anew.run_bind_of_error machine)
    | some found' =>
      obtain ⟨m, w₁⟩ := found'
      rw [found] at machine
      obtain ⟨d, defined, made, first⟩ := machine?_takes settings hw found
      have suites := throughSuites_keeps settings experiment first.faithful defined made
        (own.getD common)
      have passed := (throughSuites_passes settings experiment first.faithful defined made
        (own.getD common)).1
      have faithful := (passed.takes first.faithful).faithful
      have step : (Anew.throughExecution ctx settings experiment common (name, own)).run.run
          w.forget = outcome (throughSuites ctx settings experiment m (own.getD common) w₁) := by
        rw [Anew.throughExecution, Anew.run_bind_of_ok machine]
        exact suites
      dsimp only
      generalize throughSuites ctx settings experiment m (own.getD common) w₁ = result at *
      obtain ⟨w₂, _ | e⟩ := result
      · rw [Anew.run_bind_of_ok step]
        exact ih faithful
      · exact Anew.run_bind_of_error step

end Experiment.Walk

namespace Experiment

/-- To compile an experiment with a memory of its machines and suites is to compile it without one:
the same experiment with the same objects for its runs and their build steps, or the same dangling
name, and afterwards the same store, the same table of build steps and the same log. -/
theorem compile_anew (ctx : Context) (name : String) (d : ExperimentDef) (s : Shared) :
    compile ctx name d s = Anew.compile ctx name d s := by
  have walks : (Anew.walk ctx name d).run.run ⟨s, [], 0⟩ = Walk.outcome (walk ctx name d s) :=
    Walk.throughExecutions_keeps _ name d.suites (.start ctx s) d.allExecutions
  rw [compile, Anew.compile, walks]
  obtain ⟨w, _ | e⟩ := walk ctx name d s
  · rfl
  · rfl

end Experiment

end BenchPlan
