import BenchPlan.Proofs.Walk

/-!
# What compiling an experiment comes to

Compiling fails exactly if a reference leads nowhere, and then with the first of these
(`compile_of_dangling`); otherwise the experiment holds what the walk listed
(`compile_of_resolved`). What it listed is said without the walk in `compile_slots`: one object for
the first admitted slot of each key, in the order of the slots, namely the one that the store held
for the key or else the one for the run of that slot.
-/

namespace BenchPlan.Experiment

open Walk Slot

variable {ctx : Context} {settings : RunSettings} {name : String} {d : ExperimentDef} {s : Shared}
  {x : Experiment}

/-- The experiment of a finished walk. -/
def ofWalk (ctx : Context) (name : String) (d : ExperimentDef) (w : Walk) : Experiment where
  name := name
  description := d.description
  dataFile := d.dataFile.or ctx.standardDataFile
  settings := settingsOf ctx d
  reporting := ctx.reporting
  clean := ctx.clean
  reporter := ctx.reporter
  options := ctx.options
  runs := w.runs

/-- Compiling fails with the first reference that leads nowhere. -/
lemma compile_of_dangling {r : Reference}
    (h : Reference.firstDangling ctx.machines ctx.suites d.references = some r) :
    compile ctx name d s = (.error (r.dangling name), (walk ctx name d s).1.shared) := by
  have stop := walk_snd ctx name d s
  rw [h] at stop
  unfold compile
  generalize walk ctx name d s = result at *
  obtain ⟨w, e⟩ := result
  cases stop
  rfl

/-- Compiling succeeds if all references lead somewhere. -/
lemma compile_of_resolved
    (h : Reference.firstDangling ctx.machines ctx.suites d.references = none) :
    compile ctx name d s =
      (.ok (ofWalk ctx name d (walk ctx name d s).1),
        { (walk ctx name d s).1.shared with
          log := (walk ctx name d s).1.shared.log ++
            [compiledLine name (walk ctx name d s).1.runs.length
              (walk ctx name d s).1.excluded] }) := by
  have stop := walk_snd ctx name d s
  rw [h] at stop
  unfold compile
  generalize walk ctx name d s = result at *
  obtain ⟨w, e⟩ := result
  cases stop
  rfl

/-- If an experiment was compiled, all its references lead somewhere. -/
lemma resolved_of_compile (h : (compile ctx name d s).1 = .ok x) :
    Reference.firstDangling ctx.machines ctx.suites d.references = none := by
  cases e : Reference.firstDangling ctx.machines ctx.suites d.references with
  | none => rfl
  | some r =>
    rw [compile_of_dangling e] at h
    cases h

/-- A compiled experiment is that of its walk. -/
lemma ofWalk_of_compile (h : (compile ctx name d s).1 = .ok x) :
    x = ofWalk ctx name d (walk ctx name d s).1 := by
  rw [compile_of_resolved (resolved_of_compile h)] at h
  cases h
  rfl

/-- A walk through an experiment whose references all lead somewhere takes all slots. -/
lemma walk_takes_slots (name : String) (s : Shared)
    (h : Reference.firstDangling ctx.machines ctx.suites d.references = none) :
    Takes ctx (settingsOf ctx d) (start s) (d.slots ctx.machines ctx.suites)
      (walk ctx name d s).1 := by
  have takes := walk_takes ctx name d s
  rwa [met, Reference.settled_eq h, ← ExperimentDef.slots_eq] at takes

/-- The object listed for a slot is what the store holds for its key: it was there before, or it is
for the run of the slot. -/
structure Represents (settings : RunSettings) (before after : RunStore) (t : BuildTable) (l : Slot)
    (o : SharedRun) : Prop where
  held : after.find? (l.key settings) = some o
  origin : before.find? (l.key settings) = some o ∨
    before.find? (l.key settings) = none ∧ o.run = l.run t settings

/-- The run that represents a slot has its key. -/
lemma Represents.key {before after : RunStore} {t : BuildTable} {l : Slot} {o : SharedRun}
    (h : Represents settings before after t l o) : o.run.key = l.key settings :=
  RunStore.key_of_find? h.held

/-- A search for the run of a key among admitted slots is a search for the slot. -/
lemma find?_runsOf (ctx : Context) (settings : RunSettings) (t : BuildTable) (ls : List Slot)
    (k : RunKey) :
    (runsOf ctx settings t ls).find? (fun r => r.key == k) =
      ((admitted ctx.filter ls).find? fun l => l.key settings == k).map
        (Slot.run t settings) := by
  rw [runsOf, List.find?_map]
  rfl

/-- A walk from its beginning lists one object for the first admitted slot of each key. -/
lemma Walk.Takes.represents {ls : List Slot} {w : Walk} (h : Takes ctx settings (start s) ls w)
    {t : BuildTable} (later : w.shared.builds.Within t) :
    List.Forall₂ (Represents settings s.store w.shared.store t)
      (firsts (Slot.key settings) (admitted ctx.filter ls)) w.runs := by
  -- what is handed out for the admitted slots
  have handed := RunStore.forall₂_registerAll s.store (runsOf ctx settings t ls)
  rw [runsOf, List.forall₂_map_left_iff, ← runsOf] at handed
  have store : w.shared.store = (s.store.registerAll (runsOf ctx settings t ls)).2 :=
    h.store t later
  -- of this the first of each key is listed
  have runs := h.runs t later
  rw [show (start s).runs = [] from rfl, foldl_list_nil] at runs
  have listed := forall₂_firsts (f := Slot.key settings) (g := fun o => o.run.key)
    (fun l o held => (RunStore.key_of_find? held).symm) handed
  have listed := (List.forall₂_and_left _ _).2 ⟨fun l m => mem_firsts.1 m, listed⟩
  rw [runs]
  refine listed.imp ?_
  rintro l o ⟨first, held⟩
  refine ⟨store ▸ held, ?_⟩
  cases old : s.store.find? (l.key settings) with
  | some o' =>
    have kept := RunStore.find?_registerAll_old old (runsOf ctx settings t ls)
    exact .inl (kept.symm.trans held)
  | none =>
    have new := RunStore.find?_registerAll_new old (runsOf ctx settings t ls)
    rw [find?_runsOf, first, ← key_run t settings l, held] at new
    exact .inr ⟨rfl, Option.some.inj new⟩

/-- A compiled experiment lists one object for the first admitted slot of each key. -/
lemma compile_represents (h : (compile ctx name d s).1 = .ok x) {t : BuildTable}
    (later : (compile ctx name d s).2.builds.Within t) :
    List.Forall₂
      (Represents (settingsOf ctx d) s.store (compile ctx name d s).2.store t)
      (firsts (Slot.key (settingsOf ctx d))
        (admitted ctx.filter (d.slots ctx.machines ctx.suites))) x.runs := by
  have resolved := resolved_of_compile h
  rw [compile_of_resolved resolved] at later ⊢
  rw [ofWalk_of_compile h]
  exact (walk_takes_slots name s resolved).represents later

/-- For every admitted slot an experiment lists the object that the store then holds for its key. -/
lemma held_of_compile (h : (compile ctx name d s).1 = .ok x) {l : Slot}
    (m : l ∈ admitted ctx.filter (d.slots ctx.machines ctx.suites)) :
    ∃ o ∈ x.runs, (compile ctx name d s).2.store.find? (l.key (settingsOf ctx d)) = some o := by
  obtain ⟨l', first, e⟩ := exists_mem_firsts (f := Slot.key (settingsOf ctx d)) m
  obtain ⟨o, listed, represents⟩ := exists_mem_of_forall₂ (compile_represents h (.refl _)) first
  exact ⟨o, listed, e ▸ represents.held⟩

/-- An object listed by an experiment is what the store then holds for its key. -/
lemma find?_of_compile (h : (compile ctx name d s).1 = .ok x) {o : SharedRun} (m : o ∈ x.runs) :
    (compile ctx name d s).2.store.find? o.run.key = some o := by
  have listed := compile_represents h (.refl _)
  obtain ⟨l, _, represents⟩ := exists_mem_of_forall₂ (R := flip _) listed.flip m
  exact represents.key ▸ represents.held

/-- An experiment lists the first object of each key that is handed out for its admitted slots. -/
lemma runs_of_compile (h : (compile ctx name d s).1 = .ok x) {t : BuildTable}
    (later : (compile ctx name d s).2.builds.Within t) :
    x.runs = firsts (fun o => o.run.key) (s.store.registerAll
      (runsOf ctx (settingsOf ctx d) t (d.slots ctx.machines ctx.suites))).1 := by
  have resolved := resolved_of_compile h
  rw [compile_of_resolved resolved] at later
  have runs := (walk_takes_slots name s resolved).runs t later
  rw [show (start s).runs = [] from rfl, foldl_list_nil] at runs
  rw [ofWalk_of_compile h]
  exact runs

/-- The objects listed by an experiment are of different keys. -/
lemma compile_pairwise (h : (compile ctx name d s).1 = .ok x) :
    x.runs.Pairwise fun o o' => o.run.same o'.run = false := by
  rw [runs_of_compile h (.refl _)]
  refine (pairwise_firsts _ _).imp ?_
  intro o o' other
  simpa [Run.same] using other

/-- What a compilation leaves is what its walk leaves, with a line in the log if it succeeds. -/
lemma compile_snd (ctx : Context) (name : String) (d : ExperimentDef) (s : Shared) :
    (compile ctx name d s).2.store = (walk ctx name d s).1.shared.store ∧
      (compile ctx name d s).2.builds = (walk ctx name d s).1.shared.builds := by
  unfold compile
  split
  · rename_i w e result
    rw [result]
    exact ⟨rfl, rfl⟩
  · rename_i w result
    rw [result]
    exact ⟨rfl, rfl⟩

/-- What was recorded before a compilation is recorded after it, also if it fails. -/
lemma compile_within (ctx : Context) (name : String) (d : ExperimentDef) (s : Shared) :
    s.builds.Within (compile ctx name d s).2.builds := by
  rw [(compile_snd ctx name d s).2]
  exact (walk_takes ctx name d s).within

/-- A run that the store holds after a compilation, also if it fails, was there before or is that of
the first admitted slot with its key. -/
lemma mem_store_compile {r : Run} (m : r ∈ (compile ctx name d s).2.store.runs) :
    r ∈ s.store.runs ∨ ∃ l,
      (admitted ctx.filter (met ctx d)).find? (fun l => l.key (settingsOf ctx d) == r.key) =
        some l ∧
      ∀ t, (compile ctx name d s).2.builds.Within t → r = l.run t (settingsOf ctx d) := by
  obtain ⟨store, builds⟩ := compile_snd ctx name d s
  have takes := walk_takes ctx name d s
  rw [store] at m
  rw [builds]
  have first := m
  rw [takes.store _ (.refl _)] at first
  cases RunStore.mem_registerAll first with
  | inl old => exact .inl old
  | inr h =>
    obtain ⟨new, first⟩ := h
    rw [find?_runsOf] at first
    obtain ⟨l, found, _⟩ := Option.map_eq_some_iff.1 first
    refine .inr ⟨l, found, ?_⟩
    intro t later
    rw [takes.store t later] at m
    -- the slot is the same with every later table, and so is the run
    cases RunStore.mem_registerAll m with
    | inl old =>
      obtain ⟨o, held⟩ := RunStore.find?_of_mem old
      cases new.symm.trans held
    | inr h =>
      have first := h.2
      rw [find?_runsOf, found] at first
      cases first
      rfl

/-- What is logged while an experiment is compiled: the build steps that are recorded, and at the
end how many runs it lists and how many slots the filter kept out. -/
lemma compile_recorded (h : (compile ctx name d s).1 = .ok x) :
    ∃ traces, BuildTable.Recorded s.builds traces (compile ctx name d s).2.builds ∧
      (compile ctx name d s).2.log = s.log ++ traces ++
        [compiledLine name x.runs.length
          (rejected ctx.filter (d.slots ctx.machines ctx.suites)).length] := by
  have resolved := resolved_of_compile h
  have takes := walk_takes_slots name s resolved
  obtain ⟨traces, change, log⟩ := takes.recorded
  have excluded := takes.excluded
  rw [show (start s).excluded = 0 from rfl, Nat.zero_add] at excluded
  refine ⟨traces, ?_, ?_⟩
  · rw [(compile_snd ctx name d s).2]
    exact change
  · rw [compile_of_resolved resolved, ofWalk_of_compile h, ← excluded]
    exact congrArg (· ++ _) log

/-- Compiling an experiment logs traces and in the end one line with its numbers of runs. -/
lemma compile_log (h : (compile ctx name d s).1 = .ok x) :
    ∃ traces, (∀ line ∈ traces, line.level = .trace) ∧
      (compile ctx name d s).2.log = s.log ++ traces ++
        [compiledLine name x.runs.length
          (rejected ctx.filter (d.slots ctx.machines ctx.suites)).length] := by
  obtain ⟨traces, change, log⟩ := compile_recorded h
  exact ⟨traces, change.level, log⟩

/-- A suite that lists a benchmark twice, the second time with a command of its own. -/
def demoSuite : SuiteDef where
  gaugeAdapter := "Time"
  command := "run %(benchmark)s"
  location := none
  build := some ["make"]
  benchmarks := [.name "A", .detailed (Table.ofList [("A", ⟨none, some "other"⟩), ("B", default)])]

/-- A machine with a build step. -/
def demoMachine : MachineDef := ⟨some "/opt/v/", "v", none, some ["./build.sh"]⟩

/-- An experiment that asks for a suite on a machine more than once. -/
def demoExperiment : ExperimentDef where
  description := none
  dataFile := none
  runs := none
  suites := ["S", "S"]
  executions := [.machine "V", .detailed (Table.ofList [("V", ⟨some ["S"]⟩), ("W", ⟨none⟩)])]

/-- A configuration with two experiments that share runs. -/
def demoConfig : Config where
  runs := none
  standardDataFile := none
  standardExperiment := none
  buildLogFile := none
  reporting := Table.empty
  suites := Table.ofList [("S", demoSuite)]
  machines := Table.ofList [("V", demoMachine), ("W", demoMachine)]
  experiments := Table.ofList [("D", demoExperiment), ("E", demoExperiment)]

/-- The experiments of the configuration, with a filter for one machine. -/
def demoContext : Context where
  settings := .defaults
  machines := demoConfig.machines
  suites := demoConfig.suites
  reporting := demoConfig.reporting
  standardDataFile := none
  clean := false
  reporter := none
  filter := ⟨[.machine "V"], []⟩
  options := none

/-- A store that holds a run of another configuration under a key that the experiment asks for. -/
def demoShared : Shared where
  store := ⟨[⟨⟨"B", ⟨"S", "", "stale", none, none⟩, ⟨"V", none, "", none, none⟩, none, none⟩,
    .defaults⟩]⟩
  builds := BuildTable.empty 0
  log := []

end BenchPlan.Experiment
