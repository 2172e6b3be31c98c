import BenchPlan.Proofs.Recording
import BenchPlan.Proofs.Registration
import BenchPlan.Proofs.Slots

/-!
# The walk through an experiment

A part of a walk that meets certain slots is described by `Takes`: the runs of the admitted slots
are registered in turn, what is handed out for them is listed, the others are counted, and build
steps are recorded on the way. The description speaks of the runs as they are built with any later
table of build steps, so that it needs no word on when a step is recorded. It rests on what a walk
remembers: every machine and suite that was made is that of its definition (`Faithful`). The whole
walk passes all references before the first that leads nowhere (`walk_passes`), which is to take
their slots (`walk_takes`), and it reports that reference (`walk_snd`). What else a walk does on its
way is shown by induction on the references that it passes.
-/

namespace BenchPlan

open BuildTable Slot

/-- What holds of a new value and of all values found before holds of all found with the new one. -/
lemma forall_lookup_cons {α : Type} {P : String → α → Prop} {name : String} {x : α}
    {xs : List (String × α)} (new : P name x) (old : ∀ n y, xs.lookup n = some y → P n y) :
    ∀ n y, ((name, x) :: xs).lookup n = some y → P n y := by
  intro n y found
  rw [List.lookup_cons] at found
  split at found
  · rename_i e
    cases found
    rw [beq_iff_eq] at e
    exact e ▸ new
  · exact old n y found

/-- A machine is that of a definition, with the objects of a table and of all its later states. -/
def Machine.MadeOf (m : Machine) (name : String) (d : MachineDef) (t : BuildTable) : Prop :=
  ∀ u, t.Within u → (Machine.ofDef name d u).1 = m

/-- A suite is that of a definition, with the objects of a table and of all its later states. -/
def Suite.MadeOf (s : Suite) (name : String) (d : SuiteDef) (t : BuildTable) : Prop :=
  ∀ u, t.Within u → (Suite.ofDef name d u).1 = s

/-- A machine remains that of its definition. -/
lemma Machine.MadeOf.mono {m : Machine} {name : String} {d : MachineDef} {t u : BuildTable}
    (h : m.MadeOf name d t) (within : t.Within u) : m.MadeOf name d u :=
  fun v later => h v (within.trans later)

/-- A suite remains that of its definition. -/
lemma Suite.MadeOf.mono {s : Suite} {name : String} {d : SuiteDef} {t u : BuildTable}
    (h : s.MadeOf name d t) (within : t.Within u) : s.MadeOf name d u :=
  fun v later => h v (within.trans later)

namespace Experiment.Walk

variable {ctx : Context} {settings : RunSettings} {w w' : Walk}

/-- All that was made on a walk is that of its definition. -/
structure Faithful (ctx : Context) (w : Walk) : Prop where
  machines : ∀ name m, w.machines.lookup name = some m →
    ∃ d, ctx.machines.get? name = some d ∧ m.MadeOf name d w.shared.builds
  suites : ∀ name s, w.suites.lookup name = some s →
    ∃ d, ctx.suites.get? name = some d ∧ s.MadeOf name d w.shared.builds

/-- Nothing was made at the beginning of a walk. -/
lemma Faithful.start (ctx : Context) (s : Shared) : Faithful ctx (Walk.start s) :=
  ⟨nofun, nofun⟩

/-- The machines that were made remain those of their definitions. -/
lemma Faithful.machines_mono (h : Faithful ctx w) {t : BuildTable}
    (within : w.shared.builds.Within t) :
    ∀ name m, w.machines.lookup name = some m →
      ∃ d, ctx.machines.get? name = some d ∧ m.MadeOf name d t := by
  intro name m found
  obtain ⟨d, defined, made⟩ := h.machines name m found
  exact ⟨d, defined, made.mono within⟩

/-- The suites that were made remain those of their definitions. -/
lemma Faithful.suites_mono (h : Faithful ctx w) {t : BuildTable}
    (within : w.shared.builds.Within t) :
    ∀ name s, w.suites.lookup name = some s →
      ∃ d, ctx.suites.get? name = some d ∧ s.MadeOf name d t := by
  intro name s found
  obtain ⟨d, defined, made⟩ := h.suites name s found
  exact ⟨d, defined, made.mono within⟩

/-- The runs of the slots that the filter admits. -/
def runsOf (ctx : Context) (settings : RunSettings) (t : BuildTable) (ls : List Slot) : List Run :=
  (admitted ctx.filter ls).map (Slot.run t settings)

/-- Slots one after the other have their runs one after the other. -/
lemma runsOf_append (ctx : Context) (settings : RunSettings) (t : BuildTable) (ls ls' : List Slot) :
    runsOf ctx settings t (ls ++ ls') =
      runsOf ctx settings t ls ++ runsOf ctx settings t ls' := by
  simp only [runsOf, admitted, List.filter_append, List.map_append]

/-- A part of a walk takes slots: it leads from `w` to `w'` and meets `ls` on the way. -/
structure Takes (ctx : Context) (settings : RunSettings) (w : Walk) (ls : List Slot) (w' : Walk) :
    Prop where
  recorded : ∃ log, Recorded w.shared.builds log w'.shared.builds ∧
    w'.shared.log = w.shared.log ++ log
  store : ∀ t, w'.shared.builds.Within t →
    w'.shared.store = (w.shared.store.registerAll (runsOf ctx settings t ls)).2
  runs : ∀ t, w'.shared.builds.Within t →
    w'.runs = (w.shared.store.registerAll (runsOf ctx settings t ls)).1.foldl list w.runs
  excluded : w'.excluded = w.excluded + (rejected ctx.filter ls).length
  faithful : Faithful ctx w'

/-- What a part of a walk records is still there afterwards. -/
lemma Takes.within {ls : List Slot} (h : Takes ctx settings w ls w') :
    w.shared.builds.Within w'.shared.builds := by
  obtain ⟨log, change, _⟩ := h.recorded
  exact change.within

/-- Standing still takes no slot. -/
lemma Takes.refl (settings : RunSettings) (h : Faithful ctx w) : Takes ctx settings w [] w where
  recorded := ⟨[], .refl _, (List.append_nil _).symm⟩
  store := fun _ _ => rfl
  runs := fun _ _ => rfl
  excluded := rfl
  faithful := h

/-- To make something, record its build step and remember it takes no slot. -/
lemma Takes.of_recorded (settings : RunSettings) {log : Log} {t : BuildTable}
    {ms : List (String × Machine)} {ss : List (String × Suite)}
    (change : Recorded w.shared.builds log t)
    (machines : ∀ name m, ms.lookup name = some m →
      ∃ d, ctx.machines.get? name = some d ∧ m.MadeOf name d t)
    (suites : ∀ name s, ss.lookup name = some s →
      ∃ d, ctx.suites.get? name = some d ∧ s.MadeOf name d t) :
    Takes ctx settings w []
      { w with
        shared := { w.shared with builds := t, log := w.shared.log ++ log }
        machines := ms
        suites := ss } where
  recorded := ⟨log, change, rfl⟩
  store := fun _ _ => rfl
  runs := fun _ _ => rfl
  excluded := rfl
  faithful := ⟨machines, suites⟩

/-- Parts of a walk one after the other take their slots one after the other. -/
lemma Takes.trans {w'' : Walk} {ls ls' : List Slot} (h : Takes ctx settings w ls w')
    (h' : Takes ctx settings w' ls' w'') : Takes ctx settings w (ls ++ ls') w'' where
  recorded := by
    obtain ⟨log, change, e⟩ := h.recorded
    obtain ⟨log', change', e'⟩ := h'.recorded
    exact ⟨log ++ log', change.trans change', by rw [e', e, List.append_assoc]⟩
  store := by
    intro t later
    rw [h'.store t later, h.store t (h'.within.trans later), runsOf_append,
      RunStore.registerAll_append]
  runs := by
    intro t later
    rw [h'.runs t later, h.runs t (h'.within.trans later), h.store t (h'.within.trans later),
      runsOf_append, RunStore.registerAll_append, List.foldl_append]
  excluded := by
    rw [h'.excluded, h.excluded, rejected, rejected, rejected, List.filter_append,
      List.length_append, Nat.add_assoc]
  faithful := h'.faithful

/-- A name without a machine has no definition. -/
lemma machine?_eq_none {name : String} (h : w.machine? ctx name = none) :
    ctx.machines.get? name = none := by
  unfold machine? at h
  split at h
  · cases h
  · exact Option.map_eq_none_iff.1 h

/-- The machine of a name is that of the definition; to get it takes no slot. -/
lemma machine?_takes (settings : RunSettings) (hw : Faithful ctx w) {name : String} {m : Machine}
    (h : w.machine? ctx name = some (m, w')) :
    ∃ d, ctx.machines.get? name = some d ∧ m.MadeOf name d w'.shared.builds ∧
      Takes ctx settings w [] w' := by
  unfold machine? at h
  split at h
  · rename_i m' found
    cases h
    obtain ⟨d, defined, made⟩ := hw.machines name m found
    exact ⟨d, defined, made, .refl settings hw⟩
  · obtain ⟨d, defined, e⟩ := Option.map_eq_some_iff.1 h
    cases e
    have change := Machine.ofDef_recorded name d w.shared.builds
    have made : (Machine.ofDef name d w.shared.builds).1.MadeOf name d
        (Machine.ofDef name d w.shared.builds).2.1 := fun _ => Machine.ofDef_within
    have machines := hw.machines_mono change.within
    have suites := hw.suites_mono change.within
    refine ⟨d, defined, made, .of_recorded settings change ?_ suites⟩
    exact forall_lookup_cons ⟨d, defined, made⟩ machines

/-- The suite of a name is that of the definition; to get it takes no slot. -/
lemma suite_takes (settings : RunSettings) (hw : Faithful ctx w) {name : String} {d : SuiteDef}
    (defined : ctx.suites.get? name = some d) :
    (w.suite name d).1.MadeOf name d (w.suite name d).2.shared.builds ∧
      Takes ctx settings w [] (w.suite name d).2 := by
  unfold suite
  split
  · rename_i s found
    obtain ⟨d', defined', made⟩ := hw.suites name s found
    cases defined.symm.trans defined'
    exact ⟨made, .refl settings hw⟩
  · have change := Suite.ofDef_recorded name d w.shared.builds
    have made : (Suite.ofDef name d w.shared.builds).1.MadeOf name d
        (Suite.ofDef name d w.shared.builds).2.1 := fun _ => Suite.ofDef_within
    have machines := hw.machines_mono change.within
    have suites := hw.suites_mono change.within
    refine ⟨made, .of_recorded settings change machines ?_⟩
    exact forall_lookup_cons ⟨d, defined, made⟩ suites

/-- To take a benchmark in is to take its slot, if machine and suite are those of the slot. -/
lemma benchmark_takes (settings : RunSettings) (hw : Faithful ctx w) {l : Slot} {m : Machine}
    {s : Suite} (hm : m.MadeOf l.machine l.machineDef w.shared.builds)
    (hs : s.MadeOf l.suite l.suiteDef w.shared.builds) :
    Takes ctx settings w [l] (benchmark ctx settings m s w (l.benchmark, l.details)) ∧
      (benchmark ctx settings m s w (l.benchmark, l.details)).shared.builds = w.shared.builds := by
  have slotRun : ∀ t, w.shared.builds.Within t →
      l.run t settings = ⟨Benchmark.ofDetails l.benchmark l.details s m, settings⟩ := by
    intro t later
    rw [Slot.run, hm t later, hs t later]
  have identity : (Benchmark.ofDetails l.benchmark l.details s m).identity = l.identity := by
    have e := slotRun _ (.refl _)
    rw [← l.identity_run w.shared.builds settings, e]
  unfold benchmark
  simp only [identity]
  by_cases h : ctx.filter.admits l.identity
  · have runs : ∀ t, w.shared.builds.Within t → runsOf ctx settings t [l] =
        [⟨Benchmark.ofDetails l.benchmark l.details s m, settings⟩] := by
      intro t later
      rw [runsOf, admitted, List.filter_cons_of_pos (by simpa using h), List.filter_nil,
        List.map_singleton, slotRun t later]
    have excluded : rejected ctx.filter [l] = [] := by simp [rejected, h]
    rw [if_pos h]
    refine ⟨⟨⟨[], .refl _, (List.append_nil _).symm⟩, ?_, ?_, ?_, hw.machines, hw.suites⟩, rfl⟩
    · intro t later
      rw [runs t later]
      rfl
    · intro t later
      rw [runs t later]
      rfl
    · rw [excluded]
      rfl
  · have runs : ∀ t, runsOf ctx settings t [l] = [] := by
      intro t
      simp [runsOf, admitted, h]
    have excluded : rejected ctx.filter [l] = [l] := by simp [rejected, h]
    rw [if_neg h]
    refine ⟨⟨⟨[], .refl _, (List.append_nil _).symm⟩, ?_, ?_, ?_, hw.machines, hw.suites⟩, rfl⟩
    · intro t _
      rw [runs t]
      rfl
    · intro t _
      rw [runs t]
      rfl
    · rw [excluded]
      rfl

/-- To take the benchmarks of a suite in is to take their slots. -/
lemma benchmarks_takes (settings : RunSettings) {m : Machine} {s : Suite} {mn sn : String}
    {md : MachineDef} {sd : SuiteDef} (hw : Faithful ctx w) (hm : m.MadeOf mn md w.shared.builds)
    (hs : s.MadeOf sn sd w.shared.builds) (bs : List (String × Option BenchmarkDetails)) :
    Takes ctx settings w (bs.map fun b => ⟨mn, md, sn, sd, b.1, b.2⟩)
      (benchmarks ctx settings m s w bs) := by
  induction bs generalizing w with
  | nil => exact .refl settings hw
  | cons b rest ih =>
    -- no build step is recorded here, so machine and suite are still those of their definitions
    obtain ⟨first, builds⟩ := benchmark_takes settings (l := ⟨mn, md, sn, sd, b.1, b.2⟩) hw hm hs
    exact first.trans (ih first.faithful (builds ▸ hm) (builds ▸ hs))

/-- A part of a walk passes references: it leads from `w` to `w'` and comes to `refs` in turn, each
of them a machine that it gets or a suite that it gets and whose benchmarks it takes in. -/
inductive Passes (ctx : Context) (settings : RunSettings) :
    Walk → List Reference → Walk → Prop where
  | nil {w : Walk} : Passes ctx settings w [] w
  | machine {w w' w'' : Walk} {name : String} {m : Machine} {refs : List Reference}
      (found : w.machine? ctx name = some (m, w')) (rest : Passes ctx settings w' refs w'') :
      Passes ctx settings w (.machine name :: refs) w''
  | suite {w w' : Walk} {mn name : String} {md : MachineDef} {m : Machine} {d : SuiteDef}
      {refs : List Reference} (machine : ctx.machines.get? mn = some md)
      (defined : ctx.suites.get? name = some d) (made : m.MadeOf mn md w.shared.builds)
      (rest : Passes ctx settings (benchmarks ctx settings m (w.suite name d).1 (w.suite name d).2
        d.allBenchmarks) refs w') :
      Passes ctx settings w (.suite mn name :: refs) w'

/-- What passes references and then more passes all of them. -/
lemma Passes.append {w'' : Walk} {refs more : List Reference} (h : Passes ctx settings w refs w')
    (h' : Passes ctx settings w' more w'') : Passes ctx settings w (refs ++ more) w'' := by
  induction h with
  | nil => exact h'
  | machine found _ ih => exact .machine found (ih h')
  | suite machine defined made _ ih => exact .suite machine defined made (ih h')

/-- To get a suite and to take its benchmarks in is to take the slots of the reference to it. -/
lemma suiteBenchmarks_takes (settings : RunSettings) {mn name : String} {md : MachineDef}
    {m : Machine} {d : SuiteDef} (hw : Faithful ctx w) (machine : ctx.machines.get? mn = some md)
    (defined : ctx.suites.get? name = some d) (hm : m.MadeOf mn md w.shared.builds) :
    Takes ctx settings w (Reference.slots ctx.machines ctx.suites (.suite mn name))
      (benchmarks ctx settings m (w.suite name d).1 (w.suite name d).2 d.allBenchmarks) := by
  have slots : Reference.slots ctx.machines ctx.suites (.suite mn name) =
      d.allBenchmarks.map fun b => ⟨mn, md, name, d, b.1, b.2⟩ := by
    simp [Reference.slots, suiteSlots, machine, defined]
  obtain ⟨made, first⟩ := suite_takes settings hw defined
  rw [slots]
  exact first.trans
    (benchmarks_takes settings first.faithful (hm.mono first.within) made d.allBenchmarks)

/-- To pass references is to take their slots. -/
lemma Passes.takes {refs : List Reference} (h : Passes ctx settings w refs w')
    (hw : Faithful ctx w) :
    Takes ctx settings w (refs.flatMap (Reference.slots ctx.machines ctx.suites)) w' := by
  induction h with
  | nil => exact .refl settings hw
  | machine found _ ih =>
    obtain ⟨_, _, _, first⟩ := machine?_takes settings hw found
    exact first.trans (ih first.faithful)
  | suite machine defined made _ ih =>
    have first := suiteBenchmarks_takes settings hw machine defined made
    rw [List.flatMap_cons]
    exact first.trans (ih first.faithful)

/-- A walk through suites passes those before the first without a definition. -/
lemma throughSuites_passes (settings : RunSettings) (experiment : String) {mn : String}
    {md : MachineDef} {m : Machine} (hw : Faithful ctx w)
    (machine : ctx.machines.get? mn = some md) (hm : m.MadeOf mn md w.shared.builds)
    (names : List String) :
    Passes ctx settings w
        (Reference.settled ctx.machines ctx.suites (names.map (.suite mn)))
        (throughSuites ctx settings experiment m names w).1 ∧
      (throughSuites ctx settings experiment m names w).2 =
        (Reference.firstDangling ctx.machines ctx.suites (names.map (.suite mn))).map
          (Reference.dangling experiment) := by
  induction names generalizing w with
  | nil => exact ⟨.nil, rfl⟩
  | cons name rest ih =>
    cases h : ctx.suites.get? name with
    | none =>
      have unresolved :
          Reference.resolves ctx.machines ctx.suites (.suite mn name) = false := by
        simp [Reference.resolves, Table.contains, h]
      rw [List.map_cons, Reference.settled_of_unresolved unresolved,
        Reference.firstDangling_of_unresolved unresolved]
      simp only [throughSuites, h]
      exact ⟨.nil, rfl⟩
    | some d =>
      have resolved :
          Reference.resolves ctx.machines ctx.suites (.suite mn name) = true := by
        simp [Reference.resolves, Table.contains, h]
      have first := suiteBenchmarks_takes settings hw machine h hm
      obtain ⟨later, outcome⟩ := ih first.faithful (hm.mono first.within)
      rw [List.map_cons, Reference.settled_of_resolved resolved,
        Reference.firstDangling_of_resolved resolved]
      simp only [throughSuites, h]
      exact ⟨.suite machine h hm later, outcome⟩

/-- A walk through executions passes the references before the first without a definition. -/
lemma throughExecutions_passes (settings : RunSettings) (experiment : String)
    (common : List String) (hw : Faithful ctx w) (xs : List (String × Option (List String))) :
    Passes ctx settings w
        (Reference.settled ctx.machines ctx.suites (xs.flatMap (executionReferences common)))
        (throughExecutions ctx settings experiment common xs w).1 ∧
      (throughExecutions ctx settings experiment common xs w).2 =
        (Reference.firstDangling ctx.machines ctx.suites
          (xs.flatMap (executionReferences common))).map (Reference.dangling experiment) := by
  induction xs generalizing w with
  | nil => exact ⟨.nil, rfl⟩
  | cons x rest ih =>
    obtain ⟨name, own⟩ := x
    rw [List.flatMap_cons, executionReferences, List.cons_append]
    cases h : w.machine? ctx name with
    | none =>
      have unresolved : Reference.resolves ctx.machines ctx.suites (.machine name) = false := by
        simp [Reference.resolves, Table.contains, machine?_eq_none h]
      rw [Reference.settled_of_unresolved unresolved,
        Reference.firstDangling_of_unresolved unresolved]
      simp only [throughExecutions, h]
      exact ⟨.nil, rfl⟩
    | some found =>
      obtain ⟨m, w₁⟩ := found
      obtain ⟨d, defined, made, first⟩ := machine?_takes settings hw h
      have resolved : Reference.resolves ctx.machines ctx.suites (.machine name) = true := by
        simp [Reference.resolves, Table.contains, defined]
      obtain ⟨mid, outcome⟩ := throughSuites_passes settings experiment first.faithful defined made
        (own.getD common)
      have faithful := (mid.takes first.faithful).faithful
      rw [Reference.settled_of_resolved resolved, Reference.firstDangling_of_resolved resolved,
        Reference.firstDangling_append]
      simp only [throughExecutions, h]
      cases e : Reference.firstDangling ctx.machines ctx.suites
          ((own.getD common).map (.suite name)) with
      | some r =>
        -- the walk stops within this execution and never comes to the others
        rw [e] at outcome
        rw [Reference.settled_append_of_dangling e]
        generalize throughSuites ctx settings experiment m (own.getD common) w₁ = result at *
        obtain ⟨w₂, stop⟩ := result
        cases outcome
        exact ⟨.machine h mid, rfl⟩
      | none =>
        rw [e] at outcome
        rw [Reference.settled_eq e] at mid
        rw [Reference.settled_append e]
        generalize throughSuites ctx settings experiment m (own.getD common) w₁ = result at *
        obtain ⟨w₂, stop⟩ := result
        cases outcome
        obtain ⟨later, outcome⟩ := ih faithful
        exact ⟨.machine h (mid.append later), outcome⟩

end Experiment.Walk

namespace Experiment

open Walk

/-- The slots that the walk through an experiment meets, which are those before the first name
without a definition. -/
def met (ctx : Context) (d : ExperimentDef) : List Slot :=
  (Reference.settled ctx.machines ctx.suites d.references).flatMap
    (Reference.slots ctx.machines ctx.suites)

/-- The walk through an experiment passes the references before the first without a definition. -/
lemma walk_passes (ctx : Context) (name : String) (d : ExperimentDef) (s : Shared) :
    Passes ctx (settingsOf ctx d) (start s)
      (Reference.settled ctx.machines ctx.suites d.references) (walk ctx name d s).1 :=
  (throughExecutions_passes _ name d.suites (.start ctx s) d.allExecutions).1

/-- The walk through an experiment takes the slots that it meets. -/
lemma walk_takes (ctx : Context) (name : String) (d : ExperimentDef) (s : Shared) :
    Takes ctx (settingsOf ctx d) (start s) (met ctx d) (walk ctx name d s).1 :=
  (walk_passes ctx name d s).takes (.start ctx s)

/-- The walk through an experiment reports the first name without a definition. -/
lemma walk_snd (ctx : Context) (name : String) (d : ExperimentDef) (s : Shared) :
    (walk ctx name d s).2 =
      (Reference.firstDangling ctx.machines ctx.suites d.references).map
        (Reference.dangling name) :=
  (throughExecutions_passes _ name d.suites (.start ctx s) d.allExecutions).2

end Experiment

end BenchPlan
