import BenchPlan.Experiment
import BenchPlan.Proofs.Firsts

/-!
# References and slots

What an experiment asks for, read off its definition. A `Reference` is a name that the definition
mentions, a `Slot` is a benchmark on a machine with the definitions of all names. Both come in the
order of the executions, their suites and the benchmarks of these. A slot says which run it asks for
once the objects of build steps are known (`Slot.run`), and what tells that run apart needs no
objects at all (`Slot.key`).
-/

namespace BenchPlan

open Experiment

/-- The extra arguments of a benchmark as text. -/
def Benchmark.extraArgsOf (details : Option BenchmarkDetails) : Option String :=
  details.bind fun d => d.extraArgs.map ExtraArgs.render

/-- The command that stands in for that of the suite. -/
def Benchmark.commandOf (details : Option BenchmarkDetails) : Option String :=
  details.bind (·.command)

/-- A benchmark on a machine, with the definitions of all names. -/
structure Slot where
  machine : String
  machineDef : MachineDef
  suite : String
  suiteDef : SuiteDef
  benchmark : String
  details : Option BenchmarkDetails

namespace Slot

/-- What filters see of the slot. -/
def identity (l : Slot) : Identity := ⟨l.machine, l.suite, l.benchmark⟩

/-- The extra arguments as text. -/
def extraArgs (l : Slot) : Option String := Benchmark.extraArgsOf l.details

/-- What tells the run of the slot from others. -/
def key (settings : RunSettings) (l : Slot) : RunKey :=
  ⟨l.machine, l.suite, l.benchmark, l.extraArgs, settings⟩

/-- The run of the slot, with the objects of a table for its build steps. -/
def run (t : BuildTable) (settings : RunSettings) (l : Slot) : Run :=
  ⟨Benchmark.ofDetails l.benchmark l.details (Suite.ofDef l.suite l.suiteDef t).1
    (Machine.ofDef l.machine l.machineDef t).1, settings⟩

/-- The run of a slot has its key. -/
@[simp] lemma key_run (t : BuildTable) (settings : RunSettings) (l : Slot) :
    (l.run t settings).key = l.key settings := rfl

/-- The run of a slot has its identity. -/
@[simp] lemma identity_run (t : BuildTable) (settings : RunSettings) (l : Slot) :
    (l.run t settings).benchmark.identity = l.identity := rfl

/-- Slots of one key are the same to every filter. -/
lemma identity_of_key {settings : RunSettings} {l l' : Slot}
    (h : l.key settings = l'.key settings) :
    l.identity = l'.identity := by
  simp only [key, RunKey.mk.injEq] at h
  obtain ⟨machine, suite, benchmark, _⟩ := h
  simp only [identity, machine, suite, benchmark]

/-- The slots that a filter admits. -/
def admitted (f : Filter) (ls : List Slot) : List Slot := ls.filter fun l => f.admits l.identity

/-- The slots that a filter keeps out. -/
def rejected (f : Filter) (ls : List Slot) : List Slot := ls.filter fun l => !f.admits l.identity

/-- The empty filter admits all slots. -/
@[simp] lemma admitted_empty (ls : List Slot) : admitted .empty ls = ls :=
  List.filter_eq_self.2 fun _ _ => rfl

end Slot

/-- A name that an experiment refers to; suites are referred to from the execution of a machine. -/
inductive Reference where
  | machine (name : String)
  | suite (machine name : String)
  deriving DecidableEq, Repr

/-- The references of an execution, which runs the suites `common` unless it names its own. -/
def executionReferences (common : List String) (x : String × Option (List String)) :
    List Reference :=
  .machine x.1 :: (x.2.getD common).map (.suite x.1)

/-- The references of an experiment in the order of its definition. -/
def ExperimentDef.references (d : ExperimentDef) : List Reference :=
  d.allExecutions.flatMap (executionReferences d.suites)

variable (machines : Table MachineDef) (suites : Table SuiteDef)

/-- The slots of a suite on a machine, one for each benchmark; none if a name is not defined. -/
def suiteSlots (machine suite : String) : List Slot :=
  match machines.get? machine, suites.get? suite with
  | some m, some s => s.allBenchmarks.map fun b => ⟨machine, m, suite, s, b.1, b.2⟩
  | _, _ => []

/-- The slots of an experiment in the order of its definition. -/
def ExperimentDef.slots (d : ExperimentDef) : List Slot :=
  d.allExecutions.flatMap fun x => (x.2.getD d.suites).flatMap (suiteSlots machines suites x.1)

namespace Reference

/-- Whether the name is defined. -/
def resolves : Reference → Bool
  | machine n => machines.contains n
  | suite _ n => suites.contains n

/-- The reference as a dangling name of an experiment. -/
def dangling (experiment : String) : Reference → DanglingName
  | machine n => .machine experiment n
  | suite _ n => .suite experiment n

/-- The slots that a reference leads to. -/
def slots : Reference → List Slot
  | machine _ => []
  | suite m n => suiteSlots machines suites m n

/-- The references before the first that leads nowhere. -/
def settled (refs : List Reference) : List Reference := refs.takeWhile (resolves machines suites)

/-- The first reference that leads nowhere. -/
def firstDangling (refs : List Reference) : Option Reference :=
  refs.find? fun r => !r.resolves machines suites

variable {machines suites}

/-- Behind a reference that leads somewhere the others are settled as well. -/
lemma settled_of_resolved {r : Reference} (h : r.resolves machines suites = true)
    (refs : List Reference) :
    settled machines suites (r :: refs) = r :: settled machines suites refs :=
  List.takeWhile_cons_of_pos h

/-- Nothing is settled from a reference on that leads nowhere. -/
lemma settled_of_unresolved {r : Reference} (h : r.resolves machines suites = false)
    (refs : List Reference) : settled machines suites (r :: refs) = [] :=
  List.takeWhile_cons_of_neg (by simp [h])

/-- A reference that leads somewhere is passed over. -/
lemma firstDangling_of_resolved {r : Reference} (h : r.resolves machines suites = true)
    (refs : List Reference) :
    firstDangling machines suites (r :: refs) = firstDangling machines suites refs :=
  List.find?_cons_of_neg (by simp [h])

/-- A reference that leads nowhere is the first one. -/
lemma firstDangling_of_unresolved {r : Reference} (h : r.resolves machines suites = false)
    (refs : List Reference) : firstDangling machines suites (r :: refs) = some r :=
  List.find?_cons_of_pos (by simp [h])

/-- If no reference leads nowhere, all are settled and the next ones may be. -/
lemma settled_append {refs : List Reference} (h : firstDangling machines suites refs = none)
    (more : List Reference) :
    settled machines suites (refs ++ more) = refs ++ settled machines suites more := by
  apply List.takeWhile_append_of_pos
  intro r m
  simpa using List.find?_eq_none.1 h r m

/-- All references are settled if none leads nowhere. -/
lemma settled_eq {refs : List Reference} (h : firstDangling machines suites refs = none) :
    settled machines suites refs = refs := by
  have h := settled_append h []
  rwa [List.append_nil, settled, settled, List.takeWhile_nil, List.append_nil] at h

/-- What comes after a reference that leads nowhere is not settled. -/
lemma settled_append_of_dangling {refs : List Reference} {r : Reference}
    (h : firstDangling machines suites refs = some r) (more : List Reference) :
    settled machines suites (refs ++ more) = settled machines suites refs := by
  induction refs with
  | nil => cases h
  | cons r' rest ih =>
    cases ok : r'.resolves machines suites with
    | true =>
      rw [firstDangling_of_resolved ok] at h
      rw [List.cons_append, settled_of_resolved ok, settled_of_resolved ok, ih h]
    | false => rw [List.cons_append, settled_of_unresolved ok, settled_of_unresolved ok]

/-- The first reference that leads nowhere is in the first part, or else in the other. -/
lemma firstDangling_append (refs more : List Reference) :
    firstDangling machines suites (refs ++ more) =
      (firstDangling machines suites refs).or (firstDangling machines suites more) :=
  List.find?_append

/-- Every slot of a reference is a benchmark of the suite under the names of the reference. -/
lemma mem_slots {r : Reference} {l : Slot} (h : l ∈ r.slots machines suites) :
    r = .suite l.machine l.suite ∧ machines.get? l.machine = some l.machineDef ∧
      suites.get? l.suite = some l.suiteDef ∧
        (l.benchmark, l.details) ∈ l.suiteDef.allBenchmarks := by
  cases r with
  | machine n => cases h
  | suite m n =>
    simp only [slots, suiteSlots] at h
    split at h
    · rename_i md sd hm hs
      obtain ⟨b, mem, rfl⟩ := List.mem_map.1 h
      exact ⟨rfl, hm, hs, mem⟩
    · cases h

end Reference

variable {machines suites}

/-- The slots of an experiment are those of its references. -/
lemma ExperimentDef.slots_eq (d : ExperimentDef) :
    d.slots machines suites = d.references.flatMap (Reference.slots machines suites) := by
  rw [slots, references, List.flatMap_assoc]
  congr 1
  funext x
  rw [executionReferences, List.flatMap_cons, List.flatMap_map]
  rfl

/-- Every benchmark of a suite is a slot of the suite on a machine. -/
lemma mem_suiteSlots {m n : String} {md : MachineDef} {sd : SuiteDef}
    (machine : machines.get? m = some md) (suite : suites.get? n = some sd)
    {b : String × Option BenchmarkDetails} (listed : b ∈ sd.allBenchmarks) :
    ⟨m, md, n, sd, b.1, b.2⟩ ∈ suiteSlots machines suites m n := by
  simp only [suiteSlots, machine, suite]
  exact List.mem_map.2 ⟨b, listed, rfl⟩

/-- With one benchmark of a suite on a machine, an experiment asks for all of them. -/
lemma ExperimentDef.mem_slots_of_mem {d : ExperimentDef} {l : Slot}
    (h : l ∈ d.slots machines suites) {b : String × Option BenchmarkDetails}
    (listed : b ∈ l.suiteDef.allBenchmarks) :
    { l with benchmark := b.1, details := b.2 } ∈ d.slots machines suites := by
  rw [slots_eq] at h ⊢
  obtain ⟨r, referred, slot⟩ := List.mem_flatMap.1 h
  obtain ⟨rfl, machine, suite, -⟩ := Reference.mem_slots slot
  exact List.mem_flatMap.2 ⟨_, referred, mem_suiteSlots machine suite listed⟩

end BenchPlan
