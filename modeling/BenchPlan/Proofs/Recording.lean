import BenchPlan.Machine
import BenchPlan.Suite
import Mathlib.Data.List.Infix

/-!
# Recorded build steps

A table of build steps only grows, and the object that it hands out for a step remains the object
for that step. `Within` compares two states of a table, `Recorded` says in addition that the log got
one line for every step that was added. Machines and suites made of a definition are looked at
through both: making one is a `Recorded` change (`Machine.ofDef_recorded`, `Suite.ofDef_recorded`),
and making it again later gives the same one (`Machine.ofDef_within`, `Suite.ofDef_within`).
-/

namespace BenchPlan

namespace BuildTable

/-- One table is an earlier state of the other. -/
structure Within (t u : BuildTable) : Prop where
  owner : t.owner = u.owner
  steps : t.steps <+: u.steps

/-- A table is within itself. -/
lemma Within.refl (t : BuildTable) : t.Within t := ⟨rfl, List.prefix_rfl⟩

/-- A state before an earlier state is an earlier state. -/
lemma Within.trans {t u v : BuildTable} (h : t.Within u) (h' : u.Within v) : t.Within v :=
  ⟨h.owner.trans h'.owner, h.steps.trans h'.steps⟩

/-- Steps were added to a table, and a line was logged for each. -/
inductive Recorded : BuildTable → Log → BuildTable → Prop where
  | add (t : BuildTable) (new : List BuildStep) :
    Recorded t (new.map recordedLine) { t with steps := t.steps ++ new }

/-- Nothing was added to a table that is the same. -/
lemma Recorded.refl (t : BuildTable) : Recorded t [] t := by
  have h := Recorded.add t []
  rwa [List.append_nil] at h

/-- Steps that were added one after the other were added. -/
lemma Recorded.trans {t u v : BuildTable} {log more : Log}
    (h : Recorded t log u) (h' : Recorded u more v) : Recorded t (log ++ more) v := by
  cases h with
  | add new =>
    cases h' with
    | add new' =>
      have h := Recorded.add t (new ++ new')
      rw [List.map_append, ← List.append_assoc] at h
      exact h

/-- A table is an earlier state of the one to which steps were added. -/
lemma Recorded.within {t u : BuildTable} {log : Log} (h : Recorded t log u) : t.Within u := by
  cases h with
  | add new => exact ⟨rfl, List.prefix_append _ _⟩

/-- All lines about recorded steps are traces. -/
lemma Recorded.level {t u : BuildTable} {log : Log} (h : Recorded t log u) :
    ∀ line ∈ log, line.level = .trace := by
  cases h with
  | add new =>
    intro line m
    obtain ⟨s, _, rfl⟩ := List.mem_map.1 m
    rfl

/-- The place of a step does not change when a list gets longer. -/
lemma idxOf?_of_prefix {xs ys : List BuildStep} {s : BuildStep} {i : Nat}
    (h : xs.idxOf? s = some i) (pre : xs <+: ys) : ys.idxOf? s = some i := by
  obtain ⟨zs, rfl⟩ := pre
  rw [List.idxOf?] at h ⊢
  rw [List.findIdx?_append, h]
  rfl

/-- A step that is new has the last place once it is added. -/
lemma idxOf?_concat {xs : List BuildStep} {s : BuildStep} (h : xs.idxOf? s = none) :
    (xs ++ [s]).idxOf? s = some xs.length := by
  rw [List.idxOf?] at h ⊢
  simp [List.findIdx?_append, h]

/-- The object handed out for a step that is there has its place. -/
lemma intern_of_idxOf? {t : BuildTable} {s : BuildStep} {i : Nat} (h : t.steps.idxOf? s = some i) :
    (t.intern s).1 = ⟨t.owner, i, s⟩ := by
  rw [intern, h]

/-- Asking for the object of a step adds the step if it is new. -/
lemma intern_recorded (t : BuildTable) (s : BuildStep) :
    Recorded t (t.intern s).2.2 (t.intern s).2.1 := by
  unfold intern
  split
  · exact .refl t
  · exact .add t [s]

/-- The object handed out for a step has the place of the step from then on. -/
lemma idxOf?_intern (t : BuildTable) (s : BuildStep) :
    (t.intern s).2.1.steps.idxOf? s = some (t.intern s).1.position := by
  unfold intern
  split
  · assumption
  · rename_i h
    exact idxOf?_concat h

/-- The object handed out for a step belongs to the table and holds the step. -/
lemma intern_eq (t : BuildTable) (s : BuildStep) :
    (t.intern s).1 = ⟨t.owner, (t.intern s).1.position, s⟩ := by
  unfold intern
  split <;> rfl

/-- The object handed out for a step is handed out for it ever after. -/
lemma intern_within {t u : BuildTable} {s : BuildStep} (h : (t.intern s).2.1.Within u) :
    (u.intern s).1 = (t.intern s).1 := by
  have place := idxOf?_of_prefix (idxOf?_intern t s) h.steps
  have owner : t.owner = u.owner := (intern_recorded t s).within.owner.trans h.owner
  calc
    (u.intern s).1 = ⟨u.owner, (t.intern s).1.position, s⟩ := intern_of_idxOf? place
    _ = ⟨t.owner, (t.intern s).1.position, s⟩ := by rw [owner]
    _ = (t.intern s).1 := (intern_eq t s).symm

/-- Asking for the object of a step that may be missing adds the step if it is new. -/
lemma intern?_recorded (t : BuildTable) (s : Option BuildStep) :
    Recorded t (t.intern? s).2.2 (t.intern? s).2.1 := by
  cases s with
  | none => exact .refl t
  | some s => exact intern_recorded t s

/-- The object handed out for a step that may be missing is handed out for it ever after. -/
lemma intern?_within {t u : BuildTable} {s : Option BuildStep}
    (h : (t.intern? s).2.1.Within u) : (u.intern? s).1 = (t.intern? s).1 := by
  cases s with
  | none => rfl
  | some s => exact congrArg some (intern_within h)

/-- The object handed out for a step that may be missing holds the step. -/
lemma map_step_intern? (t : BuildTable) (s : Option BuildStep) :
    (t.intern? s).1.map SharedBuild.step = s := by
  cases s with
  | none => rfl
  | some s =>
    show some (t.intern s).1.step = some s
    rw [intern_eq]

end BuildTable

namespace Machine

open BuildTable

/-- Making a machine adds its build step if it is new. -/
lemma ofDef_recorded (name : String) (d : MachineDef) (t : BuildTable) :
    Recorded t (ofDef name d t).2.2 (ofDef name d t).2.1 :=
  intern?_recorded t (buildStep? d)

/-- A machine made again is the same machine. -/
lemma ofDef_within {name : String} {d : MachineDef} {t u : BuildTable}
    (h : (ofDef name d t).2.1.Within u) : (ofDef name d u).1 = (ofDef name d t).1 := by
  have build := intern?_within (s := buildStep? d) h
  simp only [ofDef, build]

end Machine

namespace Suite

open BuildTable

/-- Making a suite adds its build step if it is new. -/
lemma ofDef_recorded (name : String) (d : SuiteDef) (t : BuildTable) :
    Recorded t (ofDef name d t).2.2 (ofDef name d t).2.1 :=
  intern?_recorded t (buildStep? d)

/-- The suite that is made of a definition is made of it ever after. -/
lemma ofDef_within {name : String} {d : SuiteDef} {t u : BuildTable}
    (h : (ofDef name d t).2.1.Within u) : (ofDef name d u).1 = (ofDef name d t).1 := by
  have build := intern?_within (s := buildStep? d) h
  simp only [ofDef, build]

end Suite

end BenchPlan
