import BenchPlan.Config.Decode
import BenchPlan.Proofs.Planning
import Mathlib.Data.List.Induction

/-!
# Layers of run settings

Run settings lie in layers: the defaults, the `runs` section of a document, and the overrides that
come after it. What a layer does to a field depends on the value that it gives to this field, and on
nothing else (`get_apply`). So layers can be merged into one (`foldl_apply`), which gives to each
field the value that was given last (`get_mergeAll`), and what all of them come to can be read off
field by field (`foldl_apply_ofSection`). An experiment of a plan has two layers above the defaults,
that of the document and its own (`settings_of_ofConfig`).
-/

namespace BenchPlan

namespace RunSettings

namespace Override

/-- The type of the values of a field. -/
def Field.Value : Field → Type
  | .invocations => UInt32
  | .iterations => UInt32
  | .warmup => UInt32
  | .minIterationTime => UInt32
  | .maxInvocationTime => Int64

/-- The value that an override gives to a field. -/
def get (o : Override) : (f : Field) → Option f.Value
  | .invocations => o.invocations
  | .iterations => o.iterations
  | .warmup => o.warmup
  | .minIterationTime => o.minIterationTime
  | .maxInvocationTime => o.maxInvocationTime

/-- Two overrides in one. Where both give a value, the later one counts. -/
def merge (o later : Override) : Override where
  invocations := later.invocations.or o.invocations
  iterations := later.iterations.or o.iterations
  warmup := later.warmup.or o.warmup
  minIterationTime := later.minIterationTime.or o.minIterationTime
  maxInvocationTime := later.maxInvocationTime.or o.maxInvocationTime

/-- Any number of overrides in one. -/
def mergeAll (os : List Override) : Override := os.foldl merge empty

/-- The value that overrides give to a field last. -/
def lastGiven (f : Field) (os : List Override) : Option f.Value :=
  (os.filterMap (·.get f)).getLast?

/-- The empty override gives no field. -/
lemma get_empty (f : Field) : empty.get f = none := by
  cases f with
  | invocations => rfl
  | iterations => rfl
  | warmup => rfl
  | minIterationTime => rfl
  | maxInvocationTime => rfl

/-- A field of merged overrides is the later one, or else the earlier one. -/
lemma get_merge (o later : Override) (f : Field) :
    (o.merge later).get f = (later.get f).or (o.get f) := by
  cases f with
  | invocations => rfl
  | iterations => rfl
  | warmup => rfl
  | minIterationTime => rfl
  | maxInvocationTime => rfl

/-- One more override is merged last. -/
lemma mergeAll_concat (os : List Override) (o : Override) :
    mergeAll (os ++ [o]) = (mergeAll os).merge o := by
  rw [mergeAll, List.foldl_concat, mergeAll]

/-- The last given value is that of the last override if it gives one. -/
lemma lastGiven_concat (f : Field) (os : List Override) (o : Override) :
    lastGiven f (os ++ [o]) = (o.get f).or (lastGiven f os) := by
  rw [lastGiven, List.filterMap_append, List.getLast?_append, lastGiven, List.filterMap_cons]
  cases o.get f with
  | none => rfl
  | some v => rfl

/-- Merged overrides give to a field the value that they give to it last. -/
lemma get_mergeAll (f : Field) (os : List Override) : (mergeAll os).get f = lastGiven f os := by
  -- from the end, since the last override is the first to count
  induction os using List.reverseRecOn with
  | nil => exact get_empty f
  | append_singleton os o ih => rw [mergeAll_concat, get_merge, ih, lastGiven_concat]

end Override

open Override

/-- The value of a field. -/
def get (s : RunSettings) : (f : Field) → f.Value
  | .invocations => s.invocations
  | .iterations => s.iterations
  | .warmup => s.warmup
  | .minIterationTime => s.minIterationTime
  | .maxInvocationTime => s.maxInvocationTime

variable {s t : RunSettings}

/-- Settings are known by the values of their fields. -/
lemma eq_of_get (h : ∀ f, s.get f = t.get f) : s = t := by
  cases s
  cases t
  rw [mk.injEq]
  exact ⟨h .invocations, h .iterations, h .warmup, h .minIterationTime, h .maxInvocationTime⟩

/-! ## One layer -/

/-- An override sets a field to the value that it has for it, whatever it has for the others. -/
lemma get_apply (s : RunSettings) (o : Override) (f : Field) :
    (s.apply o).get f = (o.get f).getD (s.get f) := by
  cases f with
  | invocations => rfl
  | iterations => rfl
  | warmup => rfl
  | minIterationTime => rfl
  | maxInvocationTime => rfl

/-- A field of the settings of a section is what the section gives, or else the default. -/
lemma get_ofSection (runs : Option Override) (f : Field) :
    (ofSection runs).get f = (runs.bind (·.get f)).getD (defaults.get f) := by
  cases runs with
  | none => rfl
  | some o => exact get_apply defaults o f

/-- The override that gives nothing changes nothing. -/
lemma apply_empty (s : RunSettings) : s.apply empty = s := rfl

/-- Two overrides in turn do the same as both in one. -/
lemma apply_merge (s : RunSettings) (o later : Override) :
    s.apply (o.merge later) = (s.apply o).apply later := by
  apply eq_of_get
  intro f
  rw [get_apply, get_merge, Option.getD_or, get_apply, get_apply]

/-- The same override again changes nothing. -/
lemma apply_apply (s : RunSettings) (o : Override) : (s.apply o).apply o = s.apply o := by
  apply eq_of_get
  intro f
  rw [get_apply, get_apply]
  cases o.get f with
  | none => rfl
  | some v => rfl

/-! ## Any layers -/

/-- Overrides in turn do the same as all in one. -/
lemma foldl_apply (s : RunSettings) (os : List Override) :
    os.foldl apply s = s.apply (mergeAll os) := by
  induction os using List.reverseRecOn with
  | nil => exact (apply_empty s).symm
  | append_singleton os o ih => rw [List.foldl_concat, ih, mergeAll_concat, apply_merge]

/-- What overrides come to in a field. -/
lemma get_foldl_apply (s : RunSettings) (os : List Override) (f : Field) :
    (os.foldl apply s).get f = (lastGiven f os).getD (s.get f) := by
  rw [foldl_apply, get_apply, get_mergeAll]

/-- Overrides that are applied in turn to the settings of an optional section leave in each field
the value of the last override that has one for it, or else that of the section, or else the
default, whatever the layers have for other fields. On any settings they do the same as the one
override that they are merged into, which has for each field the value that they give to it last,
and an override does the same twice as once. -/
theorem foldl_apply_ofSection (runs : Option Override) (os : List Override) :
    (∀ f, (os.foldl apply (ofSection runs)).get f =
      ((lastGiven f os).or (runs.bind (·.get f))).getD (defaults.get f)) ∧
    (∀ f, (mergeAll os).get f = lastGiven f os) ∧
    ∀ s : RunSettings, os.foldl apply s = s.apply (mergeAll os) ∧
      ∀ o, (s.apply o).apply o = s.apply o := by
  refine ⟨?_, ?_, ?_⟩
  · intro f
    rw [get_foldl_apply, get_ofSection, Option.getD_or]
  · intro f
    exact get_mergeAll f os
  · intro s
    exact ⟨foldl_apply s os, apply_apply s⟩

/-- The iterations are given twice, the warmup by the first override and the section, the time limit
by the section, and the rest by nothing. -/
example : [⟨none, some 5, some 2, none, none⟩, ⟨none, some 7, none, none, none⟩].foldl apply
    (ofSection (some ⟨none, none, some 3, none, some 60⟩)) = ⟨1, 7, 2, 50, 60⟩ := by
  decide

end RunSettings

open RunSettings RunSettings.Override

/-! ## The layers of an experiment -/

/-- An experiment lays its own settings over those of the document. -/
lemma Experiment.settingsOf_eq (ctx : Context) (d : ExperimentDef) :
    settingsOf ctx d = d.runs.toList.foldl apply ctx.settings := by
  rw [settingsOf]
  cases d.runs with
  | none => rfl
  | some o => rfl

/-- The last given value of one override, if there is one, is its own. -/
lemma RunSettings.Override.lastGiven_toList (f : Field) (runs : Option Override) :
    lastGiven f runs.toList = runs.bind (·.get f) := by
  cases runs with
  | none => rfl
  | some o => exact (lastGiven_concat f [] o).trans (Option.or_none)

namespace Plan

open Experiment

variable {owner : Nat} {config : Config} {request : PlanRequest} {probe : Probe}
  {store : RunStore} {p : Plan} {name : String} {x : Experiment}

/-- An experiment of a plan has in each field the value that it gives itself, or else that of the
document, or else the default, whatever was selected and in whatever order. -/
theorem settings_of_ofConfig (h : (ofConfig owner config request probe store).result = .ok p)
    (m : p.experiments.get? name = some x) :
    ∃ d, config.experiments.get? name = some d ∧
      ∀ f, x.settings.get f =
        ((d.runs.bind (·.get f)).or (config.runs.bind (·.get f))).getD (defaults.get f) := by
  obtain ⟨names, s, _, _, inTurn, _⟩ := inTurn_of_ofConfig h
  obtain ⟨d, s', defined, _, compiled, _⟩ := inTurn.mem (P := fun _ => True)
    (fun _ _ _ _ => trivial) trivial ((Table.get?_eq_some_iff _).1 m)
  refine ⟨d, (mem_definitions.1 defined).2, ?_⟩
  intro f
  have own : x.settings = d.runs.toList.foldl apply (ofSection config.runs) := by
    rw [ofWalk_of_compile compiled]
    exact settingsOf_eq _ d
  rw [own, get_foldl_apply, lastGiven_toList, get_ofSection, Option.getD_or]

end Plan

end BenchPlan
