import BenchPlan.Proofs.Firsts
import BenchPlan.Proofs.Reading
import Mathlib.Data.List.Nodup

/-!
# Configurations written down

`Config.Written` says which trees of values write a configuration, field by field: a record is a
mapping with its fields in any order, a field without a value is left out or null, a table is a
mapping in its order, and texts and numbers are values of their kind. Entries of lists may have one
of several shapes and are told apart by the kinds of values alone. Each is what its value is read as
(`BenchmarkEntry.Written.readsAs`, `ExecutionEntry.Written.readsAs`).
-/

namespace BenchPlan

open Yaml (Decode Node Place Schema Value)
open Yaml.Decode (Reads Yields)

/-! ## How a configuration is written -/

namespace Yaml.Value

variable {α : Type}

/-- What is said of a field that has to be there. -/
def Required (writes : α → Value → Prop) (a : α) : Option Value → Prop
  | some v => writes a v
  | none => False

/-- What is said of an optional field: if there is nothing to write, it is left out or null. -/
def Optionally (writes : α → Value → Prop) : Option α → Option Value → Prop
  | some a, some v => writes a v
  | some _, none => False
  | none, some v => v = .null
  | none, none => True

/-- What is said of a field with a default, which may be left out. -/
def Defaulted (default : α) (writes : α → Value → Prop) (a : α) : Option Value → Prop
  | some v => writes a v
  | none => a = default

/-- A value is a record: a table with names of fields as its keys, in any order. What `fields` says
of a field holds of its value, or of its being left out. -/
def IsRecord (fields : List (String × (Option Value → Prop))) (v : Value) : Prop :=
  ∃ t : Table Value, v = ofNamed t.entries ∧ (∀ name ∈ t.keys, name ∈ fields.map Prod.fst) ∧
    ∀ f ∈ fields, f.2 (t.get? f.1)

/-- A text is written as a text. -/
def WritesText (s : String) (v : Value) : Prop := v = .text s

/-- A natural number is written as an integer. -/
def WritesNatural (n : UInt32) (v : Value) : Prop := v = .int (n.toNat : Int)

/-- An integer is written as one. -/
def WritesInteger (n : Int64) (v : Value) : Prop := v = .int n.toInt

/-- A list is written as a sequence, item by item. -/
def WritesList (writes : α → Value → Prop) (as : List α) (v : Value) : Prop :=
  ∃ vs, v = .sequence vs ∧ List.Forall₂ writes as vs

/-- A table is written as a mapping, entry by entry. -/
def WritesTable (writes : α → Value → Prop) (t : Table α) (v : Value) : Prop :=
  ∃ xs, v = ofNamed xs ∧ List.Forall₂ (fun e x => e.1 = x.1 ∧ writes e.2 x.2) t.entries xs

end Yaml.Value

open Yaml.Value

/-- Run settings are written as a record of numbers. -/
def RunSettings.Override.Written (o : Override) : Value → Prop :=
  IsRecord
    [("invocations", Optionally WritesNatural o.invocations),
      ("iterations", Optionally WritesNatural o.iterations),
      ("warmup", Optionally WritesNatural o.warmup),
      ("min_iteration_time", Optionally WritesNatural o.minIterationTime),
      ("max_invocation_time", Optionally WritesInteger o.maxInvocationTime)]

/-- An argument is written as a number of its kind, or as a text. -/
def ExtraArgs.Written : ExtraArgs → Value → Prop
  | int n, v => WritesInteger n v
  | float x, v => v = .float x
  | text s, v => WritesText s v

/-- The details of a benchmark are written as a record. -/
def BenchmarkDetails.Written (d : BenchmarkDetails) : Value → Prop :=
  IsRecord
    [("extra_args", Optionally ExtraArgs.Written d.extraArgs),
      ("command", Optionally WritesText d.command)]

/-- An entry is written as a name, or as a table of details. -/
def BenchmarkEntry.Written : BenchmarkEntry → Value → Prop
  | name s, v => WritesText s v
  | detailed t, v => WritesTable BenchmarkDetails.Written t v

/-- A suite is written as a record. -/
def SuiteDef.Written (d : SuiteDef) : Value → Prop :=
  IsRecord
    [("gauge_adapter", Required WritesText d.gaugeAdapter),
      ("command", Required WritesText d.command),
      ("location", Optionally WritesText d.location),
      ("build", Optionally (WritesList WritesText) d.build),
      ("benchmarks", Required (WritesList BenchmarkEntry.Written) d.benchmarks)]

/-- A virtual machine is written as a record. -/
def MachineDef.Written (d : MachineDef) : Value → Prop :=
  IsRecord
    [("path", Optionally WritesText d.path),
      ("binary", Required WritesText d.binary),
      ("args", Optionally WritesText d.args),
      ("build", Optionally (WritesList WritesText) d.build)]

/-- The details of an execution are written as a record. -/
def ExecutionDetails.Written (d : ExecutionDetails) : Value → Prop :=
  IsRecord [("suites", Optionally (WritesList WritesText) d.suites)]

/-- An entry is written as a name, or as a table of details. -/
def ExecutionEntry.Written : ExecutionEntry → Value → Prop
  | machine s, v => WritesText s v
  | detailed t, v => WritesTable ExecutionDetails.Written t v

/-- An experiment is written as a record. -/
def ExperimentDef.Written (d : ExperimentDef) : Value → Prop :=
  IsRecord
    [("description", Optionally WritesText d.description),
      ("data_file", Optionally WritesText d.dataFile),
      ("runs", Optionally RunSettings.Override.Written d.runs),
      ("suites", Defaulted [] (WritesList WritesText) d.suites),
      ("executions", Required (WritesList ExecutionEntry.Written) d.executions)]

/-- A configuration is written as a record. -/
def Config.Written (c : Config) : Value → Prop :=
  IsRecord
    [("runs", Optionally RunSettings.Override.Written c.runs),
      ("standard_data_file", Optionally WritesText c.standardDataFile),
      ("standard_experiment", Optionally WritesText c.standardExperiment),
      ("build_log", Optionally WritesText c.buildLogFile),
      ("reporting", Defaulted Table.empty (WritesTable fun x v => v = x) c.reporting),
      ("benchmark_suites", Required (WritesTable SuiteDef.Written) c.suites),
      ("virtual_machines", Required (WritesTable MachineDef.Written) c.machines),
      ("experiments", Required (WritesTable ExperimentDef.Written) c.experiments)]

/-! ## Entries read from values -/

namespace Yaml.Value

variable {α : Type} {f : Value → Option α} {writes : α → Value → Prop} {a : α} {v : Value}

/-- A value reads as `a` where one of several shapes is wanted. There is something, without tags. -/
structure ReadsAs (f : Value → Option α) (v : Value) (a : α) : Prop where
  read : f v = some a
  present : v.isPresent = true
  untagged : v.Untagged

/-- A text reads as it was written. -/
lemma WritesText.readsAs {s : String} (w : WritesText s v) : ReadsAs text? v s := by
  cases w
  exact ⟨rfl, rfl, .text⟩

/-- A field that was not picked yet is picked by its name. -/
lemma pickFields_cons {names : List String} (nodup : names.Nodup) {n : String} (mem : n ∈ names)
    {g : String → Option Value} (new : g n = none) (v : Value) (rest : List (Value × Value)) :
    pickFields names (names.map g) ((.text n, v) :: rest) =
      pickFields names (names.map (Function.update g n (some v))) rest := by
  have number : fieldNumber? names (.text n) = some (some (names.idxOf n)) := by
    have index : names.idxOf? n = some (names.idxOf n) :=
      List.findIdx?_eq_some_iff_findIdx_eq.2 ⟨List.idxOf_lt_length_of_mem mem, rfl⟩
    rw [fieldNumber?, index]
  have place : (names.map g)[names.idxOf n]? = some none := by
    rw [List.getElem?_map, List.getElem?_idxOf mem, Option.map_some, new]
  have set : (names.map g).set (names.idxOf n) (some v) =
      names.map (Function.update g n (some v)) := by
    rw [List.Nodup.map_update nodup, if_pos mem]
  rw [pickFields]
  simp only [number, place, Option.bind_eq_bind, Option.bind_some, set]

/-- The fields of a mapping are picked by their names, in whatever order they stand. -/
lemma pickFields_eq {names : List String} (nodup : names.Nodup) {xs : List (String × Value)}
    (distinct : (xs.map Prod.fst).Nodup) (known : ∀ n ∈ xs.map Prod.fst, n ∈ names)
    (g : String → Option Value) (new : ∀ n ∈ xs.map Prod.fst, g n = none) :
    pickFields names (names.map g) (xs.map fun x => (.text x.1, x.2)) =
      some (names.map fun n => (xs.lookup n).or (g n)) := by
  -- `g` is what was picked so far, and says nothing yet of the fields still to come
  induction xs generalizing g with
  | nil => rfl
  | cons x xs ih =>
    obtain ⟨n, v⟩ := x
    obtain ⟨fresh, distinct⟩ := List.nodup_cons.1 distinct
    have rest : ∀ m ∈ xs.map Prod.fst, Function.update g n (some v) m = none := by
      intro m there
      have other : m ≠ n := by
        rintro rfl
        exact fresh there
      rw [Function.update_of_ne other]
      exact new m (List.mem_cons_of_mem _ there)
    rw [List.map_cons, pickFields_cons nodup (known n List.mem_cons_self)
      (new n List.mem_cons_self),
      ih distinct (fun m there => known m (List.mem_cons_of_mem _ there)) _ rest]
    congr 1
    apply List.map_congr_left
    intro m _
    by_cases same : m = n
    · subst same
      have absent : xs.lookup m = none := by
        refine List.lookup_eq_none_iff.2 fun x there => ?_
        rw [bne_iff_ne]
        rintro rfl
        have again : x.1 ∈ xs.map Prod.fst := List.mem_map_of_mem there
        exact fresh again
      simp [absent]
    · have other : (m == n) = false := by simpa using same
      rw [List.lookup_cons, other, Function.update_of_ne same]

/-- The fields of a mapping with known names are what its names look up. -/
lemma fields?_ofNamed {names : List String} (nodup : names.Nodup) {t : Table Value}
    (known : ∀ n ∈ t.keys, n ∈ names) :
    fields? names (ofNamed t.entries) = some (names.map t.get?) := by
  have picked := pickFields_eq nodup t.nodup known (fun _ => none) fun _ _ => rfl
  simp only [Option.or_none] at picked
  exact picked

/-- An optional field reads as it was written. -/
lemma field?_of_optionally (h : ∀ {a v}, writes a v → ReadsAs f v a) {o : Option α}
    {v : Option Value} (w : Optionally writes o v) : field? f v = some o := by
  cases v with
  | none =>
    cases o with
    | none => rfl
    | some a => cases w
  | some v =>
    cases o with
    | none =>
      cases w
      rfl
    | some a =>
      obtain ⟨read, present, -⟩ := h w
      have there : field? f (some v) = (f v).map some := by
        cases v <;> first | rfl | cases present
      rw [there, read]
      rfl

/-- There are no tags in what is written of an optional field. -/
lemma untagged_of_optionally (h : ∀ {a v}, writes a v → ReadsAs f v a) {o : Option α}
    (w : Optionally writes o (some v)) : v.Untagged := by
  cases o with
  | none =>
    cases w
    exact .null
  | some a => exact (h w).untagged

/-- What is said of the fields of a record, one after the other. -/
lemma IsRecord.content {fields : List (String × (Option Value → Prop))} (w : IsRecord fields v) :
    ∃ t : Table Value, v = ofNamed t.entries ∧ (∀ name ∈ t.keys, name ∈ fields.map Prod.fst) ∧
      fields.Forall fun f => f.2 (t.get? f.1) := by
  obtain ⟨t, e, known, content⟩ := w
  exact ⟨t, e, known, List.forall_iff_forall_mem.2 content⟩

/-- There are no tags in a record if there are none in its fields. -/
lemma IsRecord.untagged {fields : List (String × (Option Value → Prop))} (w : IsRecord fields v)
    (h : ∀ f ∈ fields, ∀ v, f.2 (some v) → v.Untagged) : v.Untagged := by
  obtain ⟨t, rfl, known, content⟩ := w
  refine .mapping ?_ ?_
  · intro x m
    obtain ⟨_, -, rfl⟩ := List.mem_map.1 m
    exact .text
  · intro x m
    obtain ⟨e, mem, rfl⟩ := List.mem_map.1 m
    obtain ⟨field, there, name⟩ := List.mem_map.1 (known e.1 (List.mem_map_of_mem mem))
    have said := content field there
    rw [name, t.get?_eq_some_iff.2 mem] at said
    exact h field there e.2 said

/-- A list of texts reads as it was written. -/
lemma WritesList.readsAs {ss : List String} (w : WritesList WritesText ss v) :
    ReadsAs texts? v ss := by
  obtain ⟨vs, rfl, items⟩ := w
  refine ⟨?_, rfl, .sequence fun v m => ?_⟩
  · rw [texts?]
    induction items with
    | nil => rfl
    | cons first _ ih =>
      cases first
      rw [List.mapM_cons, ih]
      rfl
  · obtain ⟨s, -, written⟩ := exists_mem_of_forall₂ items.flip m
    cases written
    exact .text

/-- The entries of a table read as they were written. -/
lemma mapM_entry?_of_written (h : ∀ {a v}, writes a v → ReadsAs f v a) {es : List (String × α)}
    {xs : List (String × Value)} (w : List.Forall₂ (fun e x => e.1 = x.1 ∧ writes e.2 x.2) es xs) :
    (xs.map fun x => (Value.text x.1, x.2)).mapM (Value.entry? f) = some es := by
  induction w with
  | nil => rfl
  | @cons e x _ _ first _ ih =>
    have entry : Value.entry? f (.text x.1, x.2) = some e := by
      simp [Value.entry?, text?, (h first.2).read, ← first.1]
    rw [List.map_cons, List.mapM_cons, entry, ih]
    rfl

/-- A table reads as it was written, entry by entry. -/
lemma WritesTable.readsAs (h : ∀ {a v}, writes a v → ReadsAs f v a) {t : Table α}
    (w : WritesTable writes t v) : ReadsAs (table? f) v t := by
  obtain ⟨xs, rfl, entries⟩ := w
  refine ⟨?_, rfl, .mapping ?_ ?_⟩
  · have read := mapM_entry?_of_written h entries
    have same : Table.ofList t.entries = t := Table.ext (Table.entries_ofList t.nodup)
    exact (congrArg (Option.map Table.ofList) read).trans (congrArg some same)
  · intro x m
    obtain ⟨_, -, rfl⟩ := List.mem_map.1 m
    exact .text
  · intro x m
    obtain ⟨y, mem, rfl⟩ := List.mem_map.1 m
    obtain ⟨e, -, -, written⟩ := exists_mem_of_forall₂ entries.flip mem
    exact (h written).untagged

/-- An entry of several shapes is read as its value is. -/
lemma ReadsAs.reads (h : ReadsAs f v a) (kind : String) : Reads (decodeEntry kind f) v a := by
  intro n p writes deep
  refine (Decode.reads_choice h.untagged n p writes deep).bind ?_
  rw [h.read]
  exact .pure a

end Yaml.Value

/-- An argument is read as it was written: the kind of a number is that of its value, and a text
stays one. -/
lemma ExtraArgs.Written.readsAs {x : ExtraArgs} {v : Value} (w : x.Written v) :
    ReadsAs ofValue? v x := by
  cases x with
  | int n =>
    cases w
    have fits : Yaml.Scalar.fitsInt64 n.toInt = true := Decode.fitsInt64_toInt n
    exact ⟨by rw [ofValue?, if_pos fits, Int64.ofInt_toInt], rfl, .int⟩
  | float x =>
    cases w
    exact ⟨rfl, rfl, .float⟩
  | text s =>
    cases w
    exact ⟨rfl, rfl, .text⟩

/-- The details of a benchmark are read from a record of them, also if their argument is written in
ways of its own. -/
lemma BenchmarkDetails.readsAs_of_isRecord {writes : ExtraArgs → Value → Prop}
    (h : ∀ {x v}, writes x v → ReadsAs ExtraArgs.ofValue? v x) {d : BenchmarkDetails} {v : Value}
    (w : IsRecord
      [("extra_args", Optionally writes d.extraArgs), ("command", Optionally WritesText d.command)]
      v) :
    ReadsAs ofValue? v d := by
  have untagged : v.Untagged := by
    refine w.untagged ?_
    simp only [List.forall_mem_cons, List.not_mem_nil, false_imp_iff, implies_true, and_true]
    exact ⟨fun _ => untagged_of_optionally h, fun _ => untagged_of_optionally WritesText.readsAs⟩
  obtain ⟨t, rfl, known, args, command⟩ := w.content
  refine ⟨?_, rfl, untagged⟩
  have picked : fields? ["extra_args", "command"] (ofNamed t.entries) = _ :=
    fields?_ofNamed (by decide) known
  rw [ofValue?, picked]
  simp only [List.map_cons, List.map_nil, Option.bind_eq_bind, Option.bind_some,
    field?_of_optionally h args, field?_of_optionally WritesText.readsAs command]

/-- The details of a benchmark read as they were written. -/
lemma BenchmarkDetails.Written.readsAs {d : BenchmarkDetails} {v : Value} (w : d.Written v) :
    ReadsAs ofValue? v d :=
  readsAs_of_isRecord ExtraArgs.Written.readsAs w

/-- The details of an execution read as they were written. -/
lemma ExecutionDetails.Written.readsAs {d : ExecutionDetails} {v : Value} (w : d.Written v) :
    ReadsAs ofValue? v d := by
  have untagged : v.Untagged := by
    refine w.untagged ?_
    simp only [List.forall_mem_cons, List.not_mem_nil, false_imp_iff, implies_true, and_true]
    exact fun _ => untagged_of_optionally WritesList.readsAs
  obtain ⟨t, rfl, known, suites⟩ := w.content
  refine ⟨?_, rfl, untagged⟩
  have picked : fields? ["suites"] (ofNamed t.entries) = _ := fields?_ofNamed (by decide) known
  rw [ofValue?, picked]
  simp only [List.map_cons, List.map_nil, Option.bind_eq_bind, Option.bind_some,
    field?_of_optionally WritesList.readsAs suites]

/-- A table of details is read as an entry, in whatever ways the details are written. -/
lemma BenchmarkEntry.readsAs_of_writesTable {writes : BenchmarkDetails → Value → Prop}
    (h : ∀ {d v}, writes d v → ReadsAs BenchmarkDetails.ofValue? v d) {t : Table BenchmarkDetails}
    {v : Value} (w : WritesTable writes t v) : ReadsAs ofValue? v (.detailed t) := by
  obtain ⟨read, present, untagged⟩ := WritesTable.readsAs h w
  obtain ⟨xs, rfl, -⟩ := w
  refine ⟨?_, present, untagged⟩
  show Option.map BenchmarkEntry.detailed _ = _
  rw [read, Option.map_some]

/-- An entry for benchmarks reads as it was written. -/
lemma BenchmarkEntry.Written.readsAs {e : BenchmarkEntry} {v : Value} (w : e.Written v) :
    ReadsAs ofValue? v e := by
  cases e with
  | name s =>
    cases w
    exact ⟨rfl, rfl, .text⟩
  | detailed t => exact readsAs_of_writesTable BenchmarkDetails.Written.readsAs w

/-- An entry for executions reads as it was written. -/
lemma ExecutionEntry.Written.readsAs {e : ExecutionEntry} {v : Value} (w : e.Written v) :
    ReadsAs ofValue? v e := by
  cases e with
  | machine s =>
    cases w
    exact ⟨rfl, rfl, .text⟩
  | detailed t =>
    obtain ⟨read, present, untagged⟩ := WritesTable.readsAs ExecutionDetails.Written.readsAs w
    obtain ⟨xs, rfl, -⟩ := w
    refine ⟨?_, present, untagged⟩
    show Option.map ExecutionEntry.detailed _ = _
    rw [read, Option.map_some]

end BenchPlan
