import BenchPlan.Proofs.Writable

/-!
# Configurations read back

What was written of a configuration is read back as it was: field by field and record by record
(`SuiteDef.Written.reads`, `MachineDef.Written.reads`, `ExperimentDef.Written.reads`), and then for
the whole, however it was written (`Config.decode_written`). So texts are not taken for numbers,
numbers keep their kind, null is not confused with the empty list or text, and tables and lists
keep their order.
-/

namespace BenchPlan

open Yaml (Decode Node Place Schema Value)
open Yaml.Decode (Reads Yields)
open Yaml.Value

/-! ## Fields read back -/

namespace Yaml.Value

variable {α : Type} {writes : α → Value → Prop} {read : Node → Place → Decode α} {o : Option Value}
  {v : Value}

/-- What was written of an optional field is read back, null as nothing. -/
lemma Optionally.reads (h : ∀ {a v}, writes a v → Reads read v a)
    (present : ∀ {a v}, writes a v → v.isPresent = true) {x : Option α} (w : Optionally writes x o)
    (there : o = some v) : Reads (Decode.optional read) v x := by
  subst there
  cases x with
  | none =>
    cases w
    exact Decode.reads_optional_null read
  | some a => exact (h w).optional (present w)

/-- An optional field that is left out is nothing. -/
lemma Optionally.join_map {x : Option α} (w : Optionally writes x o) :
    (o.map fun _ => x).join = x := by
  cases o with
  | none =>
    cases x with
    | none => rfl
    | some a => cases w
  | some v => rfl

/-- A field that must be there is read back. -/
lemma Required.reads (h : ∀ {a v}, writes a v → Reads read v a) {a : α} (w : Required writes a o)
    (there : o = some v) : Reads read v a := by
  subst there
  exact h w

/-- A field that must be there is. -/
lemma Required.map_eq_some {a : α} (w : Required writes a o) : (o.map fun _ => a) = some a := by
  cases o with
  | none => cases w
  | some v => rfl

/-- A field with a default is read back if it is there. -/
lemma Defaulted.reads (h : ∀ {a v}, writes a v → Reads read v a) {a default : α}
    (w : Defaulted default writes a o) (there : o = some v) : Reads read v a := by
  subst there
  exact h w

/-- A field with a default has the default if it is left out. -/
lemma Defaulted.getD_map {a default : α} (w : Defaulted default writes a o) :
    (o.map fun _ => a).getD default = a := by
  cases o with
  | none => exact Eq.symm w
  | some v => rfl

/-- A text is read back. -/
lemma WritesText.reads {s : String} (w : WritesText s v) : Reads Decode.text v s :=
  w ▸ Decode.reads_text s

/-- A text is something. -/
lemma WritesText.present {s : String} (w : WritesText s v) : v.isPresent = true := w ▸ rfl

/-- A natural number is read back. -/
lemma WritesNatural.reads {n : UInt32} (w : WritesNatural n v) : Reads Decode.uint32 v n :=
  w ▸ Decode.reads_uint32 n

/-- A natural number is something. -/
lemma WritesNatural.present {n : UInt32} (w : WritesNatural n v) : v.isPresent = true := w ▸ rfl

/-- An integer is read back. -/
lemma WritesInteger.reads {n : Int64} (w : WritesInteger n v) : Reads Decode.int64 v n :=
  w ▸ Decode.reads_int64 n

/-- An integer is something. -/
lemma WritesInteger.present {n : Int64} (w : WritesInteger n v) : v.isPresent = true := w ▸ rfl

/-- A list is read back. -/
lemma WritesList.reads (h : ∀ {a v}, writes a v → Reads read v a) {as : List α}
    (w : WritesList writes as v) : Reads (Decode.list read) v as := by
  obtain ⟨vs, rfl, items⟩ := w
  exact .list (items.flip.imp fun _ _ w => h w)

/-- A list is something. -/
lemma WritesList.present {as : List α} (w : WritesList writes as v) : v.isPresent = true := by
  obtain ⟨vs, rfl, -⟩ := w
  rfl

/-- A table is read back. -/
lemma WritesTable.reads (h : ∀ {a v}, writes a v → Reads read v a) {t : Table α}
    (w : WritesTable writes t v) : Reads (Decode.table read) v t := by
  obtain ⟨xs, rfl, entries⟩ := w
  exact .table (entries.flip.imp fun _ _ w => ⟨w.1.symm, h w.2⟩)

/-- A record is something. -/
lemma IsRecord.present {fields : List (String × (Option Value → Prop))} (w : IsRecord fields v) :
    v.isPresent = true := by
  obtain ⟨t, rfl, -⟩ := w
  rfl

end Yaml.Value

/-- A required field that is set comes out. -/
lemma Yaml.Schema.required_yields {S : Schema} {d : S.Draft} {f : S.Field} {x : S.Content f}
    (h : d f = some x) : Yields (d.required f) x := by
  unfold Schema.Draft.required
  rw [h]
  exact .pure x

/-! ## Records read back -/

/-- An override is read back. -/
lemma RunSettings.Override.Written.reads {o : Override} {v : Value} (w : o.Written v) :
    Reads decode v o := by
  obtain ⟨t, rfl, known, invocations, iterations, warmup, minIterationTime,
    maxInvocationTime⟩ := w.content
  -- fields that are left out are not read, so what is said of their content does not matter
  let content : (f : Field) → schema.Content f := fun f =>
    f.casesOn o.invocations o.iterations o.warmup o.minIterationTime o.maxInvocationTime
  refine Schema.reads_record ?_ [.invocations, .iterations, .warmup,
    .minIterationTime, .maxInvocationTime] known content ?_ (.of_eq ?_)
  · intro f
    cases f <;> rfl
  · intro f v there
    cases f with
    | invocations => exact invocations.reads WritesNatural.reads WritesNatural.present there
    | iterations => exact iterations.reads WritesNatural.reads WritesNatural.present there
    | warmup => exact warmup.reads WritesNatural.reads WritesNatural.present there
    | minIterationTime =>
      exact minIterationTime.reads WritesNatural.reads WritesNatural.present there
    | maxInvocationTime =>
      exact maxInvocationTime.reads WritesInteger.reads WritesInteger.present there
  · exact (Override.mk.injEq ..).mpr ⟨invocations.join_map, iterations.join_map, warmup.join_map,
      minIterationTime.join_map, maxInvocationTime.join_map⟩

/-- An entry for benchmarks is read back. -/
lemma BenchmarkEntry.Written.reads {e : BenchmarkEntry} {v : Value} (w : e.Written v) :
    Reads (decodeEntry "BenchmarkEntry" ofValue?) v e :=
  w.readsAs.reads _

/-- An entry for executions is read back. -/
lemma ExecutionEntry.Written.reads {e : ExecutionEntry} {v : Value} (w : e.Written v) :
    Reads (decodeEntry "ExecutionDef" ofValue?) v e :=
  w.readsAs.reads _

/-- The definition of a suite is read back. -/
lemma SuiteDef.Written.reads {d : SuiteDef} {v : Value} (w : d.Written v) : Reads decode v d := by
  obtain ⟨t, rfl, known, gaugeAdapter, command, location, build, benchmarks⟩ := w.content
  let content : (f : Field) → schema.Content f := fun f =>
    f.casesOn d.gaugeAdapter d.command d.location d.build d.benchmarks
  refine Schema.reads_record ?_ [.gaugeAdapter, .command, .location, .build, .benchmarks]
    known content ?_ ?_
  · intro f
    cases f <;> rfl
  · intro f v there
    cases f with
    | gaugeAdapter => exact gaugeAdapter.reads WritesText.reads there
    | command => exact command.reads WritesText.reads there
    | location => exact location.reads WritesText.reads WritesText.present there
    | build => exact build.reads (WritesList.reads WritesText.reads) WritesList.present there
    | benchmarks => exact benchmarks.reads (WritesList.reads BenchmarkEntry.Written.reads) there
  · let draft : schema.Draft := fun f => (t.get? (schema.name f)).map fun _ => content f
    have first : draft .gaugeAdapter = some d.gaugeAdapter := gaugeAdapter.map_eq_some
    have second : draft .command = some d.command := command.map_eq_some
    have third : draft .benchmarks = some d.benchmarks := benchmarks.map_eq_some
    refine (Schema.required_yields first).bind ((Schema.required_yields second).bind
      ((Schema.required_yields third).bind (.of_eq ?_)))
    exact (SuiteDef.mk.injEq ..).mpr ⟨rfl, rfl, location.join_map, build.join_map, rfl⟩

/-- The definition of a machine is read back. -/
lemma MachineDef.Written.reads {d : MachineDef} {v : Value} (w : d.Written v) :
    Reads decode v d := by
  obtain ⟨t, rfl, known, path, binary, args, build⟩ := w.content
  let content : (f : Field) → schema.Content f := fun f =>
    f.casesOn d.path d.binary d.args d.build
  refine Schema.reads_record ?_ [.path, .binary, .args, .build] known content ?_ ?_
  · intro f
    cases f <;> rfl
  · intro f v there
    cases f with
    | path => exact path.reads WritesText.reads WritesText.present there
    | binary => exact binary.reads WritesText.reads there
    | args => exact args.reads WritesText.reads WritesText.present there
    | build => exact build.reads (WritesList.reads WritesText.reads) WritesList.present there
  · let draft : schema.Draft := fun f => (t.get? (schema.name f)).map fun _ => content f
    have first : draft .binary = some d.binary := binary.map_eq_some
    refine (Schema.required_yields first).bind (.of_eq ?_)
    exact (MachineDef.mk.injEq ..).mpr ⟨path.join_map, rfl, args.join_map, build.join_map⟩

/-- The definition of an experiment is read back. -/
lemma ExperimentDef.Written.reads {d : ExperimentDef} {v : Value} (w : d.Written v) :
    Reads decode v d := by
  obtain ⟨t, rfl, known, description, dataFile, runs, suites, executions⟩ := w.content
  let content : (f : Field) → schema.Content f := fun f =>
    f.casesOn d.description d.dataFile d.runs d.suites d.executions
  refine Schema.reads_record ?_ [.description, .dataFile, .runs, .suites, .executions]
    known content ?_ ?_
  · intro f
    cases f <;> rfl
  · intro f v there
    cases f with
    | description => exact description.reads WritesText.reads WritesText.present there
    | dataFile => exact dataFile.reads WritesText.reads WritesText.present there
    | runs => exact runs.reads RunSettings.Override.Written.reads IsRecord.present there
    | suites => exact suites.reads (WritesList.reads WritesText.reads) there
    | executions => exact executions.reads (WritesList.reads ExecutionEntry.Written.reads) there
  · let draft : schema.Draft := fun f => (t.get? (schema.name f)).map fun _ => content f
    have first : draft .executions = some d.executions := executions.map_eq_some
    refine (Schema.required_yields first).bind (.of_eq ?_)
    exact (ExperimentDef.mk.injEq ..).mpr
      ⟨description.join_map, dataFile.join_map, runs.join_map, suites.getD_map, rfl⟩

/-- A configuration is read back. -/
lemma Config.Written.reads {c : Config} {v : Value} (w : c.Written v) : Reads decode v c := by
  obtain ⟨t, rfl, known, runs, standardDataFile, standardExperiment, buildLog, reporting, suites,
    machines, experiments⟩ := w.content
  let content : (f : Field) → schema.Content f := fun f =>
    f.casesOn c.runs c.standardDataFile c.standardExperiment c.buildLogFile c.reporting c.suites
      c.machines c.experiments
  have data : ∀ {x v : Value}, v = x → Reads (Decode.value .data) v x :=
    fun e => e ▸ Decode.reads_data _
  refine Schema.reads_record ?_ [.runs, .standardDataFile, .standardExperiment, .buildLog,
    .reporting, .suites, .machines, .experiments] known content ?_ ?_
  · intro f
    cases f <;> rfl
  · intro f v there
    cases f with
    | runs => exact runs.reads RunSettings.Override.Written.reads IsRecord.present there
    | standardDataFile => exact standardDataFile.reads WritesText.reads WritesText.present there
    | standardExperiment => exact standardExperiment.reads WritesText.reads WritesText.present there
    | buildLog => exact buildLog.reads WritesText.reads WritesText.present there
    | reporting => exact reporting.reads (WritesTable.reads data) there
    | suites => exact suites.reads (WritesTable.reads SuiteDef.Written.reads) there
    | machines => exact machines.reads (WritesTable.reads MachineDef.Written.reads) there
    | experiments => exact experiments.reads (WritesTable.reads ExperimentDef.Written.reads) there
  · let draft : schema.Draft := fun f => (t.get? (schema.name f)).map fun _ => content f
    have first : draft .suites = some c.suites := suites.map_eq_some
    have second : draft .machines = some c.machines := machines.map_eq_some
    have third : draft .experiments = some c.experiments := experiments.map_eq_some
    refine (Schema.required_yields first).bind ((Schema.required_yields second).bind
      ((Schema.required_yields third).bind (.of_eq ?_)))
    exact (Config.mk.injEq ..).mpr ⟨runs.join_map, standardDataFile.join_map,
      standardExperiment.join_map, buildLog.join_map, reporting.getD_map, rfl, rfl, rfl⟩

/-! ## Configurations read back -/

namespace Config

/-- Every configuration can be written down and is read back. There is a tree of values that writes
it, and nodes that write this tree. Whatever tree writes the configuration, and however nodes write
the tree, they are read as that configuration and no other, in every place from which collections
may be entered as deep as the nodes go; so is a document that has them as its root and nothing
behind it. -/
theorem decode_written (c : Config) :
    (c.Proper → ∃ T, c.Written T ∧ ∃ n : Node, n.Writes T) ∧
    ∀ T, c.Written T → ∀ n : Node, n.Writes T →
      (∀ p : Place, n.height ≤ p.depth → ∀ doc k, decode n p doc k = .ok (c, k)) ∧
      (n.height ≤ Yaml.maxDepth → ∀ doc : Yaml.Document, doc.root = n → doc.ending = .whole →
        ofDocument doc = .ok c) := by
  constructor
  · intro proper
    obtain ⟨T, written, values⟩ := proper.writable
    exact ⟨T, written, values.exists_writes⟩
  · intro T written n writes
    have reads := written.reads n
    refine ⟨fun p deep => reads p writes deep, ?_⟩
    rintro deep doc rfl whole
    have read : decode doc.root Place.root doc 0 = .ok (c, 0) := reads Place.root writes deep doc 0
    rw [ofDocument, read, whole]
    rfl

/-- A configuration with names and texts that look like something else, with arguments of each kind,
and with entries of both shapes. -/
def demoWritten : Config where
  runs := some ⟨some 3, none, none, none, some (-1)⟩
  standardDataFile := some "1.0"
  standardExperiment := none
  buildLogFile := none
  reporting := ⟨[("url", .tagged "env" (.text "null"))], by decide⟩
  suites :=
    ⟨[("true",
      { gaugeAdapter := "Time"
        command := "~"
        location := none
        build := some []
        benchmarks :=
          [.name "0x10",
            .detailed ⟨[("b", ⟨some (.int (-5)), some ""⟩), ("a", ⟨some (.text "7"), none⟩),
              ("c", ⟨some (.float (.finite false 0x14000000000000 (-51))), none⟩)], by decide⟩,
            .detailed .empty] })], by decide⟩
  machines := .empty
  experiments := .empty

/-- The tree of values that writes it, with fields in another order, and with nulls. -/
def demoTree : Value :=
  .ofNamed
    [("experiments", .ofNamed []), ("standard_experiment", .null),
      ("benchmark_suites", .ofNamed
        [("true", .ofNamed
          [("build", .sequence []), ("benchmarks", .sequence
            [.text "0x10",
              .ofNamed
                [("b", .ofNamed [("command", .text ""), ("extra_args", .int (-5))]),
                  ("a", .ofNamed [("extra_args", .text "7"), ("command", .null)]),
                  ("c", .ofNamed [("extra_args", .float (.finite false 0x14000000000000 (-51)))])],
              .ofNamed []]),
            ("command", .text "~"), ("gauge_adapter", .text "Time")])]),
      ("virtual_machines", .ofNamed []),
      ("runs", .ofNamed [("max_invocation_time", .int (-1)), ("warmup", .null),
        ("invocations", .int 3)]),
      ("reporting", .ofNamed [("url", .tagged "env" (.text "null"))]),
      ("standard_data_file", .text "1.0")]

/-- The details of a benchmark, written with both fields or with the arguments alone. -/
lemma demoDetails_written :
    BenchmarkDetails.Written ⟨some (.int (-5)), some ""⟩
        (.ofNamed [("command", .text ""), ("extra_args", .int (-5))]) ∧
      BenchmarkDetails.Written ⟨some (.text "7"), none⟩
        (.ofNamed [("extra_args", .text "7"), ("command", .null)]) ∧
      BenchmarkDetails.Written ⟨some (.float (.finite false 0x14000000000000 (-51))), none⟩
        (.ofNamed [("extra_args", .float (.finite false 0x14000000000000 (-51)))]) := by
  refine ⟨⟨⟨_, by decide⟩, rfl, by decide, ?_⟩, ⟨⟨_, by decide⟩, rfl, by decide, ?_⟩,
    ⟨⟨_, by decide⟩, rfl, by decide, ?_⟩⟩ <;>
    simp only [List.forall_mem_cons, List.not_mem_nil, false_imp_iff, implies_true, and_true]
  · exact ⟨rfl, rfl⟩
  · exact ⟨rfl, rfl⟩
  · exact ⟨rfl, trivial⟩

/-- The tree writes the configuration. -/
lemma demoWritten_written : demoWritten.Written demoTree := by
  refine ⟨⟨_, by decide⟩, rfl, by decide, ?_⟩
  simp only [List.forall_mem_cons, List.not_mem_nil, false_imp_iff, implies_true, and_true]
  refine ⟨?_, rfl, rfl, trivial, ⟨_, rfl, .cons ⟨rfl, rfl⟩ .nil⟩,
    ⟨_, rfl, .cons ⟨rfl, ?_⟩ .nil⟩, ⟨_, rfl, .nil⟩, ⟨_, rfl, .nil⟩⟩
  · refine ⟨⟨_, by decide⟩, rfl, by decide, ?_⟩
    simp only [List.forall_mem_cons, List.not_mem_nil, false_imp_iff, implies_true, and_true]
    exact ⟨rfl, trivial, rfl, trivial, rfl⟩
  · obtain ⟨b, a, c⟩ := demoDetails_written
    refine ⟨⟨_, by decide⟩, rfl, by decide, ?_⟩
    simp only [List.forall_mem_cons, List.not_mem_nil, false_imp_iff, implies_true, and_true]
    refine ⟨rfl, rfl, trivial, ⟨_, rfl, .nil⟩, ⟨_, rfl, .cons rfl (.cons ?_ (.cons ?_ .nil))⟩⟩
    · exact ⟨_, rfl, .cons ⟨rfl, b⟩ (.cons ⟨rfl, a⟩ (.cons ⟨rfl, c⟩ .nil))⟩
    · exact ⟨_, rfl, .nil⟩

/-- A plain scalar. -/
def demoPlain (s : String) : Node := .scalar (.plain s)

/-- A text in quotes, with a tag or without. -/
def demoQuoted (s : String) (t : Option Yaml.Tag) : Node := .scalar ⟨s, .doubleQuoted, t⟩

/-- A mapping with keys in quotes. -/
def demoMapping (es : List (String × Node)) : Node :=
  .mapping none (es.map fun e => (demoQuoted e.1 none, e.2))

/-- Nodes that write the tree. Integers and nulls are written in several ways. -/
def demoNode : Node :=
  demoMapping
    [("experiments", demoMapping []), ("standard_experiment", demoPlain "~"),
      ("benchmark_suites", demoMapping
        [("true", demoMapping
          [("build", .sequence none []), ("benchmarks", .sequence none
            [demoQuoted "0x10" none,
              demoMapping
                [("b", demoMapping [("command", demoQuoted "" none),
                    ("extra_args", demoPlain "-5")]),
                  ("a", demoMapping [("extra_args", demoQuoted "7" none),
                    ("command", demoPlain "")]),
                  ("c", demoMapping [("extra_args", demoPlain "2.5")])],
              demoMapping []]),
            ("command", demoQuoted "~" none), ("gauge_adapter", demoPlain "Time")])]),
      ("virtual_machines", demoMapping []),
      ("runs", demoMapping [("max_invocation_time", demoPlain "-1"), ("warmup", demoPlain "null"),
        ("invocations", demoPlain "0b11")]),
      ("reporting", demoMapping [("url", demoQuoted "null" (some (.named "env")))]),
      ("standard_data_file", demoQuoted "1.0" none)]

/-- A plain scalar writes what it spells. -/
lemma writes_demoPlain {s : String} {v : Value} (h : (Yaml.Scalar.plain s).Spells v) :
    (demoPlain s).Writes v :=
  .scalar h .none

/-- A text in quotes writes this text. -/
lemma writes_demoQuoted (s : String) : (demoQuoted s none).Writes (.text s) :=
  .scalar (.text rfl) .none

/-- A mapping with keys in quotes writes the named values. -/
lemma writes_demoMapping {es : List (String × Node)} {xs : List (String × Value)}
    (h : List.Forall₂ (fun e x => e.1 = x.1 ∧ e.2.Writes x.2) es xs)
    (nodup : (xs.map Prod.fst).Nodup) : (demoMapping es).Writes (.ofNamed xs) := by
  refine .mapping ?_ ?_ (apart_ofNamed nodup) .none
  · rw [List.map_map, List.map_map, List.forall₂_map_left_iff, List.forall₂_map_right_iff]
    refine h.imp fun e x w => ?_
    show (demoQuoted e.1 none).Writes (.text x.1)
    rw [← w.1]
    exact writes_demoQuoted e.1
  · rw [List.map_map, List.map_map, List.forall₂_map_left_iff, List.forall₂_map_right_iff]
    exact h.imp fun _ _ w => w.2

/-- The nodes write the tree. -/
lemma demoNode_writes : demoNode.Writes demoTree := by
  refine writes_demoMapping (.cons ⟨rfl, ?_⟩ (.cons ⟨rfl, ?_⟩ (.cons ⟨rfl, ?_⟩ (.cons ⟨rfl, ?_⟩
    (.cons ⟨rfl, ?_⟩ (.cons ⟨rfl, ?_⟩ (.cons ⟨rfl, ?_⟩ .nil))))))) (by decide)
  · exact writes_demoMapping .nil .nil
  · exact writes_demoPlain (.null rfl)
  · refine writes_demoMapping (.cons ⟨rfl, ?_⟩ .nil) (by decide)
    refine writes_demoMapping (.cons ⟨rfl, ?_⟩ (.cons ⟨rfl, ?_⟩ (.cons ⟨rfl, ?_⟩
      (.cons ⟨rfl, ?_⟩ .nil)))) (by decide)
    · exact .sequence .nil .none
    · refine .sequence (.cons (writes_demoQuoted _) (.cons ?_ (.cons ?_ .nil))) .none
      · refine writes_demoMapping (.cons ⟨rfl, ?_⟩ (.cons ⟨rfl, ?_⟩ (.cons ⟨rfl, ?_⟩ .nil)))
          (by decide)
        · exact writes_demoMapping (.cons ⟨rfl, writes_demoQuoted _⟩
            (.cons ⟨rfl, writes_demoPlain (.int rfl (by decide))⟩ .nil)) (by decide)
        · exact writes_demoMapping (.cons ⟨rfl, writes_demoQuoted _⟩
            (.cons ⟨rfl, writes_demoPlain (.null rfl)⟩ .nil)) (by decide)
        · exact writes_demoMapping (.cons ⟨rfl, writes_demoPlain (.float rfl)⟩ .nil) (by decide)
      · exact writes_demoMapping .nil .nil
    · exact writes_demoQuoted _
    · exact writes_demoPlain (.text rfl)
  · exact writes_demoMapping .nil .nil
  · refine writes_demoMapping (.cons ⟨rfl, ?_⟩ (.cons ⟨rfl, ?_⟩ (.cons ⟨rfl, ?_⟩ .nil))) (by decide)
    · exact writes_demoPlain (.int rfl (by decide))
    · exact writes_demoPlain (.null rfl)
    · exact writes_demoPlain (.int rfl (by decide))
  · refine writes_demoMapping (.cons ⟨rfl, ?_⟩ .nil) (by decide)
    exact .scalar (.text rfl) (.some rfl)
  · exact writes_demoQuoted _

/-- The values of the configuration are values of a document. -/
lemma proper_demoWritten : demoWritten.Proper where
  reporting := by
    intro v m
    obtain rfl := List.mem_singleton.1 m
    exact .tagged .text nofun
  arguments := by
    intro d m
    obtain rfl := List.mem_singleton.1 m
    simp only [List.forall_mem_cons, List.not_mem_nil, false_imp_iff, implies_true, and_true,
      BenchmarkEntry.Proper, BenchmarkEntry.benchmarks, List.map_cons, List.map_nil, Table.empty]
    refine ⟨nofun, ?_, ?_, ?_⟩
    · intro x m
      cases Option.some.inj m
      trivial
    · intro x m
      cases Option.some.inj m
      trivial
    · intro x m
      cases Option.some.inj m
      show Binary64.IsCanonical 0x14000000000000 (-51)
      decide

/-- The configuration is read from these nodes, and it can be written in some way in any case. -/
theorem decode_written_demo :
    (∃ T, demoWritten.Written T ∧ ∃ n : Node, n.Writes T) ∧
      demoWritten.Written demoTree ∧ demoNode.Writes demoTree ∧
      decode demoNode Place.root ⟨demoNode, [], 0, .whole⟩ 0 = .ok (demoWritten, 0) ∧
      ofDocument ⟨demoNode, [], 0, .whole⟩ = .ok demoWritten := by
  obtain ⟨possible, read⟩ := decode_written demoWritten
  obtain ⟨nodes, document⟩ := read demoTree demoWritten_written demoNode demoNode_writes
  have deep : demoNode.height ≤ Yaml.maxDepth := by decide
  exact ⟨possible proper_demoWritten, demoWritten_written, demoNode_writes,
    nodes Place.root deep _ 0, document deep _ rfl rfl⟩

end Config

end BenchPlan
