import BenchPlan.Config.Entry
import BenchPlan.Yaml.AnyValue

/-!
# Reading configurations

A configuration is read from the tree of a document. Each record has its fields in any order;
optional ones may be left out or null, and other keys are passed over.
-/

namespace BenchPlan

open Yaml (Decode Node Place Schema Value)

namespace RunSettings.Override

/-- The fields of run settings. -/
inductive Field where
  | invocations
  | iterations
  | warmup
  | minIterationTime
  | maxInvocationTime
  deriving DecidableEq

/-- Run settings in a document. -/
def schema : Schema where
  kind := "RunsOverride"
  Field := Field
  field? s :=
    match s with
    | "invocations" => some .invocations
    | "iterations" => some .iterations
    | "warmup" => some .warmup
    | "min_iteration_time" => some .minIterationTime
    | "max_invocation_time" => some .maxInvocationTime
    | _ => none
  decEq := inferInstance
  name f :=
    match f with
    | .invocations => "invocations"
    | .iterations => "iterations"
    | .warmup => "warmup"
    | .minIterationTime => "min_iteration_time"
    | .maxInvocationTime => "max_invocation_time"
  Content f :=
    match f with
    | .maxInvocationTime => Option Int64
    | _ => Option UInt32
  read f :=
    match f with
    | .invocations => Decode.optional Decode.uint32
    | .iterations => Decode.optional Decode.uint32
    | .warmup => Decode.optional Decode.uint32
    | .minIterationTime => Decode.optional Decode.uint32
    | .maxInvocationTime => Decode.optional Decode.int64

/-- The run settings of a draft. -/
def ofDraft (d : schema.Draft) : Override where
  invocations := (d .invocations).join
  iterations := (d .iterations).join
  warmup := (d .warmup).join
  minIterationTime := (d .minIterationTime).join
  maxInvocationTime := (d .maxInvocationTime).join

/-- Reads run settings. -/
def decode : Node → Place → Decode Override := schema.record fun d => pure (ofDraft d)

end RunSettings.Override

/-- Reads an entry that may have one of several shapes. -/
def decodeEntry {α : Type} (kind : String) (f : Value → Option α) (n : Node) (p : Place) :
    Decode α := do
  let v ← Decode.value .choice n p
  match f v with
  | some x => pure x
  | none => Decode.fail (.noVariant kind)

namespace SuiteDef

/-- The fields of a suite. -/
inductive Field where
  | gaugeAdapter
  | command
  | location
  | build
  | benchmarks
  deriving DecidableEq

/-- A suite in a document. -/
def schema : Schema where
  kind := "SuiteDef"
  Field := Field
  field? s :=
    match s with
    | "gauge_adapter" => some .gaugeAdapter
    | "command" => some .command
    | "location" => some .location
    | "build" => some .build
    | "benchmarks" => some .benchmarks
    | _ => none
  decEq := inferInstance
  name f :=
    match f with
    | .gaugeAdapter => "gauge_adapter"
    | .command => "command"
    | .location => "location"
    | .build => "build"
    | .benchmarks => "benchmarks"
  Content f :=
    match f with
    | .gaugeAdapter => String
    | .command => String
    | .location => Option String
    | .build => Option (List String)
    | .benchmarks => List BenchmarkEntry
  read f :=
    match f with
    | .gaugeAdapter => Decode.text
    | .command => Decode.text
    | .location => Decode.optional Decode.text
    | .build => Decode.optional (Decode.list Decode.text)
    | .benchmarks => Decode.list (decodeEntry "BenchmarkEntry" BenchmarkEntry.ofValue?)

/-- The suite of a draft. -/
def ofDraft (d : schema.Draft) : Decode SuiteDef := do
  let gaugeAdapter : String ← d.required .gaugeAdapter
  let command : String ← d.required .command
  let benchmarks : List BenchmarkEntry ← d.required .benchmarks
  pure ⟨gaugeAdapter, command, (d .location).join, (d .build).join, benchmarks⟩

/-- Reads a suite. -/
def decode : Node → Place → Decode SuiteDef := schema.record ofDraft

end SuiteDef

namespace MachineDef

/-- The fields of a virtual machine. -/
inductive Field where
  | path
  | binary
  | args
  | build
  deriving DecidableEq

/-- A virtual machine in a document. -/
def schema : Schema where
  kind := "VmDef"
  Field := Field
  field? s :=
    match s with
    | "path" => some .path
    | "binary" => some .binary
    | "args" => some .args
    | "build" => some .build
    | _ => none
  decEq := inferInstance
  name f :=
    match f with
    | .path => "path"
    | .binary => "binary"
    | .args => "args"
    | .build => "build"
  Content f :=
    match f with
    | .path => Option String
    | .binary => String
    | .args => Option String
    | .build => Option (List String)
  read f :=
    match f with
    | .path => Decode.optional Decode.text
    | .binary => Decode.text
    | .args => Decode.optional Decode.text
    | .build => Decode.optional (Decode.list Decode.text)

/-- The virtual machine of a draft. -/
def ofDraft (d : schema.Draft) : Decode MachineDef := do
  let binary : String ← d.required .binary
  pure ⟨(d .path).join, binary, (d .args).join, (d .build).join⟩

/-- Reads a virtual machine. -/
def decode : Node → Place → Decode MachineDef := schema.record ofDraft

end MachineDef

namespace ExperimentDef

/-- The fields of an experiment. -/
inductive Field where
  | description
  | dataFile
  | runs
  | suites
  | executions
  deriving DecidableEq

/-- An experiment in a document. -/
def schema : Schema where
  kind := "ExperimentDef"
  Field := Field
  field? s :=
    match s with
    | "description" => some .description
    | "data_file" => some .dataFile
    | "runs" => some .runs
    | "suites" => some .suites
    | "executions" => some .executions
    | _ => none
  decEq := inferInstance
  name f :=
    match f with
    | .description => "description"
    | .dataFile => "data_file"
    | .runs => "runs"
    | .suites => "suites"
    | .executions => "executions"
  Content f :=
    match f with
    | .description => Option String
    | .dataFile => Option String
    | .runs => Option RunSettings.Override
    | .suites => List String
    | .executions => List ExecutionEntry
  read f :=
    match f with
    | .description => Decode.optional Decode.text
    | .dataFile => Decode.optional Decode.text
    | .runs => Decode.optional RunSettings.Override.decode
    | .suites => Decode.list Decode.text
    | .executions => Decode.list (decodeEntry "ExecutionDef" ExecutionEntry.ofValue?)

/-- The experiment of a draft. -/
def ofDraft (d : schema.Draft) : Decode ExperimentDef := do
  let executions : List ExecutionEntry ← d.required .executions
  pure ⟨(d .description).join, (d .dataFile).join, (d .runs).join, (d .suites).getD [], executions⟩

/-- Reads an experiment. -/
def decode : Node → Place → Decode ExperimentDef := schema.record ofDraft

end ExperimentDef

namespace Config

/-- The fields of a configuration. -/
inductive Field where
  | runs
  | standardDataFile
  | standardExperiment
  | buildLog
  | reporting
  | suites
  | machines
  | experiments
  deriving DecidableEq

/-- A configuration in a document. -/
def schema : Schema where
  kind := "RawConfig"
  Field := Field
  field? s :=
    match s with
    | "runs" => some .runs
    | "standard_data_file" => some .standardDataFile
    | "standard_experiment" => some .standardExperiment
    | "build_log" => some .buildLog
    | "reporting" => some .reporting
    | "benchmark_suites" => some .suites
    | "virtual_machines" => some .machines
    | "experiments" => some .experiments
    | _ => none
  decEq := inferInstance
  name f :=
    match f with
    | .runs => "runs"
    | .standardDataFile => "standard_data_file"
    | .standardExperiment => "standard_experiment"
    | .buildLog => "build_log"
    | .reporting => "reporting"
    | .suites => "benchmark_suites"
    | .machines => "virtual_machines"
    | .experiments => "experiments"
  Content f :=
    match f with
    | .runs => Option RunSettings.Override
    | .standardDataFile => Option String
    | .standardExperiment => Option String
    | .buildLog => Option String
    | .reporting => Table Value
    | .suites => Table SuiteDef
    | .machines => Table MachineDef
    | .experiments => Table ExperimentDef
  read f :=
    match f with
    | .runs => Decode.optional RunSettings.Override.decode
    | .standardDataFile => Decode.optional Decode.text
    | .standardExperiment => Decode.optional Decode.text
    | .buildLog => Decode.optional Decode.text
    | .reporting => Decode.table (Decode.value .data)
    | .suites => Decode.table SuiteDef.decode
    | .machines => Decode.table MachineDef.decode
    | .experiments => Decode.table ExperimentDef.decode

/-- The configuration of a draft. -/
def ofDraft (d : schema.Draft) : Decode Config := do
  let suites : Table SuiteDef ← d.required .suites
  let machines : Table MachineDef ← d.required .machines
  let experiments : Table ExperimentDef ← d.required .experiments
  pure
    { runs := (d .runs).join
      standardDataFile := (d .standardDataFile).join
      standardExperiment := (d .standardExperiment).join
      buildLogFile := (d .buildLog).join
      reporting := (d .reporting).getD Table.empty
      suites := suites
      machines := machines
      experiments := experiments }

/-- Reads a configuration. -/
def decode : Node → Place → Decode Config := schema.record ofDraft

/-- The configuration that a document holds. An error of shape comes first; then nothing must be
wrong behind the part that was read. -/
def ofDocument (doc : Yaml.Document) : Except Yaml.Error Config := do
  let (c, _) ← decode doc.root Place.root doc 0
  match doc.ending with
  | .whole => .ok c
  | .followed => .error .severalDocuments
  | .broken => .error .malformed
  | .dangling => .error .unknownAnchor

/-- The configuration that a text holds. -/
def ofText (text : String) : Except Yaml.Error Config :=
  ofDocument (Yaml.Document.ofText text)

end Config

end BenchPlan
