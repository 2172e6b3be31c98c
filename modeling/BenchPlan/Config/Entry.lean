import BenchPlan.Config.Basic
import BenchPlan.Yaml.Scalar

/-!
# Entries of either shape

Entries of the lists of benchmarks and executions are a name alone or a mapping. They are read from
values whose types are known already, so a name has to be a text. Details are given by name, or as
a list in the order of the fields, or with the numbers of the fields as keys.
-/

namespace BenchPlan

open Yaml (Value)

/-- Reads something that may be null. -/
def Yaml.Value.optional? {α : Type} (f : Value → Option α) : Value → Option (Option α)
  | .null => some none
  | v => (f v).map some

/-- Reads a text. -/
def Yaml.Value.text? : Value → Option String
  | .text s => some s
  | _ => none

/-- Reads a list of texts. -/
def Yaml.Value.texts? : Value → Option (List String)
  | .sequence vs => vs.mapM Value.text?
  | _ => none

/-- The number of the field that a key means, among the names of fields in order; `none` for a key
that means no field. Keys other than texts and natural numbers are refused, among them the zero with
a minus sign. -/
def Yaml.Value.fieldNumber? (names : List String) : Value → Option (Option Nat)
  | .text s => some (names.idxOf? s)
  | .int (.ofNat n) => some (if n < names.length then some n else none)
  | _ => none

/-- Takes the values of fields from a mapping, each at most once, into a list with a place for each
field. -/
def Yaml.Value.pickFields (names : List String) (picked : List (Option Value)) :
    List (Value × Value) → Option (List (Option Value))
  | [] => some picked
  | (k, v) :: rest => do
    match ← fieldNumber? names k with
    | none => pickFields names picked rest
    | some i =>
      match picked[i]? with
      | some none => pickFields names (picked.set i (some v)) rest
      | _ => none

/-- The values of fields in a mapping by name or number, or in a list by position. -/
def Yaml.Value.fields? (names : List String) : Value → Option (List (Option Value))
  | .mapping es => pickFields names (names.map fun _ => none) es
  | .sequence vs =>
    if vs.length ≤ names.length then
      some (vs.map some ++ List.replicate (names.length - vs.length) none)
    else none
  | _ => none

/-- Reads the value of a field that may be left out. -/
def Yaml.Value.field? {α : Type} (f : Value → Option α) : Option Value → Option (Option α)
  | none => some none
  | some v => v.optional? f

/-- Reads an entry whose key is a text. -/
def Yaml.Value.entry? {α : Type} (f : Value → Option α) (e : Value × Value) :
    Option (String × α) := do
  some (← e.1.text?, ← f e.2)

/-- Reads a mapping whose keys are texts. -/
def Yaml.Value.table? {α : Type} (f : Value → Option α) : Value → Option (Table α)
  | .mapping es => (es.mapM (Value.entry? f)).map Table.ofList
  | _ => none

namespace ExtraArgs

/-- Reads an argument. An integer that does not fit into 64 bits with a sign becomes a floating
point number. -/
def ofValue? : Value → Option ExtraArgs
  | .int n =>
    if Yaml.Scalar.fitsInt64 n then some (.int (Int64.ofInt n))
    else some (.float (Binary64.ofInt n))
  | .negativeZero => some (.int 0)
  | .float x => some (.float x)
  | .text s => some (.text s)
  | _ => none

end ExtraArgs

namespace BenchmarkDetails

/-- Reads the details of a benchmark. -/
def ofValue? (v : Value) : Option BenchmarkDetails := do
  match ← v.fields? ["extra_args", "command"] with
  | [args, command] =>
    some ⟨← Value.field? ExtraArgs.ofValue? args, ← Value.field? Value.text? command⟩
  | _ => none

end BenchmarkDetails

namespace BenchmarkEntry

/-- Reads an entry of a list of benchmarks. -/
def ofValue? : Value → Option BenchmarkEntry
  | .text s => some (.name s)
  | v => (v.table? BenchmarkDetails.ofValue?).map .detailed

end BenchmarkEntry

namespace ExecutionDetails

/-- Reads the details of an execution. -/
def ofValue? (v : Value) : Option ExecutionDetails := do
  match ← v.fields? ["suites"] with
  | [suites] => some ⟨← Value.field? Value.texts? suites⟩
  | _ => none

end ExecutionDetails

namespace ExecutionEntry

/-- Reads an entry of a list of executions. -/
def ofValue? : Value → Option ExecutionEntry
  | .text s => some (.machine s)
  | v => (v.table? ExecutionDetails.ofValue?).map .detailed

end ExecutionEntry

end BenchPlan
