import BenchPlan.Proofs.Numerals
import BenchPlan.Proofs.Writing

/-!
# Everything can be written

A value is proper if a document can hold it, and then some node writes it
(`Value.Proper.exists_writes`): numbers in their digits, and texts in quotes, so that they cannot be
taken for anything else. A configuration whose values are proper is written by a tree of such values
(`Config.Proper.writable`), which has a field for whatever there is to say.
-/

namespace BenchPlan

open Yaml (Node Scalar Value)

namespace Yaml

/-! ## Values -/

/-- A value that a document can hold: integers need 64 bits at most, numbers are in canonical form,
no two keys of a mapping are the same, and no value has two tags. -/
inductive Value.Proper : Value → Prop where
  | null : Proper .null
  | bool {b : Bool} : Proper (.bool b)
  | int {n : Int} (fits : Scalar.fitsWord n = true) : Proper (.int n)
  | float {x : Binary64} (canonical : x.Canonical) : Proper (.float x)
  | text {s : String} : Proper (.text s)
  | sequence {vs : List Value} (items : ∀ v ∈ vs, Proper v) : Proper (.sequence vs)
  | mapping {xs : List (Value × Value)} (keys : ∀ x ∈ xs, Proper x.1)
      (values : ∀ x ∈ xs, Proper x.2) (apart : xs.Pairwise fun a b => a.1.sameKey b.1 = false) :
    Proper (.mapping xs)
  | tagged {name : String} {v : Value} (value : Proper v) (bare : ∀ tag w, v ≠ .tagged tag w) :
    Proper (.tagged name v)

namespace Scalar

/-- Plain text without a tag. -/
def plain (s : String) : Scalar := ⟨s, .plain, none⟩

/-- A plain scalar is read by its text. -/
lemma typed_plain (s : String) : (plain s).typed true = .ok (ofPlain s) := rfl

/-- The digits of an integer that fits spell it. -/
lemma spells_digits {n : Int} (fits : fitsWord n = true) :
    (plain (String.ofList (digits n))).Spells (.int n) := by
  refine .int ?_ ?_
  · rw [typed_plain, ofPlain_digits fits]
  · rintro rfl
    decide

/-- The exact decimal of a canonical number spells it. -/
lemma spells_exactText {x : Binary64} (canonical : x.Canonical) :
    (plain (String.ofList x.exactText)).Spells (.float x) := by
  refine .float ?_
  rw [typed_plain, ofPlain_exactText canonical]

/-- A tag does not change what a scalar spells. -/
lemma Spells.withTag {s : Scalar} {v : Value} (spells : s.Spells v) (t : Option Tag) :
    Spells { s with tag := t } v := by
  cases spells with
  | null read => exact .null read
  | bool read => exact .bool read
  | int read sign => exact .int read sign
  | float read => exact .float read
  | text read => exact .text read

end Scalar

/-- A value without a tag, written down, can be given one. -/
lemma Node.Writes.exists_tagged {n : Node} {v : Value} (writes : n.Writes v)
    (bare : ∀ tag w, v ≠ .tagged tag w) (name : String) : ∃ n', Writes n' (.tagged name v) := by
  have named : Tagging (some (.named name)) v (.tagged name v) := .some rfl
  cases writes with
  | @scalar s v' w spells tag =>
    obtain ⟨-, rfl⟩ := eq_of_tagging tag bare
    exact ⟨.scalar { s with tag := some (.named name) }, .scalar (spells.withTag _) named⟩
  | sequence items tag =>
    obtain ⟨-, rfl⟩ := eq_of_tagging tag bare
    exact ⟨_, .sequence items named⟩
  | mapping keys values apart tag =>
    obtain ⟨-, rfl⟩ := eq_of_tagging tag bare
    exact ⟨_, .mapping keys values apart named⟩

/-- If every member has a partner, there is a list of partners. -/
lemma exists_forall₂ {α β : Type} {R : α → β → Prop} {as : List α} (h : ∀ a ∈ as, ∃ b, R a b) :
    ∃ bs, List.Forall₂ R as bs := by
  induction as with
  | nil => exact ⟨[], .nil⟩
  | cons a as ih =>
    obtain ⟨b, related⟩ := h a List.mem_cons_self
    obtain ⟨bs, rest⟩ := ih fun a m => h a (List.mem_cons_of_mem _ m)
    exact ⟨b :: bs, .cons related rest⟩

/-- Every proper value is written by a node. -/
lemma Value.Proper.exists_writes {v : Value} (proper : v.Proper) : ∃ n : Node, n.Writes v := by
  induction proper with
  | null => exact ⟨.scalar (.plain "null"), .scalar (.null rfl) .none⟩
  | @bool b =>
    cases b with
    | true => exact ⟨.scalar (.plain "true"), .scalar (.bool rfl) .none⟩
    | false => exact ⟨.scalar (.plain "false"), .scalar (.bool rfl) .none⟩
  | int fits => exact ⟨_, .scalar (Scalar.spells_digits fits) .none⟩
  | float canonical => exact ⟨_, .scalar (Scalar.spells_exactText canonical) .none⟩
  | @text s => exact ⟨.scalar ⟨s, .doubleQuoted, none⟩, .scalar (.text rfl) .none⟩
  | sequence items ih =>
    obtain ⟨ns, writes⟩ := exists_forall₂ ih
    exact ⟨_, .sequence writes.flip .none⟩
  | @mapping xs keys values apart keysIh valuesIh =>
    have keysIh : ∀ k ∈ xs.map Prod.fst, ∃ n : Node, n.Writes k := List.forall_mem_map.2 keysIh
    have valuesIh : ∀ v ∈ xs.map Prod.snd, ∃ n : Node, n.Writes v := List.forall_mem_map.2 valuesIh
    obtain ⟨ks, keys⟩ := exists_forall₂ keysIh
    obtain ⟨vs, values⟩ := exists_forall₂ valuesIh
    have length : ks.length = vs.length := by
      rw [← keys.length_eq, ← values.length_eq, List.length_map, List.length_map]
    rw [← List.map_fst_zip length.le] at keys
    rw [← List.map_snd_zip length.ge] at values
    exact ⟨_, .mapping keys.flip values.flip apart .none⟩
  | tagged value bare ih =>
    obtain ⟨n, writes⟩ := ih
    exact writes.exists_tagged bare _

/-! ## Records -/

namespace Value

variable {α : Type} {writes : α → Value → Prop}

/-- Some proper value is as it is said. -/
def Writable (said : Value → Prop) : Prop := ∃ v, said v ∧ v.Proper

/-- What is said of a field can be true, of a proper value or of none. -/
def FieldWritable (said : Option Value → Prop) : Prop := ∃ o, said o ∧ ∀ v, o = some v → v.Proper

/-- An optional field can be written if what it holds can. -/
lemma FieldWritable.optionally {o : Option α} (h : ∀ a, o = some a → Writable (writes a)) :
    FieldWritable (Optionally writes o) := by
  cases o with
  | none => exact ⟨none, trivial, nofun⟩
  | some a =>
    obtain ⟨v, written, proper⟩ := h a rfl
    exact ⟨some v, written, fun _ e => Option.some.inj e ▸ proper⟩

/-- A required field can be written if what it holds can. -/
lemma FieldWritable.required {a : α} (h : Writable (writes a)) :
    FieldWritable (Required writes a) := by
  obtain ⟨v, written, proper⟩ := h
  exact ⟨some v, written, fun _ e => Option.some.inj e ▸ proper⟩

/-- A field with a default can be written if what it holds can. -/
lemma FieldWritable.defaulted {a default : α} (h : Writable (writes a)) :
    FieldWritable (Defaulted default writes a) := by
  obtain ⟨v, written, proper⟩ := h
  exact ⟨some v, written, fun _ e => Option.some.inj e ▸ proper⟩

/-- Different names make keys that are apart. -/
lemma apart_ofNamed {xs : List (String × Value)} (nodup : (xs.map Prod.fst).Nodup) :
    (xs.map fun x => (text x.1, x.2)).Pairwise fun a b => a.1.sameKey b.1 = false := by
  rw [List.pairwise_map]
  refine (List.pairwise_map.1 nodup).imp fun ne => ?_
  simpa [sameKey] using ne

/-- Proper values with different names make a proper mapping. -/
lemma proper_ofNamed {xs : List (String × Value)} (nodup : (xs.map Prod.fst).Nodup)
    (proper : ∀ x ∈ xs, x.2.Proper) : (ofNamed xs).Proper := by
  refine .mapping ?_ ?_ (apart_ofNamed nodup)
  · exact List.forall_mem_map.2 fun _ _ => .text
  · exact List.forall_mem_map.2 proper

/-- A record can be written if each of its fields can, one after the other. -/
lemma Writable.isRecord {fields : List (String × (Option Value → Prop))}
    (distinct : (fields.map Prod.fst).Nodup) (each : ∀ f ∈ fields, FieldWritable f.2) :
    Writable (IsRecord fields) := by
  have content : ∃ xs : List (String × Value), (xs.map Prod.fst).Sublist (fields.map Prod.fst) ∧
      (∀ f ∈ fields, f.2 (xs.lookup f.1)) ∧ ∀ x ∈ xs, x.2.Proper := by
    -- names that are a sublist stay different, so that a new one changes no other field
    induction fields with
    | nil => exact ⟨[], .slnil, nofun, nofun⟩
    | cons f fields ih =>
      obtain ⟨name, said⟩ := f
      obtain ⟨new, distinct⟩ := List.nodup_cons.1 distinct
      obtain ⟨xs, names, content, proper⟩ :=
        ih distinct fun f m => each f (List.mem_cons_of_mem _ m)
      obtain ⟨o, written, properField⟩ := each (name, said) List.mem_cons_self
      cases o with
      | none =>
        have absent : xs.lookup name = none := by
          refine List.lookup_eq_none_iff.2 fun x m => ?_
          rw [bne_iff_ne]
          rintro rfl
          exact new (names.subset (List.mem_map_of_mem m))
        exact ⟨xs, names.cons name, List.forall_mem_cons.2 ⟨absent ▸ written, content⟩, proper⟩
      | some v =>
        refine ⟨(name, v) :: xs, names.cons_cons name, List.forall_mem_cons.2 ⟨?_, ?_⟩,
          List.forall_mem_cons.2 ⟨properField v rfl, proper⟩⟩
        · rw [List.lookup_cons_self]
          exact written
        · intro f m
          have other : (f.1 == name) = false := by
            rw [beq_eq_false_iff_ne]
            rintro rfl
            have again : f.1 ∈ fields.map Prod.fst := List.mem_map_of_mem m
            exact new again
          rw [List.lookup_cons, other]
          exact content f m
  obtain ⟨xs, names, content, proper⟩ := content
  have nodup := distinct.sublist names
  exact ⟨_, ⟨⟨xs, nodup⟩, rfl, fun _ m => names.subset m, content⟩, proper_ofNamed nodup proper⟩

/-- A list can be written if its items can. -/
lemma Writable.list {as : List α} (h : ∀ a ∈ as, Writable (writes a)) :
    Writable (WritesList writes as) := by
  obtain ⟨vs, items⟩ := exists_forall₂ h
  refine ⟨.sequence vs, ⟨vs, rfl, items.imp fun _ _ w => w.1⟩, .sequence fun v m => ?_⟩
  obtain ⟨a, -, -, proper⟩ := exists_mem_of_forall₂ items.flip m
  exact proper

/-- A table can be written if its values can. -/
lemma Writable.table {t : Table α} (h : ∀ e ∈ t.entries, Writable (writes e.2)) :
    Writable (WritesTable writes t) := by
  have each : ∀ e ∈ t.entries,
      ∃ x : String × Value, (e.1 = x.1 ∧ writes e.2 x.2) ∧ x.2.Proper := by
    intro e m
    obtain ⟨v, written, proper⟩ := h e m
    exact ⟨(e.1, v), ⟨rfl, written⟩, proper⟩
  obtain ⟨xs, entries⟩ := exists_forall₂ each
  have names : t.keys = xs.map Prod.fst := by
    have same := entries.imp fun _ _ w => w.1.1
    rwa [← List.forall₂_map_right_iff, ← List.forall₂_map_left_iff, List.forall₂_eq_eq_eq] at same
  refine ⟨ofNamed xs, ⟨xs, rfl, entries.imp fun _ _ w => w.1⟩, proper_ofNamed ?_ fun x m => ?_⟩
  · exact names ▸ t.nodup
  · obtain ⟨e, -, -, proper⟩ := exists_mem_of_forall₂ entries.flip m
    exact proper

/-- A text can be written. -/
lemma Writable.text (s : String) : Writable (WritesText s) := ⟨.text s, rfl, .text⟩

/-- A list of texts can be written. -/
lemma Writable.texts (ss : List String) : Writable (WritesList WritesText ss) :=
  .list fun s _ => .text s

/-- A natural number of 32 bits can be written. -/
lemma Writable.natural (n : UInt32) : Writable (WritesNatural n) := by
  refine ⟨.int n.toNat, rfl, .int ?_⟩
  have high := n.toNat_lt
  simp [Scalar.fitsWord]
  omega

/-- An integer of 64 bits can be written. -/
lemma Writable.integer (n : Int64) : Writable (WritesInteger n) := by
  refine ⟨.int n.toInt, rfl, .int ?_⟩
  have low := n.le_toInt
  have high := n.toInt_lt
  simp [Scalar.fitsWord]
  omega

end Value

end Yaml

open Yaml.Value (Writable FieldWritable)

/-- A floating point argument is in canonical form. -/
def ExtraArgs.Proper : ExtraArgs → Prop
  | float x => x.Canonical
  | _ => True

/-- The arguments of an entry are proper. -/
def BenchmarkEntry.Proper (e : BenchmarkEntry) : Prop :=
  ∀ b ∈ e.benchmarks, ∀ x ∈ b.2.bind BenchmarkDetails.extraArgs, x.Proper

/-- All values in a configuration are values of a document. -/
structure Config.Proper (c : Config) : Prop where
  reporting : ∀ v ∈ c.reporting.values, v.Proper
  arguments : ∀ d ∈ c.suites.values, ∀ e ∈ d.benchmarks, e.Proper

/-- An override can be written. -/
lemma RunSettings.Override.writable (o : Override) : Writable o.Written := by
  refine .isRecord (by simp) ?_
  simp only [List.forall_mem_cons, List.not_mem_nil, false_imp_iff, implies_true, and_true]
  exact ⟨.optionally fun _ _ => .natural _, .optionally fun _ _ => .natural _,
    .optionally fun _ _ => .natural _, .optionally fun _ _ => .natural _,
    .optionally fun _ _ => .integer _⟩

/-- A proper argument can be written. -/
lemma ExtraArgs.Proper.writable {x : ExtraArgs} (proper : x.Proper) : Writable x.Written := by
  cases x with
  | int n => exact .integer n
  | float x => exact ⟨.float x, rfl, .float proper⟩
  | text s => exact .text s

/-- The details of a benchmark can be written if their argument is proper. -/
lemma BenchmarkDetails.writable {d : BenchmarkDetails} (proper : ∀ x ∈ d.extraArgs, x.Proper) :
    Writable d.Written := by
  refine .isRecord (by simp) ?_
  simp only [List.forall_mem_cons, List.not_mem_nil, false_imp_iff, implies_true, and_true]
  exact ⟨.optionally fun x e => (proper x e).writable, .optionally fun _ _ => .text _⟩

/-- An entry with proper arguments can be written. -/
lemma BenchmarkEntry.Proper.writable {e : BenchmarkEntry} (proper : e.Proper) :
    Writable e.Written := by
  cases e with
  | name s => exact .text s
  | detailed t =>
    refine .table fun b m => BenchmarkDetails.writable ?_
    exact proper (b.1, some b.2) (List.mem_map_of_mem m)

/-- The details of an execution can be written. -/
lemma ExecutionDetails.writable (d : ExecutionDetails) : Writable d.Written := by
  refine .isRecord (by simp) ?_
  simp only [List.forall_mem_cons, List.not_mem_nil, false_imp_iff, implies_true, and_true]
  exact .optionally fun _ _ => .texts _

/-- An entry for executions can be written. -/
lemma ExecutionEntry.writable (e : ExecutionEntry) : Writable e.Written := by
  cases e with
  | machine s => exact .text s
  | detailed t => exact .table fun x _ => x.2.writable

/-- The definition of a suite with proper entries can be written. -/
lemma SuiteDef.writable {d : SuiteDef} (proper : ∀ e ∈ d.benchmarks, e.Proper) :
    Writable d.Written := by
  refine .isRecord (by simp) ?_
  simp only [List.forall_mem_cons, List.not_mem_nil, false_imp_iff, implies_true, and_true]
  exact ⟨.required (.text _), .required (.text _), .optionally fun _ _ => .text _,
    .optionally fun _ _ => .texts _, .required (.list fun e m => (proper e m).writable)⟩

/-- The definition of a machine can be written. -/
lemma MachineDef.writable (d : MachineDef) : Writable d.Written := by
  refine .isRecord (by simp) ?_
  simp only [List.forall_mem_cons, List.not_mem_nil, false_imp_iff, implies_true, and_true]
  exact ⟨.optionally fun _ _ => .text _, .required (.text _), .optionally fun _ _ => .text _,
    .optionally fun _ _ => .texts _⟩

/-- The definition of an experiment can be written. -/
lemma ExperimentDef.writable (d : ExperimentDef) : Writable d.Written := by
  refine .isRecord (by simp) ?_
  simp only [List.forall_mem_cons, List.not_mem_nil, false_imp_iff, implies_true, and_true]
  exact ⟨.optionally fun _ _ => .text _, .optionally fun _ _ => .text _,
    .optionally fun o _ => o.writable, .defaulted (.texts _),
    .required (.list fun e _ => e.writable)⟩

/-- Every configuration can be written down. -/
lemma Config.Proper.writable {c : Config} (proper : c.Proper) : Writable c.Written := by
  refine .isRecord (by simp) ?_
  simp only [List.forall_mem_cons, List.not_mem_nil, false_imp_iff, implies_true, and_true]
  refine ⟨.optionally fun o _ => o.writable, .optionally fun _ _ => .text _,
    .optionally fun _ _ => .text _, .optionally fun _ _ => .text _, .defaulted (.table ?_),
    .required (.table ?_), .required (.table fun e _ => e.2.writable),
    .required (.table fun e _ => e.2.writable)⟩
  · exact fun e m => ⟨e.2, rfl, proper.reporting e.2 (List.mem_map_of_mem m)⟩
  · exact fun e m => SuiteDef.writable (proper.arguments e.2 (List.mem_map_of_mem m))

end BenchPlan
