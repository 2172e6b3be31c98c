import BenchPlan.Proofs.Spelling

/-!
# What is written is read

A reader reads a value as something if it comes to that from every node which writes the value, in
every place from which collections may be entered as deep as the node goes (`Decode.Reads`). There
is one such statement for each reader: numbers and texts, what is optional (`Reads.optional`), lists
and tables from their members (`Reads.list`, `Reads.table`), values of any kind (`reads_data`,
`reads_choice`), and records from their fields, which may stand in any order
(`Schema.reads_record`).
-/

namespace BenchPlan.Yaml

namespace Decode

variable {α β : Type} {a : α} {b : β}

/-- Reading comes to a result in every document, without following an alias. -/
def Yields (x : Decode α) (a : α) : Prop := ∀ doc k, x doc k = .ok (a, k)

/-- A result that is there is come to. -/
lemma Yields.pure (a : α) : Yields (pure a) a := fun _ _ => rfl

/-- A result that is there is come to under another name. -/
lemma Yields.of_eq {a b : α} (h : a = b) : Yields (Pure.pure a) b := h ▸ .pure a

/-- Reading one thing and then another comes to the result of the other. -/
lemma Yields.bind {x : Decode α} {f : α → Decode β} (h : Yields x a) (h' : Yields (f a) b) :
    Yields (x >>= f) b := by
  intro doc k
  show (x doc k >>= fun r => f r.1 doc r.2) = _
  rw [h doc k]
  exact h' doc k

/-- Reading and applying a function comes to its value. -/
lemma Yields.map {x : Decode α} (f : α → β) (h : Yields x a) : Yields (f <$> x) (f a) := by
  rw [map_eq_pure_bind]
  exact h.bind (.pure _)

/-- Reading comes to the same result if its place is told. -/
lemma Yields.located {x : Decode α} (path : Path) (h : Yields x a) : Yields (located path x) a := by
  intro doc k
  rw [Decode.located, h doc k]
  rfl

/-- A reader reads a value as `a`, however it is written, in every place that is deep enough. -/
def Reads (read : Node → Place → Decode α) (v : Value) (a : α) : Prop :=
  ∀ n p, Node.Writes n v → n.height ≤ p.depth → Yields (read n p) a

/-! ## Readers of scalars -/

variable {read : Node → Place → Decode α} {v : Value}

/-- A text is read as itself, whatever is said to be expected. -/
lemma reads_textAs (expected t : String) : Reads (textAs expected) (.text t) t := by
  intro n p writes _
  obtain ⟨s, rfl, -, spells⟩ := writes.of_isScalar rfl
  cases spells with
  | text typed =>
    rw [← Scalar.text_of_typed typed]
    have follows : Yields (follow (.scalar s)) (.scalar s) := .pure _
    refine (follows.bind ?_).located p.path
    exact .pure _

/-- A text is read as itself. -/
lemma reads_text (t : String) : Reads text (.text t) t := reads_textAs "a string" t

/-- A natural number of 32 bits is read as itself. -/
lemma reads_uint32 (x : UInt32) : Reads uint32 (.int (x.toNat : Int)) x := by
  intro n p writes _
  obtain ⟨s, rfl, -, spells⟩ := writes.of_isScalar rfl
  cases spells with
  | int typed sign =>
    obtain ⟨plain, digits⟩ := Scalar.plain_of_typed_int typed
    have positive := Scalar.positive?_of_integer? digits fun zero => sign (by omega)
    have follows : Yields (follow (.scalar s)) (.scalar s) := .pure _
    refine (follows.bind ?_).located p.path
    have may : mayBeInteger s = true := by simp [mayBeInteger, plain]
    have fits : x.toNat < UInt32.size := x.toNat_lt
    simp only [if_pos may, positive, if_pos fits, UInt32.ofNat_toNat]
    exact .pure x

/-- An integer of 64 bits fits into 64 bits. -/
lemma fitsInt64_toInt (x : Int64) : Scalar.fitsInt64 x.toInt = true := by
  have low := x.le_toInt
  have high := x.toInt_lt
  simp [Scalar.fitsInt64]
  omega

/-- An integer of 64 bits is read as itself. -/
lemma reads_int64 (x : Int64) : Reads int64 (.int x.toInt) x := by
  intro n p writes _
  obtain ⟨s, rfl, -, spells⟩ := writes.of_isScalar rfl
  cases spells with
  | int typed sign =>
    obtain ⟨plain, digits⟩ := Scalar.plain_of_typed_int typed
    have follows : Yields (follow (.scalar s)) (.scalar s) := .pure _
    refine (follows.bind ?_).located p.path
    have may : mayBeInteger s = true := by simp [mayBeInteger, plain]
    simp only [if_pos may, digits, if_pos (fitsInt64_toInt x), Int64.ofInt_toInt]
    exact .pure x

/-! ## Readers of something optional, lists and tables -/

/-- Null is read as nothing where something is optional. -/
lemma reads_optional_null (read : Node → Place → Decode α) : Reads (optional read) .null none := by
  intro n p writes _
  obtain ⟨s, rfl, untagged, spells⟩ := writes.of_isScalar rfl
  cases spells with
  | null typed =>
    have follows : Yields (follow (.scalar s)) (.scalar s) := .pure _
    refine follows.bind ?_
    simp only [Scalar.isAbsent_of_typed untagged typed]
    exact .pure _

/-- Something that is there is read as it would be if it were not optional. -/
lemma Reads.optional (h : Reads read v a) (present : v.isPresent = true) :
    Reads (optional read) v (some a) := by
  intro n p writes deep
  have bare : ∀ name x, v ≠ .tagged name x := by
    rintro name x rfl
    cases present
  have there := (h n p writes deep).map some
  cases writes with
  | scalar spells tag =>
    rename_i s v'
    obtain ⟨untagged, rfl⟩ := Node.Writes.eq_of_tagging tag bare
    have follows : Yields (follow (.scalar s)) (.scalar s) := .pure _
    refine follows.bind ?_
    obtain ⟨r, typed, something⟩ : ∃ r, s.typed true = .ok r ∧ r ≠ .null := by
      cases spells with
      | null _ => cases present
      | bool typed => exact ⟨_, typed, nofun⟩
      | int typed _ => exact ⟨_, typed, nofun⟩
      | float typed => exact ⟨_, typed, nofun⟩
      | text typed => exact ⟨_, typed, nofun⟩
    simp only [Scalar.isAbsent_of_typed untagged typed, decide_eq_false something]
    exact there
  | sequence items tag => exact .bind (.pure _) there
  | mapping keys values apart tag => exact .bind (.pure _) there

/-- A place that is deep enough can be entered, and what is left of its depth is enough inside. -/
lemma enter_yields {p : Place} {h : Nat} (deep : h + 1 ≤ p.depth) :
    ∃ depth, Yields (enter p) ⟨p.path, depth⟩ ∧ h ≤ depth := by
  obtain ⟨depth, e⟩ : ∃ depth, p.depth = depth + 1 := ⟨p.depth - 1, by omega⟩
  refine ⟨depth, ?_, by omega⟩
  unfold enter
  rw [e]
  exact .pure _

/-- The items of a list are read one after the other. -/
lemma items_yields {p : Place} {ns : List Node} {vs : List Value} {as : List α}
    (writes : List.Forall₂ Node.Writes ns vs) (reads : List.Forall₂ (Reads read) vs as)
    (deep : greatestHeight ns ≤ p.depth) (i : Nat) : Yields (items read p i ns) as := by
  induction writes generalizing as i with
  | nil =>
    cases reads
    exact .pure _
  | cons first rest ih =>
    cases reads with
    | cons firstReads restReads =>
      rw [greatestHeight] at deep
      have head := firstReads _ ⟨.index i :: p.path, p.depth⟩ first
        (Nat.le_trans (Nat.le_max_left _ _) deep)
      have tail := ih restReads (Nat.le_trans (Nat.le_max_right _ _) deep) (i + 1)
      exact head.bind (tail.bind (.pure _))

/-- A list is read item by item. -/
lemma Reads.list {vs : List Value} {as : List α} (h : List.Forall₂ (Reads read) vs as) :
    Reads (list read) (.sequence vs) as := by
  intro n p writes deep
  obtain ⟨ns, rfl, items⟩ := writes.of_sequence
  rw [Node.height] at deep
  obtain ⟨depth, enters, deep⟩ := enter_yields deep
  refine (Yields.bind (.pure _) (enters.bind ?_)).located p.path
  exact items_yields items h deep 0

/-- The entries of a table are read one after the other and put into it. -/
lemma tableEntries_yields {p : Place} {es : List (Node × Node)} {xs : List (String × Value)}
    {entries : List (String × α)} (t : Table α)
    (writes : List.Forall₂ (fun e x => Node.Writes e.1 (.text x.1) ∧ Node.Writes e.2 x.2) es xs)
    (reads : List.Forall₂ (fun x e => x.1 = e.1 ∧ Reads read x.2 e.2) xs entries)
    (deep : greatestEntryHeight es ≤ p.depth) :
    Yields (tableEntries read p t es) (entries.foldl (fun t e => t.insert e.1 e.2) t) := by
  induction writes generalizing entries t with
  | nil =>
    cases reads
    exact .pure _
  | @cons node x _ _ first rest ih =>
    cases reads with
    | cons firstReads restReads =>
      rw [greatestEntryHeight, Nat.max_le, Nat.max_le] at deep
      obtain ⟨⟨deepKey, deepValue⟩, deepRest⟩ := deep
      have key := reads_text x.1 _ p first.1 deepKey
      have value := firstReads.2 _ ⟨segment node.1 :: p.path, p.depth⟩ first.2 deepValue
      rw [tableEntries]
      refine key.bind (value.bind ?_)
      rw [firstReads.1]
      exact ih _ restReads deepRest

/-- A table is read entry by entry. -/
lemma Reads.table {xs : List (String × Value)} {t : Table α}
    (h : List.Forall₂ (fun x e => x.1 = e.1 ∧ Reads read x.2 e.2) xs t.entries) :
    Reads (table read) (.ofNamed xs) t := by
  intro n p writes deep
  obtain ⟨es, rfl, entries⟩ := writes.of_mapping
  rw [Node.height] at deep
  obtain ⟨depth, enters, deep⟩ := enter_yields deep
  rw [List.forall₂_map_right_iff] at entries
  refine (Yields.bind (.pure _) (enters.bind ?_)).located p.path
  have same : t.entries.foldl (fun t e => t.insert e.1 e.2) Table.empty = t :=
    Table.ext (Table.entries_ofList t.nodup)
  conv => rhs; rw [← same]
  exact tableEntries_yields _ entries h deep

/-! ## Readers of values of any kind -/

variable {purpose : Purpose} {w : Value}

/-- A scalar is read as the value that it spells. -/
lemma scalarValue_yields {s : Scalar} {untagged : Bool} (spells : s.Spells v)
    (typed : s.typed untagged = s.typed true) : Yields (scalarValue purpose s untagged) v := by
  unfold scalarValue
  rw [typed]
  cases spells with
  | null read => rw [read]; exact .pure _
  | bool read => rw [read]; exact .pure _
  | @int n read sign =>
    have integer : integerValue purpose s n = .int n := by
      unfold integerValue
      rw [if_neg]
      simp only [Bool.and_eq_true, decide_eq_true_eq, beq_iff_eq]
      rintro ⟨⟨-, zero⟩, minus⟩
      exact sign zero minus
    rw [read]
    dsimp only
    rw [integer]
    exact .pure _
  | float read => rw [read]; exact .pure _
  | text read => rw [read]; exact .pure _

/-- A tag is kept with data, and there is none where a choice is read. -/
lemma tagged_yields {o : Option Tag} {value : Bool → Decode Value} (tag : Tagging o v w)
    (choice : purpose = .choice → w.Untagged) (bare : o = none → Yields (value false) v)
    (kept : Yields (value true) v) : Yields (tagged purpose o value) w := by
  cases tag with
  | none => exact bare rfl
  | some named =>
    cases purpose with
    | choice => cases choice rfl
    | data =>
      unfold tagged
      rw [Option.bind_some, named]
      exact kept.map _

/-- The items of a sequence are read as values one after the other. -/
lemma valueItems_yields {inner : Path → Node → Decode Value} {ns : List Node} {vs : List Value}
    (h : List.Forall₂ (fun n v => ∀ path, Yields (inner path n) v) ns vs) (path : Path) (i : Nat) :
    Yields (valueItems inner path i ns) vs := by
  induction h generalizing i with
  | nil => exact .pure _
  | cons first rest ih => exact (first _).bind ((ih (i + 1)).bind (.pure _))

/-- The entries of a mapping are read as values one after the other if their keys are apart. -/
lemma valueEntries_yields {inner : Path → Node → Decode Value} {es : List (Node × Node)}
    {xs : List (Value × Value)}
    (h : List.Forall₂ (fun e x => ∀ path, Yields (inner path e.1) x.1 ∧ Yields (inner path e.2) x.2)
      es xs)
    (apart : xs.Pairwise fun a b => a.1.sameKey b.1 = false) (path : Path)
    (before : List (Value × Value))
    (other : ∀ b ∈ before, ∀ x ∈ xs, b.1.sameKey x.1 = false) :
    Yields (valueEntries purpose inner path before es) xs := by
  induction h generalizing before with
  | nil => exact .pure _
  | @cons e x es xs first rest ih =>
    obtain ⟨head, apart⟩ := List.pairwise_cons.1 apart
    have fresh : (before.any fun b => b.1.sameKey x.1) = false := by
      rw [List.any_eq_false]
      intro b m
      rw [other b m x List.mem_cons_self]
      exact Bool.false_ne_true
    rw [valueEntries]
    refine (first path).1.bind ?_
    rw [fresh, Bool.and_false, if_neg Bool.false_ne_true]
    refine (first _).2.bind ((ih apart ((x.1, x.2) :: before) ?_).bind (.pure _))
    intro b m y n
    cases m with
    | head => exact head y n
    | tail _ m => exact other b m y (List.mem_cons_of_mem _ n)

/-- A scalar with its tag is read as the value that the two write. -/
lemma valueWith_yields_scalar {s : Scalar} (inner : Option (Path → Node → Decode Value))
    (spells : s.Spells v) (tag : Tagging s.tag v w) (choice : purpose = .choice → w.Untagged)
    (path : Path) : Yields (valueWith purpose inner path (.scalar s)) w := by
  refine (Yields.bind (.pure _) (tagged_yields tag choice ?_ ?_)).located path
  · intro untagged
    exact scalarValue_yields spells (Scalar.typed_of_tag_eq_none untagged)
  · exact scalarValue_yields spells rfl

/-- In a value without tags the items of a sequence have none. -/
lemma untagged_items {t : Option Tag} {vs : List Value} (tag : Tagging t (.sequence vs) w)
    (h : w.Untagged) : ∀ v ∈ vs, v.Untagged := by
  cases tag with
  | none =>
    cases h with
    | sequence items => exact items
  | some named => cases h

/-- In a value without tags the keys and values of a mapping have none. -/
lemma untagged_entries {t : Option Tag} {xs : List (Value × Value)}
    (tag : Tagging t (.mapping xs) w) (h : w.Untagged) :
    ∀ x ∈ xs, x.1.Untagged ∧ x.2.Untagged := by
  cases tag with
  | none =>
    cases h with
    | mapping keys values => exact fun x m => ⟨keys x m, values x m⟩
  | some named => cases h

/-- A value is read as itself where collections may be entered as deep as it goes. -/
lemma valueAt_yields {n : Node} {depth : Nat} (writes : n.Writes w) (deep : n.height ≤ depth)
    (choice : purpose = .choice → w.Untagged) (path : Path) :
    Yields (valueAt purpose depth path n) w := by
  -- on the depth, since reading spends one of it on each collection
  induction depth generalizing n w path with
  | zero =>
    cases writes with
    | scalar spells tag => exact valueWith_yields_scalar none spells tag choice path
    | sequence items tag => exact absurd deep (Nat.not_succ_le_zero _)
    | mapping keys values apart tag => exact absurd deep (Nat.not_succ_le_zero _)
  | succ depth ih =>
    cases writes with
    | scalar spells tag => exact valueWith_yields_scalar _ spells tag choice path
    | @sequence t ns vs w items tag =>
      have untagged : purpose = .choice → ∀ v ∈ vs, v.Untagged :=
        fun e => untagged_items tag (choice e)
      have inside : List.Forall₂ (fun n v => ∀ path, Yields (valueAt purpose depth path n) v)
          ns vs := by
        refine forall₂_imp_mem items ?_
        intro n mn v mv writes
        have le := height_le_greatestHeight mn
        exact ih writes (Nat.le_trans le (Nat.le_of_succ_le_succ deep)) fun e => untagged e v mv
      have members := (valueItems_yields inside path 0).map Value.sequence
      refine (Yields.bind (.pure _) ?_).located path
      exact tagged_yields tag choice (fun _ => members) members
    | @mapping t es xs w keys values apart tag =>
      have untagged : purpose = .choice → ∀ x ∈ xs, x.1.Untagged ∧ x.2.Untagged :=
        fun e => untagged_entries tag (choice e)
      have inside : List.Forall₂ (fun e x => ∀ path, Yields (valueAt purpose depth path e.1) x.1 ∧
          Yields (valueAt purpose depth path e.2) x.2) es xs := by
        refine forall₂_imp_mem (Node.Writes.forall₂_pairs keys values) ?_
        intro e me x mx writes path
        have le := height_le_greatestEntryHeight me
        have deep := Nat.le_of_succ_le_succ deep
        have key := ih writes.1 (Nat.le_trans le.1 deep) (fun e => (untagged e x mx).1) path
        have value := ih writes.2 (Nat.le_trans le.2 deep) (fun e => (untagged e x mx).2) path
        exact ⟨key, value⟩
      have entries : Yields (valueEntries purpose (valueAt purpose depth) path [] es) xs :=
        valueEntries_yields inside apart path [] nofun
      have members := entries.map Value.mapping
      refine (Yields.bind (.pure _) ?_).located path
      exact tagged_yields tag choice (fun _ => members) members

/-- Data is read as it is. -/
lemma reads_data (v : Value) : Reads (value .data) v v := by
  have data : Purpose.data = .choice → v.Untagged := nofun
  exact fun _ p writes deep => valueAt_yields writes deep data p.path

/-- A value without tags is read as it is also where one of several shapes is wanted. -/
lemma reads_choice (h : v.Untagged) : Reads (value .choice) v v :=
  fun _ p writes deep => valueAt_yields writes deep (fun _ => h) p.path

end Decode

/-! ## Readers of records -/

namespace Schema

open Decode

variable {S : Schema} {α : Type}

/-- The fields with names among `names` hold what `content` says, the others what they held. -/
def Draft.fill (d : S.Draft) (content : (f : S.Field) → S.Content f) (names : List String) :
    S.Draft :=
  fun f => if S.name f ∈ names then some (content f) else d f

/-- To hold the content of one more field is to have it set. -/
lemma Draft.fill_set (named : ∀ f, S.field? (S.name f) = some f) (d : S.Draft)
    (content : (f : S.Field) → S.Content f) (f : S.Field) {names : List String}
    (new : S.name f ∉ names) :
    (d.set f (content f)).fill content names = d.fill content (S.name f :: names) := by
  funext g
  unfold fill set
  cases S.decEq f g with
  | isTrue e =>
    subst e
    rw [if_neg new, if_pos List.mem_cons_self]
  | isFalse other =>
    have names_ne : S.name g ≠ S.name f := by
      intro e
      have h := named g
      rw [e, named f] at h
      exact other (Option.some.inj h)
    simp only [List.mem_cons, names_ne, false_or]

/-- The fields of a record are read one after the other, in whatever order they stand. -/
lemma fields_yields {p : Place} {es : List (Node × Node)} {xs : List (String × Value)}
    (named : ∀ f, S.field? (S.name f) = some f) (content : (f : S.Field) → S.Content f)
    (writes : List.Forall₂ (fun e x => Node.Writes e.1 (.text x.1) ∧ Node.Writes e.2 x.2) es xs)
    (reads : ∀ x ∈ xs, ∃ f, S.name f = x.1 ∧ Reads (S.read f) x.2 (content f))
    (nodup : (xs.map Prod.fst).Nodup) (deep : greatestEntryHeight es ≤ p.depth) (d : S.Draft)
    (fresh : ∀ f, S.name f ∈ xs.map Prod.fst → d f = none) :
    Yields (S.fields p d es) (d.fill content (xs.map Prod.fst)) := by
  -- the draft has the fields read so far, and none of those still to come
  induction writes generalizing d with
  | nil => exact .pure _
  | @cons node x _ _ first rest ih =>
    rw [greatestEntryHeight, Nat.max_le, Nat.max_le] at deep
    obtain ⟨⟨deepKey, deepValue⟩, deepRest⟩ := deep
    rw [List.map_cons, List.nodup_cons] at nodup
    obtain ⟨new, nodup⟩ := nodup
    obtain ⟨f, name, read⟩ := reads x List.mem_cons_self
    have key := reads_textAs "field identifier" x.1 _ p first.1 deepKey
    have value := read _ ⟨segment node.1 :: p.path, p.depth⟩ first.2 deepValue
    have empty : d f = none := fresh f (by simp [name])
    have known : S.field? x.1 = some f := name ▸ named f
    rw [fields]
    refine key.bind ?_
    simp only [known, empty, Option.isSome_none, Bool.false_eq_true, if_false]
    refine value.bind ?_
    rw [List.map_cons, ← name, ← Draft.fill_set named d content f (by rwa [name])]
    refine ih (fun y m => reads y (List.mem_cons_of_mem _ m)) nodup deepRest _ ?_
    intro g m
    unfold Draft.set
    cases S.decEq f g with
    | isTrue e =>
      subst e
      exact absurd (name ▸ m) new
    | isFalse _ => exact fresh g (List.mem_cons_of_mem _ m)

/-- A record is read field by field, in any order, and finished from what its fields hold. -/
lemma reads_record {build : S.Draft → Decode α} {a : α} {t : Table Value}
    (named : ∀ f, S.field? (S.name f) = some f) (fs : List S.Field)
    (known : ∀ name ∈ t.keys, name ∈ fs.map S.name) (content : (f : S.Field) → S.Content f)
    (reads : ∀ f v, t.get? (S.name f) = some v → Reads (S.read f) v (content f))
    (built : Yields (build fun f => (t.get? (S.name f)).map fun _ => content f) a) :
    Reads (S.record build) (.ofNamed t.entries) a := by
  intro n p writes deep
  obtain ⟨es, rfl, entries⟩ := writes.of_mapping
  rw [Node.height] at deep
  obtain ⟨depth, enters, deep⟩ := enter_yields deep
  rw [List.forall₂_map_right_iff] at entries
  have each : ∀ x ∈ t.entries, ∃ f, S.name f = x.1 ∧ Reads (S.read f) x.2 (content f) := by
    intro x m
    obtain ⟨f, -, name⟩ := List.mem_map.1 (known x.1 (List.mem_map_of_mem m))
    refine ⟨f, name, reads f x.2 ?_⟩
    rw [name]
    exact t.get?_eq_some_iff.2 m
  have fields := fields_yields (p := ⟨p.path, depth⟩) named content entries each t.nodup deep
    (Draft.empty S) fun _ _ => rfl
  have draft : Draft.fill (Draft.empty S) content t.keys =
      fun f => (t.get? (S.name f)).map fun _ => content f := by
    funext f
    show (if S.name f ∈ t.keys then some (content f) else none) = _
    cases found : t.get? (S.name f) with
    | none =>
      refine if_neg fun m => ?_
      obtain ⟨v, there⟩ := Table.mem_keys.1 m
      cases found.symm.trans there
    | some v => exact if_pos (Table.mem_keys.2 ⟨v, found⟩)
  rw [← Table.keys, draft] at fields
  exact (Yields.bind (.pure _) (enters.bind (fields.bind built))).located p.path

end Schema

end BenchPlan.Yaml
