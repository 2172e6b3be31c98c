/-!
# Tables

A table maps names to values and keeps the order in which the names came. Writing to a name that
is already there replaces its value and leaves its position alone. Main statements: looking up
after `insert` gives the value written (`get?_insert_self`), other names keep theirs
(`get?_insert_of_ne`), a name has the value that is its entry (`get?_eq_some_iff`), and writes under
different names are the entries of their table (`entries_ofList`).
-/

namespace BenchPlan

/-- Writes `value` under `name`: in place if the name is there, at the end otherwise. -/
def Table.insertEntry {α : Type} (name : String) (value : α) :
    List (String × α) → List (String × α)
  | [] => [(name, value)]
  | (n, v) :: rest =>
    if n = name then (n, value) :: rest else (n, v) :: insertEntry name value rest

/-- The names after a write are the old ones, with the name written at the end if it is new. -/
theorem Table.map_fst_insertEntry {α : Type} (name : String) (value : α)
    (entries : List (String × α)) :
    (insertEntry name value entries).map Prod.fst =
      if name ∈ entries.map Prod.fst then entries.map Prod.fst
      else entries.map Prod.fst ++ [name] := by
  induction entries with
  | nil => rfl
  | cons e rest ih =>
    obtain ⟨n, v⟩ := e
    by_cases h : n = name
    · simp [insertEntry, h]
    · have h' : ¬ name = n := fun e => h e.symm
      simp only [insertEntry, h, if_false, List.map_cons, ih, List.mem_cons, h', false_or]
      split <;> rfl

/-- A list of named values in order, each name once. -/
structure Table (α : Type) where
  /-- The named values in the order of first writing. -/
  entries : List (String × α)
  /-- No name occurs twice. -/
  nodup : (entries.map Prod.fst).Nodup
  deriving DecidableEq

namespace Table

variable {α : Type}

/-- The table without entries. -/
def empty : Table α := ⟨[], List.nodup_nil⟩

instance : Inhabited (Table α) := ⟨empty⟩

/-- The names in order. -/
def keys (t : Table α) : List String := t.entries.map Prod.fst

/-- The values in order. -/
def values (t : Table α) : List α := t.entries.map Prod.snd

/-- The number of names. -/
def size (t : Table α) : Nat := t.entries.length

/-- The value of a name. -/
def get? (t : Table α) (name : String) : Option α := t.entries.lookup name

/-- Whether a name is in the table. -/
def contains (t : Table α) (name : String) : Bool := (t.get? name).isSome

/-- Writes a value under a name, in place if the name is there. -/
def insert (t : Table α) (name : String) (value : α) : Table α where
  entries := insertEntry name value t.entries
  nodup := by
    rw [map_fst_insertEntry]
    split
    · exact t.nodup
    · rename_i h
      refine List.nodup_append.2 ⟨t.nodup, by simp, ?_⟩
      rintro a ha b hb rfl
      exact h (List.mem_singleton.1 hb ▸ ha)

/-- The table of a list of writes, made in turn. -/
def ofList (writes : List (String × α)) : Table α :=
  writes.foldl (fun t e => t.insert e.1 e.2) empty

/-- Equal entries make equal tables. -/
@[ext] theorem ext {s t : Table α} (h : s.entries = t.entries) : s = t := by
  cases s; cases t; cases h; rfl

/-- What was inserted under a name is found under it. -/
theorem get?_insert_self (t : Table α) (name : String) (value : α) :
    (t.insert name value).get? name = some value := by
  show (insertEntry name value t.entries).lookup name = some value
  induction t.entries with
  | nil => simp [insertEntry]
  | cons e rest ih =>
    obtain ⟨n, v⟩ := e
    by_cases h : n = name
    · simp [insertEntry, h]
    · have h' : (name == n) = false := by simpa using fun e => h e.symm
      simp [insertEntry, h, List.lookup_cons, h', ih]

/-- Other names look up what they did before. -/
theorem get?_insert_of_ne (t : Table α) {name other : String} (value : α) (h : other ≠ name) :
    (t.insert name value).get? other = t.get? other := by
  show (insertEntry name value t.entries).lookup other = t.entries.lookup other
  induction t.entries with
  | nil =>
    have h' : (other == name) = false := by simpa using h
    simp [insertEntry, List.lookup_cons, h']
  | cons e rest ih =>
    obtain ⟨n, v⟩ := e
    by_cases hn : n = name
    · subst hn
      have h' : (other == n) = false := by simpa using h
      simp [insertEntry, List.lookup_cons, h']
    · by_cases ho : other = n
      · subst ho
        simp [insertEntry, hn]
      · have h' : (other == n) = false := by simpa using ho
        simp [insertEntry, hn, List.lookup_cons, h', ih]

/-- A name has a value exactly if the pair is an entry, since no name occurs twice. -/
theorem get?_eq_some_iff (t : Table α) {name : String} {value : α} :
    t.get? name = some value ↔ (name, value) ∈ t.entries := by
  obtain ⟨entries, nodup⟩ := t
  show entries.lookup name = some value ↔ _
  induction entries with
  | nil => simp
  | cons e rest ih =>
    obtain ⟨n, v⟩ := e
    obtain ⟨fresh, nodup⟩ := List.nodup_cons.1 nodup
    have ih := ih nodup
    by_cases h : name = n
    · subst h
      have absent : (name, value) ∉ rest := fun m =>
        fresh (List.mem_map.2 ⟨_, m, rfl⟩)
      simp [absent, eq_comm]
    · have h' : (name == n) = false := by simpa using h
      simp [List.lookup_cons, h', h, ih]

/-- A name that has a value is in the table. -/
theorem contains_of_get? {t : Table α} {name : String} {value : α}
    (h : t.get? name = some value) : t.contains name = true := by
  rw [contains, h]
  rfl

/-- A name in the table has a value. -/
theorem get?_of_contains {t : Table α} {name : String} (h : t.contains name = true) :
    ∃ value, t.get? name = some value :=
  Option.isSome_iff_exists.1 h

/-- The names of a table are those with a value. -/
theorem mem_keys {t : Table α} {name : String} :
    name ∈ t.keys ↔ ∃ value, t.get? name = some value := by
  simp [get?_eq_some_iff, keys]

/-- A name is in the table exactly if it is one of the names of the table. -/
theorem contains_eq_true {t : Table α} {name : String} :
    t.contains name = true ↔ name ∈ t.keys :=
  ⟨fun h => mem_keys.2 (get?_of_contains h),
    fun h => (mem_keys.1 h).elim fun _ defined => contains_of_get? defined⟩

/-- A value under a new name comes last. -/
theorem entries_insert_of_new {t : Table α} {name : String} (new : name ∉ t.keys) (value : α) :
    (t.insert name value).entries = t.entries ++ [(name, value)] := by
  show insertEntry name value t.entries = t.entries ++ [(name, value)]
  replace new : name ∉ t.entries.map Prod.fst := new
  generalize t.entries = entries at new ⊢
  induction entries with
  | nil => rfl
  | cons e rest ih =>
    obtain ⟨n, v⟩ := e
    rw [List.map_cons, List.mem_cons, not_or] at new
    rw [insertEntry, if_neg (Ne.symm new.1), ih new.2]
    rfl

/-- Writes under new names that are all different come in their order. -/
theorem entries_foldl_insert {t : Table α} {writes : List (String × α)}
    (names : (t.keys ++ writes.map Prod.fst).Nodup) :
    (writes.foldl (fun t e => t.insert e.1 e.2) t).entries = t.entries ++ writes := by
  induction writes generalizing t with
  | nil => exact (List.append_nil _).symm
  | cons e rest ih =>
    have new : e.1 ∉ t.keys := fun m =>
      (List.nodup_append.1 names).2.2 e.1 m e.1 List.mem_cons_self rfl
    have first := entries_insert_of_new new e.2
    have keys : (t.insert e.1 e.2).keys = t.keys ++ [e.1] := by
      rw [keys, first, List.map_append]
      rfl
    have names : ((t.insert e.1 e.2).keys ++ rest.map Prod.fst).Nodup := by
      rwa [keys, List.append_assoc]
    rw [List.foldl_cons, ih names, first, List.append_assoc]
    rfl

/-- A table of writes under different names has them as they come. -/
theorem entries_ofList {writes : List (String × α)} (names : (writes.map Prod.fst).Nodup) :
    (ofList writes).entries = writes :=
  entries_foldl_insert (t := empty) names

end Table

end BenchPlan
