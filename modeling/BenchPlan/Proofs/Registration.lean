import BenchPlan.Experiment
import BenchPlan.Proofs.Firsts

/-!
# Registering and listing runs

What a store knows is read off `find?`: registering a run adds the run under its key if the key is
new and changes nothing else (`find?_register`). A list of runs is registered in turn by
`registerAll`; the object handed out for each run is the one that the store holds for its key in the
end (`forall₂_registerAll`), which was there before or is the first of the list with that key
(`find?_registerAll_new`). What is added to the store is the first run of each new key
(`runs_registerAll`). An experiment lists what it is handed out by the first object of each key
(`foldl_list_nil`).
-/

namespace BenchPlan

namespace RunStore

/-- The object for a key has the key. -/
lemma key_of_find? {s : RunStore} {k : RunKey} {o : SharedRun} (h : s.find? k = some o) :
    o.run.key = k := by
  have h := List.find?_some h
  simpa using h

/-- The object for a key is registered at its position. -/
lemma getElem?_of_find? {s : RunStore} {k : RunKey} {o : SharedRun} (h : s.find? k = some o) :
    s.runs[o.position]? = some o.run := by
  obtain ⟨i, lt, e⟩ := List.mem_mapIdx.1 (List.mem_of_find?_eq_some h)
  subst e
  exact List.getElem?_eq_getElem lt

/-- The objects of a store hold its runs. -/
lemma map_run_objects (s : RunStore) : s.objects.map SharedRun.run = s.runs := by
  apply List.ext_getElem
  · rw [List.length_map, objects, List.length_mapIdx]
  · intro i _ _
    simp [objects]

/-- A run that is found is in the store. -/
lemma mem_of_find? {s : RunStore} {k : RunKey} {o : SharedRun} (h : s.find? k = some o) :
    o.run ∈ s.runs :=
  List.mem_of_getElem? (getElem?_of_find? h)

/-- Objects of one position that are found are the same. -/
lemma eq_of_position {s : RunStore} {k k' : RunKey} {o o' : SharedRun} (h : s.find? k = some o)
    (h' : s.find? k' = some o') (e : o.position = o'.position) : o = o' := by
  have run := getElem?_of_find? h
  rw [e, getElem?_of_find? h', Option.some.injEq] at run
  obtain ⟨i, r⟩ := o
  obtain ⟨i', r'⟩ := o'
  cases e
  cases run
  rfl

/-- A key of a registered run has an object. -/
lemma find?_of_mem {s : RunStore} {r : Run} (m : r ∈ s.runs) : ∃ o, s.find? r.key = some o := by
  obtain ⟨i, lt, rfl⟩ := List.mem_iff_getElem.1 m
  apply Option.isSome_iff_exists.1
  apply List.find?_isSome.2
  exact ⟨⟨i, s.runs[i]⟩, List.mem_mapIdx.2 ⟨i, lt, rfl⟩, by simp⟩

/-- The objects after a run is put at the end. -/
lemma find?_concat (s : RunStore) (r : Run) (k : RunKey) :
    RunStore.find? ⟨s.runs ++ [r]⟩ k =
      (s.find? k).or (if r.key = k then some ⟨s.size, r⟩ else none) := by
  simp only [find?, objects, List.mapIdx_concat, List.find?_append]
  by_cases h : r.key = k
  · simp [h, size]
  · simp [h]

/-- A run under a new key is found under its key afterwards; nothing else is changed. -/
lemma find?_register (s : RunStore) (r : Run) (k : RunKey) :
    (s.register r).2.find? k =
      (s.find? k).or (if r.key = k then some ⟨s.size, r⟩ else none) := by
  unfold register
  split
  · rename_i o h
    by_cases e : r.key = k
    · rw [← e, h]
      rfl
    · simp [e]
  · exact find?_concat s r k

/-- The object handed out for a run is the one that the store then holds for its key. -/
lemma find?_register_self (s : RunStore) (r : Run) :
    (s.register r).2.find? r.key = some (s.register r).1 := by
  rw [find?_register, if_pos rfl]
  unfold register
  split
  · rename_i o h
    rw [h]
    rfl
  · rename_i h
    rw [h]
    rfl

/-- A registered run was registered before or is the new one, and then its key is new. -/
lemma mem_register {s : RunStore} {r r' : Run} (m : r' ∈ (s.register r).2.runs) :
    r' ∈ s.runs ∨ (r' = r ∧ s.find? r.key = none) := by
  unfold register at m
  split at m
  · exact .inl m
  · rename_i h
    cases List.mem_append.1 m with
    | inl m => exact .inl m
    | inr m => exact .inr ⟨List.mem_singleton.1 m, h⟩

/-- Registers runs in turn. -/
def registerAll (s : RunStore) : List Run → List SharedRun × RunStore
  | [] => ([], s)
  | r :: rest =>
    let (o, s) := s.register r
    let (os, s) := s.registerAll rest
    (o :: os, s)

/-- Runs are registered one after the other. -/
lemma registerAll_append (s : RunStore) (rs rs' : List Run) :
    s.registerAll (rs ++ rs') =
      ((s.registerAll rs).1 ++ ((s.registerAll rs).2.registerAll rs').1,
        ((s.registerAll rs).2.registerAll rs').2) := by
  induction rs generalizing s with
  | nil => rfl
  | cons r rest ih => simp only [List.cons_append, registerAll, ih]

/-- An object of the store stays what it is. -/
lemma find?_registerAll_old {s : RunStore} {k : RunKey} {o : SharedRun} (h : s.find? k = some o)
    (rs : List Run) : (s.registerAll rs).2.find? k = some o := by
  induction rs generalizing s with
  | nil => exact h
  | cons r rest ih =>
    have now : (s.register r).2.find? k = some o := by
      rw [find?_register, h]
      rfl
    exact ih now

/-- Under a new key the store then holds the first of the runs with that key. -/
lemma find?_registerAll_new {s : RunStore} {k : RunKey} (h : s.find? k = none) (rs : List Run) :
    ((s.registerAll rs).2.find? k).map SharedRun.run = rs.find? fun r => r.key == k := by
  induction rs generalizing s with
  | nil => exact congrArg _ h
  | cons r rest ih =>
    by_cases e : r.key = k
    · have now : (s.register r).2.find? k = some ⟨s.size, r⟩ := by
        rw [find?_register, h, if_pos e]
        rfl
      have later := find?_registerAll_old now rest
      simp [registerAll, later, e]
    · have now : (s.register r).2.find? k = none := by
        rw [find?_register, h, if_neg e]
        rfl
      have later := ih now
      simpa [registerAll, e] using later

/-- What the store then holds for a key is the run that it held, or else the first of the list. -/
lemma map_run_find?_registerAll (s : RunStore) (rs : List Run) (k : RunKey) :
    ((s.registerAll rs).2.find? k).map SharedRun.run =
      ((s.find? k).map SharedRun.run).or (rs.find? fun r => r.key == k) := by
  cases h : s.find? k with
  | some o =>
    rw [find?_registerAll_old h]
    rfl
  | none => exact find?_registerAll_new h rs

/-- The objects handed out are those that the store holds for the keys in the end. -/
lemma forall₂_registerAll (s : RunStore) (rs : List Run) :
    List.Forall₂ (fun r o => (s.registerAll rs).2.find? r.key = some o) rs
      (s.registerAll rs).1 := by
  induction rs generalizing s with
  | nil => exact .nil
  | cons r rest ih =>
    have first := find?_registerAll_old (find?_register_self s r) rest
    exact .cons first (ih (s.register r).2)

/-- A registered run was registered before, or its key was new and it is the first of the list with
this key. -/
lemma mem_registerAll {s : RunStore} {rs : List Run} {r : Run}
    (m : r ∈ (s.registerAll rs).2.runs) :
    r ∈ s.runs ∨ (s.find? r.key = none ∧ rs.find? (fun r' => r'.key == r.key) = some r) := by
  induction rs generalizing s with
  | nil => exact .inl m
  | cons r' rest ih =>
    -- either `r'` itself was registered or its key is another one, so that the search goes past it
    cases ih (s := (s.register r').2) m with
    | inl m =>
      cases mem_register m with
      | inl m => exact .inl m
      | inr h =>
        obtain ⟨rfl, new⟩ := h
        exact .inr ⟨new, by simp⟩
    | inr h =>
      obtain ⟨new, first⟩ := h
      rw [find?_register] at new
      obtain ⟨new, other⟩ := Option.or_eq_none_iff.1 new
      have e : ¬ r'.key = r.key := fun e => by simp [e] at other
      exact .inr ⟨new, by simpa [e] using first⟩

/-- The runs that are added to a store are the first of each key that it did not hold. -/
lemma runs_registerAll (s : RunStore) (rs : List Run) :
    (s.registerAll rs).2.runs =
      s.runs ++ firsts Run.key (rs.filter fun r => s.find? r.key = none) := by
  induction rs generalizing s with
  | nil => simp [registerAll, firsts]
  | cons r rest ih =>
    rw [registerAll]
    show ((s.register r).2.registerAll rest).2.runs = _
    rw [ih]
    cases h : s.find? r.key with
    | some o =>
      have known : (s.register r).2 = s := by rw [register, h]
      rw [known, List.filter_cons_of_neg (by simp [h])]
    | none =>
      have added : (s.register r).2.runs = s.runs ++ [r] := by rw [register, h]
      -- what is new after `r` is new and of another key
      have others : rest.filter (fun r' => decide ((s.register r).2.find? r'.key = none)) =
          rest.filter fun r' => decide (r'.key ≠ r.key) && decide (s.find? r'.key = none) := by
        apply List.filter_congr
        intro r' _
        rw [find?_register]
        by_cases e : r.key = r'.key
        · simp [e]
        · simp [e, Ne.symm e]
      rw [added, List.filter_cons_of_pos (by simp [h]), firsts_cons, List.filter_filter, others,
        List.append_assoc]
      rfl

/-- What is handed out for runs is what the store then holds for its key. -/
lemma find?_of_mem_registerAll {s : RunStore} {rs : List Run} {o : SharedRun}
    (m : o ∈ (s.registerAll rs).1) : (s.registerAll rs).2.find? o.run.key = some o := by
  obtain ⟨r, _, held⟩ := exists_mem_of_forall₂ (R := flip _) (forall₂_registerAll s rs).flip m
  rw [key_of_find? held]
  exact held

/-- The objects after a run is registered are those before and the one handed out. -/
lemma mem_objects_register {s : RunStore} {r : Run} {o : SharedRun} :
    o ∈ (s.register r).2.objects ↔ o ∈ s.objects ∨ o = (s.register r).1 := by
  unfold register
  split
  · rename_i o' held
    have known : o' ∈ s.objects := List.mem_of_find?_eq_some held
    exact (or_iff_left_of_imp fun e => e ▸ known).symm
  · show o ∈ (s.runs ++ [r]).mapIdx _ ↔ _
    rw [List.mapIdx_concat, List.mem_append, List.mem_singleton]
    rfl

/-- The objects after runs are registered are those before and those handed out. -/
lemma mem_objects_registerAll {s : RunStore} {rs : List Run} {o : SharedRun} :
    o ∈ (s.registerAll rs).2.objects ↔ o ∈ s.objects ∨ o ∈ (s.registerAll rs).1 := by
  induction rs generalizing s with
  | nil => simp [registerAll]
  | cons r rest ih =>
    show o ∈ ((s.register r).2.registerAll rest).2.objects ↔
      o ∈ s.objects ∨ o ∈ (s.register r).1 :: ((s.register r).2.registerAll rest).1
    rw [ih, mem_objects_register, List.mem_cons, or_assoc]

/-- Runs that are registered stay where they are. -/
lemma objects_registerAll (s : RunStore) (rs : List Run) :
    s.objects <+: (s.registerAll rs).2.objects := by
  rw [objects, objects, runs_registerAll, List.mapIdx_append]
  exact List.prefix_append _ _

end RunStore

namespace Experiment.Walk

/-- An object is listed unless an object with its key is. -/
lemma list_eq (runs : List SharedRun) (o : SharedRun) :
    list runs o = if ∀ r ∈ runs, r.run.key ≠ o.run.key then runs ++ [o] else runs := by
  unfold list
  by_cases h : ∃ r ∈ runs, r.run.key = o.run.key
  · obtain ⟨r, m, e⟩ := h
    have any : (runs.any fun r => r.run.same o.run) = true :=
      List.any_eq_true.2 ⟨r, m, by simp [Run.same, e]⟩
    rw [if_pos any, if_neg fun all => all r m e]
  · have all : ∀ r ∈ runs, r.run.key ≠ o.run.key := fun r m e => h ⟨r, m, e⟩
    have any : ¬ (runs.any fun r => r.run.same o.run) = true := by simpa [Run.same] using all
    rw [if_neg any, if_pos all]

/-- What is added to a list of runs is the first object of each key that is not listed. -/
lemma foldl_list (os runs : List SharedRun) :
    os.foldl list runs =
      runs ++ firsts (fun o => o.run.key)
        (os.filter fun o => ∀ r ∈ runs, r.run.key ≠ o.run.key) := by
  induction os generalizing runs with
  | nil => simp [firsts]
  | cons o rest ih =>
    rw [List.foldl_cons, ih, list_eq]
    by_cases h : ∀ r ∈ runs, r.run.key ≠ o.run.key
    · have kept : (o :: rest).filter (fun o' => ∀ r ∈ runs, r.run.key ≠ o'.run.key) =
          o :: rest.filter fun o' => ∀ r ∈ runs, r.run.key ≠ o'.run.key :=
        List.filter_cons_of_pos (by simpa using h)
      have both : (fun o' : SharedRun => decide (∀ r ∈ runs ++ [o], r.run.key ≠ o'.run.key)) =
          fun o' => decide (o'.run.key ≠ o.run.key) &&
            decide (∀ r ∈ runs, r.run.key ≠ o'.run.key) := by
        funext o'
        simp [or_imp, forall_and, and_comm, eq_comm]
      rw [if_pos h, kept, firsts_cons, List.filter_filter, both, List.append_assoc]
      rfl
    · have dropped : (o :: rest).filter (fun o' => ∀ r ∈ runs, r.run.key ≠ o'.run.key) =
          rest.filter fun o' => ∀ r ∈ runs, r.run.key ≠ o'.run.key :=
        List.filter_cons_of_neg (by simpa using h)
      rw [if_neg h, dropped]

/-- An experiment lists the first object of each key. -/
lemma foldl_list_nil (os : List SharedRun) :
    os.foldl list [] = firsts (fun o => o.run.key) os := by
  rw [foldl_list]
  simp

end Experiment.Walk

end BenchPlan
