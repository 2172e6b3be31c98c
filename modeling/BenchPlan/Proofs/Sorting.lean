import BenchPlan.Listing
import Mathlib.Data.List.Basic

/-!
# Rows in order

A listing is sorted by a key, and rows of one key stay as they came. A list that is sorted in this
way is determined by what it has of each key, and in which order (`eq_of_pairwise`). Sorting leaves
this alone (`filter_mergeSort`), so that lists which differ only in how the elements of different
keys are mixed are sorted alike (`mergeSort_congr`).
-/

namespace BenchPlan

/-- A comparison goes by a key: it is an order in which exactly the elements of one key are tied. -/
structure ComparesBy {α κ : Type} (le : α → α → Bool) (f : α → κ) : Prop where
  trans : ∀ a b c, le a b → le b c → le a c
  total : ∀ a b, le a b || le b a
  antisymm : ∀ a b, le a b → le b a → f a = f b
  tied : ∀ a b, f a = f b → le a b

namespace ComparesBy

variable {α κ : Type} [DecidableEq κ] {le : α → α → Bool} {f : α → κ}

/-- Sorting leaves the elements of a key as they came. -/
lemma filter_mergeSort (h : ComparesBy le f) (xs : List α) (k : κ) :
    (xs.mergeSort le).filter (fun a => f a = k) = xs.filter fun a => f a = k := by
  have tied : (xs.filter fun a => f a = k).Pairwise fun a b => le a b := by
    apply List.pairwise_of_forall_mem_list
    intro a ma b mb
    have ea : f a = k := by simpa using (List.mem_filter.1 ma).2
    have eb : f b = k := by simpa using (List.mem_filter.1 mb).2
    exact h.tied a b (ea.trans eb.symm)
  -- being tied they stay in order, and there are as many of them as before
  have kept := List.sublist_mergeSort h.trans h.total tied List.filter_sublist
  have sublist := kept.filter fun a => f a = k
  rw [List.filter_filter] at sublist
  simp only [Bool.and_self] at sublist
  have count := ((List.mergeSort_perm xs le).filter fun a => f a = k).length_eq
  exact (sublist.eq_of_length count.symm).symm

/-- The first of a sorted list is before every element of a list with the same of each key. -/
lemma le_head (h : ComparesBy le f) {a b : α} {xs ys : List α}
    (sorted : (a :: xs).Pairwise fun a b => le a b)
    (same : ∀ k, (a :: xs).filter (fun c => f c = k) = ys.filter fun c => f c = k)
    (m : b ∈ ys) : le a b := by
  have m' : b ∈ ys.filter fun c => f c = f b := by simp [m]
  rw [← same] at m'
  cases List.mem_cons.1 (List.mem_of_mem_filter m') with
  | inl e => exact h.tied a b (congrArg f e.symm)
  | inr m => exact (List.pairwise_cons.1 sorted).1 b m

/-- Sorted lists that have the same of each key are equal. -/
lemma eq_of_pairwise (h : ComparesBy le f) {xs ys : List α}
    (sorted : xs.Pairwise fun a b => le a b) (sorted' : ys.Pairwise fun a b => le a b)
    (same : ∀ k, xs.filter (fun a => f a = k) = ys.filter fun a => f a = k) : xs = ys := by
  induction xs generalizing ys with
  | nil =>
    cases ys with
    | nil => rfl
    | cons b ys => simpa using same (f b)
  | cons a xs ih =>
    cases ys with
    | nil => simpa using same (f a)
    | cons b ys =>
      have e : f a = f b := h.antisymm a b (h.le_head sorted same List.mem_cons_self)
        (h.le_head sorted' (fun k => (same k).symm) List.mem_cons_self)
      have heads := same (f a)
      rw [List.filter_cons_of_pos (by simp), List.filter_cons_of_pos (by simp [e])] at heads
      obtain ⟨rfl, _⟩ := List.cons.inj heads
      congr 1
      apply ih (List.pairwise_cons.1 sorted).2 (List.pairwise_cons.1 sorted').2
      intro k
      have rest := same k
      by_cases first : f a = k
      · rw [List.filter_cons_of_pos (by simp [first]),
          List.filter_cons_of_pos (by simp [first])] at rest
        exact (List.cons.inj rest).2
      · rwa [List.filter_cons_of_neg (by simp [first]),
          List.filter_cons_of_neg (by simp [first])] at rest

/-- Lists that have the same of each key are sorted alike. -/
lemma mergeSort_congr (h : ComparesBy le f) {xs ys : List α}
    (same : ∀ k, xs.filter (fun a => f a = k) = ys.filter fun a => f a = k) :
    xs.mergeSort le = ys.mergeSort le := by
  apply h.eq_of_pairwise (List.pairwise_mergeSort h.trans h.total xs)
    (List.pairwise_mergeSort h.trans h.total ys)
  intro k
  rw [h.filter_mergeSort, h.filter_mergeSort, same]

end ComparesBy

/-- If what passes a filter belongs to one name, it comes from this name. -/
lemma filter_flatMap_of_mem {α : Type} {g : String → List α} {p : α → Bool} {name : String}
    (only : ∀ n ≠ name, (g n).filter p = []) {names : List String} (nodup : names.Nodup)
    (m : name ∈ names) : (names.flatMap g).filter p = (g name).filter p := by
  obtain ⟨before, after, rfl⟩ := List.append_of_mem m
  have others : ∀ ns : List String, name ∉ ns → (ns.flatMap g).filter p = [] := by
    intro ns absent
    rw [List.filter_flatMap, List.flatMap_eq_nil_iff]
    intro n m
    exact only n fun e => absent (e ▸ m)
  obtain ⟨_, right, apart⟩ := List.nodup_append.1 nodup
  have left : name ∉ before := fun m => apart name m name List.mem_cons_self rfl
  rw [List.flatMap_append, List.flatMap_cons, List.filter_append, List.filter_append,
    others _ left, others _ (List.nodup_cons.1 right).1, List.nil_append, List.append_nil]

/-- What passes a filter does not depend on the order of names if all of it belongs to one. -/
lemma filter_flatMap_of_perm {α : Type} {g : String → List α} {p : α → Bool}
    (one : ∀ n n', n ≠ n' → (g n).filter p = [] ∨ (g n').filter p = []) {names names' : List String}
    (h : names.Perm names') : (names.flatMap g).filter p = (names'.flatMap g).filter p := by
  induction h with
  | nil => rfl
  | cons n _ ih =>
    rw [List.flatMap_cons, List.flatMap_cons, List.filter_append, List.filter_append, ih]
  | swap n n' names =>
    have pair : (g n').filter p ++ (g n).filter p = (g n).filter p ++ (g n').filter p := by
      by_cases e : n = n'
      · rw [e]
      · cases one n n' e with
        | inl none => rw [none, List.append_nil, List.nil_append]
        | inr none => rw [none, List.append_nil, List.nil_append]
    simp only [List.flatMap_cons, List.filter_append, ← List.append_assoc, pair]
  | trans _ _ ih ih' => exact ih.trans ih'

namespace ListingRow

/-- Rows are compared by their keys. -/
lemma comparesBy : ComparesBy ListingRow.le sortKey where
  trans r s t h h' := by
    simp only [le, decide_eq_true_eq] at h h' ⊢
    exact List.le_trans h h'
  total r s := by
    simp only [le, Bool.or_eq_true, decide_eq_true_eq]
    exact List.le_total _ _
  antisymm r s h h' := by
    simp only [le, decide_eq_true_eq] at h h'
    exact List.le_antisymm h h'
  tied r s h := by
    rw [le, h, decide_eq_true_eq]
    exact List.lt_irrefl _

end ListingRow

end BenchPlan
