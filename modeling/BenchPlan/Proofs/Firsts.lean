import Mathlib.Data.List.Forall2

/-!
# The first of each kind

`firsts f xs` keeps of a list the first element of each kind, where `f` says of what kind an element
is. Main statement: an element is kept exactly if a search for its kind finds it (`mem_firsts`),
from which it follows that each kind has one that is kept (`exists_mem_firsts`). What is kept can be
filtered by its kind before or after (`firsts_filter`); everything is kept exactly if all kinds are
different (`firsts_eq_self`). Lists that match keep what matches (`forall₂_firsts`). In lists that
match all elements have partners (`exists_mem_of_forall₂`), lists that match the same list match
each other (`forall₂_of_common`), and lists are equal if what matches in them is
(`eq_of_forall₂`).
-/

namespace BenchPlan

variable {α β κ : Type} [DecidableEq κ]

/-- The elements of a list that are the first of their kind, in order. -/
def firsts (f : α → κ) (xs : List α) : List α := xs.eraseDupsBy fun a b => f a == f b

/-- The head of a list is kept, and of the rest what is of another kind. -/
lemma firsts_cons (f : α → κ) (x : α) (xs : List α) :
    firsts f (x :: xs) = x :: firsts f (xs.filter fun a => f a ≠ f x) := by
  rw [firsts, List.eraseDupsBy_cons, firsts]
  congr 3
  funext a
  simp

/-- Something of a list is kept exactly if there is something in it. -/
lemma firsts_eq_nil {f : α → κ} {xs : List α} : firsts f xs = [] ↔ xs = [] := by
  cases xs with
  | nil => exact ⟨fun _ => rfl, fun _ => rfl⟩
  | cons x rest => simp [firsts_cons]

/-- If two lists match and matching elements are of one kind, what is kept of them matches. -/
lemma forall₂_firsts {R : α → β → Prop} {f : α → κ} {g : β → κ}
    (kind : ∀ a b, R a b → f a = g b) {xs : List α} {ys : List β} (h : List.Forall₂ R xs ys) :
    List.Forall₂ R (firsts f xs) (firsts g ys) := by
  match h with
  | .nil => exact .nil
  | @List.Forall₂.cons _ _ _ x y xs ys head tail =>
    have rest : List.Forall₂ R (xs.filter fun a => f a ≠ f x) (ys.filter fun b => g b ≠ g y) := by
      refine List.rel_filter ?_ tail
      intro a b related
      simp [kind a b related, kind x y head]
    rw [firsts_cons, firsts_cons]
    exact .cons head (forall₂_firsts kind rest)
  termination_by xs.length
  decreasing_by exact Nat.lt_succ_of_le (List.length_filter_le _ _)

/-- An element has a partner in a list that matches. -/
lemma exists_mem_of_forall₂ {R : α → β → Prop} {xs : List α} {ys : List β}
    (h : List.Forall₂ R xs ys) {a : α} (m : a ∈ xs) : ∃ b ∈ ys, R a b := by
  induction h with
  | nil => cases m
  | @cons x y xs ys head _ ih =>
    cases List.mem_cons.1 m with
    | inl e => exact ⟨y, List.mem_cons_self, e ▸ head⟩
    | inr m =>
      obtain ⟨b, mem, related⟩ := ih m
      exact ⟨b, List.mem_cons_of_mem _ mem, related⟩

/-- Two lists that match the same list match each other. -/
lemma forall₂_of_common {γ : Type} {R : α → β → Prop} {S : α → γ → Prop} {xs : List α}
    {ys : List β} {zs : List γ} (h : List.Forall₂ R xs ys) (h' : List.Forall₂ S xs zs) :
    List.Forall₂ (fun b c => ∃ a, R a b ∧ S a c) ys zs := by
  induction h generalizing zs with
  | nil =>
    cases h'
    exact .nil
  | @cons x y xs ys head _ ih =>
    cases h' with
    | cons head' tail' => exact .cons ⟨x, head, head'⟩ (ih tail')

/-- Lists that match are equal if what matches in them is equal. -/
lemma eq_of_forall₂ {R : α → α → Prop} {xs ys : List α} (h : List.Forall₂ R xs ys)
    (same : ∀ a ∈ xs, ∀ b ∈ ys, R a b → a = b) : xs = ys := by
  induction h with
  | nil => rfl
  | @cons x y xs ys head _ ih =>
    have first := same x List.mem_cons_self y List.mem_cons_self head
    have rest := ih fun a ma b mb =>
      same a (List.mem_cons_of_mem _ ma) b (List.mem_cons_of_mem _ mb)
    rw [first, rest]

/-- A search among what is of another kind than `x` finds nothing of that kind and all else. -/
lemma find?_filter_ne (f : α → κ) (x b : α) (xs : List α) :
    (xs.filter fun a => f a ≠ f x).find? (fun a => f a == f b) =
      if f x = f b then none else xs.find? fun a => f a == f b := by
  split
  · rename_i e
    apply List.find?_eq_none.2
    intro a m
    have other : f a ≠ f x := by simpa using (List.mem_filter.1 m).2
    simpa [← e] using other
  · rename_i e
    rw [List.find?_filter]
    congr 1
    funext a
    by_cases h : f a = f b
    · simp [h, Ne.symm e]
    · simp [h]

/-- An element is kept exactly if it is what a search for its kind finds. -/
lemma mem_firsts {f : α → κ} {xs : List α} {b : α} :
    b ∈ firsts f xs ↔ xs.find? (fun a => f a == f b) = some b := by
  match xs with
  | [] => simp [firsts]
  | x :: rest =>
    rw [firsts_cons, List.mem_cons, mem_firsts, find?_filter_ne]
    by_cases e : f x = f b
    · simp [e, eq_comm]
    · have other : b ≠ x := fun h => e (h ▸ rfl)
      simp [e, other]
  termination_by xs.length
  decreasing_by exact Nat.lt_succ_of_le (List.length_filter_le _ _)

/-- The first of each key is taken from the list. -/
lemma mem_of_mem_firsts {f : α → κ} {xs : List α} {b : α} (h : b ∈ firsts f xs) : b ∈ xs :=
  List.mem_of_find?_eq_some (mem_firsts.1 h)

/-- Of each kind that occurs one element is kept. -/
lemma exists_mem_firsts {f : α → κ} {xs : List α} {a : α} (m : a ∈ xs) :
    ∃ b ∈ firsts f xs, f b = f a := by
  have found : (xs.find? fun a' => f a' == f a).isSome := List.find?_isSome.2 ⟨a, m, by simp⟩
  obtain ⟨b, h⟩ := Option.isSome_iff_exists.1 found
  have e : f b = f a := by simpa using List.find?_some h
  refine ⟨b, mem_firsts.2 ?_, e⟩
  rwa [e]

/-- A filter that looks at the kind alone may be applied before or after. -/
lemma firsts_filter {f : α → κ} {p : α → Bool} (kind : ∀ a b, f a = f b → p a = p b)
    (xs : List α) : firsts f (xs.filter p) = (firsts f xs).filter p := by
  match xs with
  | [] => rfl
  | x :: rest =>
    rw [firsts_cons, List.filter_cons, List.filter_cons, ← firsts_filter kind, List.filter_filter]
    split
    · rw [firsts_cons, List.filter_filter]
      simp only [Bool.and_comm]
    · rename_i out
      -- what passes is of another kind than `x`, which does not pass
      congr 1
      apply List.filter_congr
      intro a _
      by_cases e : f a = f x
      · simp [kind a x e, out]
      · simp [e]
  termination_by xs.length
  decreasing_by exact Nat.lt_succ_of_le (List.length_filter_le _ _)

/-- What is kept is of different kinds. -/
lemma pairwise_firsts (f : α → κ) (xs : List α) :
    (firsts f xs).Pairwise fun a b => f a ≠ f b := by
  match xs with
  | [] => exact .nil
  | x :: rest =>
    rw [firsts_cons]
    refine .cons ?_ (pairwise_firsts f _)
    intro b m
    have m := (List.mem_filter.1 (mem_of_mem_firsts m)).2
    have other : f b ≠ f x := by simpa using m
    exact other.symm
  termination_by xs.length
  decreasing_by exact Nat.lt_succ_of_le (List.length_filter_le _ _)

/-- What is kept comes in the order in which it came. -/
lemma firsts_sublist (f : α → κ) (xs : List α) : (firsts f xs).Sublist xs := by
  match xs with
  | [] => exact .slnil
  | x :: rest =>
    rw [firsts_cons]
    exact ((firsts_sublist f _).trans List.filter_sublist).cons_cons x
  termination_by xs.length
  decreasing_by exact Nat.lt_succ_of_le (List.length_filter_le _ _)

/-- Nothing is dropped exactly if everything is of another kind. -/
lemma firsts_eq_self {f : α → κ} {xs : List α} :
    firsts f xs = xs ↔ xs.Pairwise fun a b => f a ≠ f b := by
  constructor
  · intro h
    rw [← h]
    exact pairwise_firsts f xs
  · intro h
    induction h with
    | nil => rfl
    | @cons x rest others _ ih =>
      have all : ∀ a ∈ rest, decide (f a ≠ f x) = true := by
        intro a m
        simpa using (others a m).symm
      rw [firsts_cons, List.filter_eq_self.2 all, ih]

/-- The first of each key are as many as all exactly if no two have the same key. -/
lemma length_firsts_eq {f : α → κ} {xs : List α} :
    (firsts f xs).length = xs.length ↔ xs.Pairwise fun a b => f a ≠ f b :=
  ⟨fun h => firsts_eq_self.1 ((firsts_sublist f xs).eq_of_length h),
    fun h => congrArg List.length (firsts_eq_self.2 h)⟩

/-- If each kind has one element only, every element is kept. -/
lemma mem_firsts_iff_mem {f : α → κ} {xs : List α}
    (one : ∀ a ∈ xs, ∀ b ∈ xs, f a = f b → a = b) {b : α} : b ∈ firsts f xs ↔ b ∈ xs := by
  refine ⟨mem_of_mem_firsts, ?_⟩
  intro m
  obtain ⟨a, kept, e⟩ := exists_mem_firsts (f := f) m
  exact one a (mem_of_mem_firsts kept) b m e ▸ kept

end BenchPlan
