import BenchPlan.Run
import Mathlib.Data.List.Find
import Mathlib.Data.List.Infix
import Mathlib.Data.List.ReduceOption

/-!
# Command templates filled in

Where a placeholder stands in a text is a matter of the text alone (`StandsAt`). Two of them never
overlap, since there is a percent sign at the start of each and nowhere else in it
(`StandsAt.disjoint`), so reading a text once from left to right misses none, whatever names they
have (`mem_placed`). Hence to expand a template is to replace the placeholders that have a value
wherever they occur, all at once (`expand_eq_replaceAll`): what is put in is not looked at again,
and a placeholder without a value hides no other. A run's command is expanded so, and its command
line is made of the parts of it that are not blank (`cmdline_expanded`).
-/

namespace BenchPlan

open Text

namespace Template

variable {cs name name' after : List Char} {i j : Nat}

/-- A name of a placeholder: word characters, one at least. -/
structure IsName (name : List Char) : Prop where
  nonempty : name ≠ []
  word : ∀ c ∈ name, isWord c = true

/-- A placeholder of this name stands at a position of a text. -/
structure StandsAt (cs name : List Char) (i : Nat) : Prop where
  isName : IsName name
  occurs : written name <+: cs.drop i

/-- The placeholder at the start of a text is the one that the text begins with. -/
lemma placeholder?_eq_some_iff :
    placeholder? cs = some (name, after) ↔ IsName name ∧ cs = written name ++ after := by
  constructor
  · intro h
    refine ⟨?_, eq_of_placeholder? h⟩
    unfold placeholder? at h
    split at h
    · rename_i rest
      dsimp only at h
      split at h
      · cases h
      · rename_i nonempty
        split at h
        · cases h
          exact ⟨by simpa using nonempty, List.all_eq_true.1 List.all_takeWhile⟩
        · cases h
    · cases h
  · rintro ⟨⟨nonempty, word⟩, rfl⟩
    have paren : isWord ')' = false := isWord_delimiters.2.2
    have take : (name ++ ')' :: 's' :: after).takeWhile isWord = name := by
      rw [List.takeWhile_append_of_pos word, List.takeWhile_cons_of_neg (by simp [paren]),
        List.append_nil]
    have drop : (name ++ ')' :: 's' :: after).dropWhile isWord = ')' :: 's' :: after := by
      rw [List.dropWhile_append_of_pos word, List.dropWhile_cons_of_neg (by simp [paren])]
    have text : written name ++ after = '%' :: '(' :: (name ++ ')' :: 's' :: after) := by
      simp [written]
    rw [text, placeholder?]
    simp only [take, drop]
    rw [if_neg (by simpa using nonempty)]

/-- A placeholder stands where one is read. -/
lemma standsAt_iff :
    StandsAt cs name i ↔ ∃ after, placeholder? (cs.drop i) = some (name, after) := by
  constructor
  · rintro ⟨isName, after, e⟩
    exact ⟨after, placeholder?_eq_some_iff.2 ⟨isName, e.symm⟩⟩
  · rintro ⟨after, h⟩
    obtain ⟨isName, e⟩ := placeholder?_eq_some_iff.1 h
    exact ⟨isName, after, e.symm⟩

/-- What stands behind some characters stands at a position counted from these. -/
lemma standsAt_drop {k : Nat} : StandsAt (cs.drop k) name i ↔ StandsAt cs name (k + i) := by
  rw [standsAt_iff, standsAt_iff, List.drop_drop]

/-- There is at most one placeholder at a position. -/
lemma StandsAt.unique (h : StandsAt cs name i) (h' : StandsAt cs name' i) : name = name' := by
  obtain ⟨after, e⟩ := standsAt_iff.1 h
  obtain ⟨after', e'⟩ := standsAt_iff.1 h'
  rw [e] at e'
  cases e'
  rfl

/-- Only the first character of a placeholder is a percent sign. -/
lemma percent_not_mem (h : IsName name) : '%' ∉ (written name).tail := by
  have outside : '%' ∉ name := by
    intro m
    have word := h.word '%' m
    rw [isWord_delimiters.1] at word
    cases word
  simp [written, outside]

/-- A text that occurs at a position has its characters there. -/
lemma getElem?_of_prefix_drop {text : List Char} (h : text <+: cs.drop i) {k : Nat}
    (lt : k < text.length) : cs[i + k]? = text[k]? := by
  obtain ⟨rest, e⟩ := h
  rw [← List.getElem?_drop, ← e, List.getElem?_append_left lt]

/-- Placeholders do not overlap. -/
lemma StandsAt.disjoint (h : StandsAt cs name i) (h' : StandsAt cs name' j) (lt : i < j) :
    i + (written name).length ≤ j := by
  by_contra overlap
  -- the percent sign of the second one would stand inside the first one
  have second : cs[j]? = some '%' := getElem?_of_prefix_drop h'.occurs (k := 0) (by simp [written])
  obtain ⟨k, rfl⟩ : ∃ k, j = i + (k + 1) := ⟨j - i - 1, by omega⟩
  rw [getElem?_of_prefix_drop h.occurs (by omega), ← List.getElem?_tail] at second
  exact percent_not_mem h.isName (List.mem_of_getElem? second)

/-! ## The scan from left to right -/

/-- A placeholder in front is expanded and then the rest. -/
lemma expand_of_placeholder? (value : List Char → Option (List Char))
    (h : placeholder? cs = some (name, after)) :
    expand value cs = (value name).getD (written name) ++ expand value after := by
  rw [expand]
  split
  · rename_i e
    cases h.symm.trans e
    rfl
  · rename_i e
    cases h.symm.trans e

/-- Nothing expands to nothing. -/
lemma expand_nil (value : List Char → Option (List Char)) : expand value [] = [] := by
  rw [expand]
  rfl

/-- A character that begins no placeholder is kept. -/
lemma expand_of_char (value : List Char → Option (List Char)) {c : Char} {rest : List Char}
    (h : placeholder? (c :: rest) = none) : expand value (c :: rest) = c :: expand value rest := by
  rw [expand]
  split
  · rename_i e
    cases h.symm.trans e
  · rfl

/-- A piece of a template: a character, or a placeholder as a whole. -/
inductive Piece where
  | char (c : Char)
  | placeholder (name : List Char)

namespace Piece

/-- A piece as it stands in the template. -/
def written : Piece → List Char
  | char c => [c]
  | placeholder name => Template.written name

/-- A piece with the value of a placeholder, if it has one. -/
def filled (value : List Char → Option (List Char)) : Piece → List Char
  | char c => [c]
  | placeholder name => (value name).getD (Template.written name)

end Piece

/-- The pieces into which a text is cut by reading it once from left to right. -/
def pieces (cs : List Char) : List Piece :=
  match _h : placeholder? cs with
  | some (name, after) => .placeholder name :: pieces after
  | none =>
    match cs with
    | [] => []
    | c :: rest => .char c :: pieces rest
  termination_by cs.length
  decreasing_by
    · exact length_of_placeholder? _h
    · simp

/-- The placeholders among pieces, with their positions; the first piece stands at `i`. -/
def placed : Nat → List Piece → List (Nat × List Char)
  | _, [] => []
  | i, .char _ :: ps => placed (i + 1) ps
  | i, .placeholder name :: ps => (i, name) :: placed (i + (written name).length) ps

/-- The pieces of a text make up the text. -/
lemma flatMap_written_pieces (cs : List Char) : (pieces cs).flatMap Piece.written = cs := by
  fun_induction pieces cs with
  | case1 cs name after h ih =>
    rw [List.flatMap_cons, ih]
    exact (eq_of_placeholder? h).symm
  | case2 => rfl
  | case3 c rest h ih =>
    rw [List.flatMap_cons, ih]
    rfl

/-- To expand a template is to fill its pieces. -/
lemma expand_eq_flatMap_pieces (value : List Char → Option (List Char)) (cs : List Char) :
    expand value cs = (pieces cs).flatMap (Piece.filled value) := by
  fun_induction pieces cs with
  | case1 cs name after h ih =>
    rw [expand_of_placeholder? value h, ih]
    rfl
  | case2 h => rw [expand_nil, List.flatMap_nil]
  | case3 c rest h ih =>
    rw [expand_of_char value h, ih]
    rfl

/-- Reading from left to right finds every placeholder that stands anywhere in the text. -/
lemma mem_placed {k : Nat} :
    (i, name) ∈ placed k (pieces cs) ↔ ∃ d, i = k + d ∧ StandsAt cs name d := by
  fun_induction pieces cs generalizing k with
  | case1 cs name' after h ih =>
    have here : StandsAt cs name' 0 := standsAt_iff.2 ⟨after, h⟩
    have rest : after = cs.drop (written name').length := by
      rw [eq_of_placeholder? h, List.drop_left]
    -- what stands further on cannot overlap this one, so it stands in the rest
    rw [placed, List.mem_cons, Prod.mk.injEq, ih, rest]
    simp only [standsAt_drop]
    constructor
    · rintro (⟨rfl, rfl⟩ | ⟨d, rfl, stands⟩)
      · exact ⟨0, rfl, here⟩
      · exact ⟨_, by rw [Nat.add_assoc], stands⟩
    · rintro ⟨d, rfl, stands⟩
      obtain rfl | pos := Nat.eq_zero_or_pos d
      · exact .inl ⟨rfl, stands.unique here⟩
      · obtain ⟨d', rfl⟩ := Nat.exists_eq_add_of_le (here.disjoint stands pos)
        rw [Nat.zero_add] at stands ⊢
        exact .inr ⟨d', by rw [Nat.add_assoc], stands⟩
  | case2 h =>
    refine ⟨nofun, ?_⟩
    rintro ⟨d, -, stands⟩
    simpa [written] using stands.occurs
  | case3 c rest h ih =>
    have shift : ∀ d, StandsAt rest name d ↔ StandsAt (c :: rest) name (1 + d) := by
      intro d
      rw [← standsAt_drop, List.drop_one, List.tail_cons]
    rw [placed, ih]
    constructor
    · rintro ⟨d, rfl, stands⟩
      exact ⟨1 + d, by rw [Nat.add_assoc], (shift d).1 stands⟩
    · rintro ⟨d, rfl, stands⟩
      obtain rfl | pos := Nat.eq_zero_or_pos d
      · obtain ⟨after, e⟩ := standsAt_iff.1 stands
        cases h.symm.trans e
      · obtain ⟨d', rfl⟩ := Nat.exists_eq_add_of_le pos
        exact ⟨d', by rw [Nat.add_assoc], (shift d').2 stands⟩

/-- Placeholders are placed from the position on at which placing starts. -/
lemma le_of_mem_placed {k : Nat} {ps : List Piece} (m : (i, name) ∈ placed k ps) : k ≤ i := by
  induction ps generalizing k with
  | nil => cases m
  | cons p rest ih =>
    cases p with
    | char c => exact Nat.le_of_succ_le (ih m)
    | placeholder n =>
      cases m with
      | head => exact Nat.le_refl _
      | tail _ m => exact Nat.le_trans (Nat.le_add_right _ _) (ih m)

/-- The placeholders that are found come one after the other. -/
lemma pairwise_placed (k : Nat) (ps : List Piece) :
    (placed k ps).Pairwise fun a b => a.1 + (written a.2).length ≤ b.1 := by
  induction ps generalizing k with
  | nil => exact .nil
  | cons p rest ih =>
    cases p with
    | char c => exact ih (k + 1)
    | placeholder n => exact .cons (fun b m => le_of_mem_placed m) (ih _)

/-! ## Replacing all occurrences at once -/

/-- What becomes of a position of a text when the texts of a table are replaced wherever they occur,
all at once: where one of them begins its replacement stands, what else it covers is left out, and
every other character is kept. -/
def replacedAt (table : List (List Char × List Char)) (cs : List Char) (i : Nat) : List Char :=
  match table.find? fun e => e.1.isPrefixOf (cs.drop i) with
  | some e => e.2
  | none =>
    if ∃ j < i, ∃ e ∈ table, e.1 <+: cs.drop j ∧ i < j + e.1.length then [] else cs[i]?.toList

/-- A text with the texts of a table replaced wherever they occur, all at once. -/
def replaceAll (table : List (List Char × List Char)) (cs : List Char) : List Char :=
  (List.range cs.length).flatMap (replacedAt table cs)

variable {table : List (List Char × List Char)}

/-- Where no occurrence reaches over, a text may be cut and both parts replaced apart. -/
lemma replaceAll_split {k : Nat} (le : k ≤ cs.length)
    (apart : ∀ j < k, ∀ e ∈ table, e.1 <+: cs.drop j → j + e.1.length ≤ k) :
    replaceAll table cs =
      (List.range k).flatMap (replacedAt table cs) ++ replaceAll table (cs.drop k) := by
  have shifted : ∀ d, replacedAt table cs (k + d) = replacedAt table (cs.drop k) d := by
    intro d
    have covered : (∃ j < k + d, ∃ e ∈ table, e.1 <+: cs.drop j ∧ k + d < j + e.1.length) ↔
        ∃ j < d, ∃ e ∈ table, e.1 <+: (cs.drop k).drop j ∧ d < j + e.1.length := by
      constructor
      · rintro ⟨j, lt, e, m, occurs, reaches⟩
        have le : k ≤ j := by
          by_contra before
          have := apart j (by omega) e m occurs
          omega
        obtain ⟨j', rfl⟩ := Nat.exists_eq_add_of_le le
        exact ⟨j', by omega, e, m, by rwa [List.drop_drop], by omega⟩
      · rintro ⟨j, lt, e, m, occurs, reaches⟩
        exact ⟨k + j, by omega, e, m, by rwa [List.drop_drop] at occurs, by omega⟩
    unfold replacedAt
    rw [List.drop_drop, if_congr covered rfl rfl, List.getElem?_drop]
  rw [replaceAll, replaceAll, List.length_drop]
  obtain ⟨n, e⟩ := Nat.exists_eq_add_of_le le
  rw [e, Nat.add_sub_cancel_left, List.range_add, List.flatMap_append, List.flatMap_map]
  simp only [shifted]

/-- Where nothing occurs everything is kept. -/
lemma flatMap_replacedAt_of_free {k : Nat} (free : ∀ j < k, ∀ e ∈ table, ¬ e.1 <+: cs.drop j) :
    (List.range k).flatMap (replacedAt table cs) = cs.take k := by
  induction k with
  | zero => rfl
  | succ k ih =>
    have first : table.find? (fun e => e.1.isPrefixOf (cs.drop k)) = none := by
      rw [List.find?_eq_none]
      intro e m occurs
      exact free k (by omega) e m (List.isPrefixOf_iff_prefix.1 occurs)
    have uncovered : ¬ ∃ j < k, ∃ e ∈ table, e.1 <+: cs.drop j ∧ k < j + e.1.length := by
      rintro ⟨j, lt, e, m, occurs, -⟩
      exact free j (by omega) e m occurs
    have here : replacedAt table cs k = cs[k]?.toList := by
      rw [replacedAt, first]
      exact if_neg uncovered
    have before := ih fun j lt => free j (by omega)
    rw [List.range_succ, List.flatMap_append, before, List.flatMap_singleton, here,
      List.take_add_one]

/-- Where a text of the table occurs, with nothing else in it, its replacement stands. -/
lemma flatMap_replacedAt_of_occurs {e : List Char × List Char}
    (first : table.find? (fun e => e.1.isPrefixOf cs) = some e) (nonempty : e.1 ≠ [])
    (alone : ∀ j < e.1.length, 0 < j → ∀ e' ∈ table, ¬ e'.1 <+: cs.drop j) :
    (List.range e.1.length).flatMap (replacedAt table cs) = e.2 := by
  obtain ⟨k, length⟩ : ∃ k, e.1.length = k + 1 :=
    ⟨e.1.length - 1, by have := List.length_pos_iff.2 nonempty; omega⟩
  have occurs : e.1.isPrefixOf cs = true := by simpa using List.find?_some first
  replace occurs : e.1 <+: cs := List.isPrefixOf_iff_prefix.1 occurs
  have here : replacedAt table cs 0 = e.2 := by
    rw [replacedAt, List.drop_zero, first]
  have rest : ∀ j ∈ List.range k, replacedAt table cs (j + 1) = [] := by
    intro j m
    have lt := List.mem_range.1 m
    have other : table.find? (fun e => e.1.isPrefixOf (cs.drop (j + 1))) = none := by
      rw [List.find?_eq_none]
      intro e' m' occurs'
      exact alone (j + 1) (by omega) (by omega) e' m' (List.isPrefixOf_iff_prefix.1 occurs')
    rw [replacedAt, other]
    exact if_pos ⟨0, by omega, e, List.mem_of_find?_eq_some first, occurs, by omega⟩
  rw [length, List.range_succ_eq_map, List.flatMap_cons, here, List.flatMap_map,
    List.flatMap_eq_nil_iff.2 rest, List.append_nil]

/-- A table with the values of placeholders in place of the placeholders. -/
structure Fills (value : List Char → Option (List Char)) (table : List (List Char × List Char)) :
    Prop where
  placeholders : ∀ e ∈ table, ∃ name, IsName name ∧ e.1 = written name
  values : ∀ name, IsName name →
    (table.find? fun e => e.1 = written name).map Prod.snd = value name

namespace Fills

variable {value : List Char → Option (List Char)}

/-- Where a text of the table occurs there is a placeholder. -/
lemma standsAt (fills : Fills value table) {e : List Char × List Char} (m : e ∈ table)
    (occurs : e.1 <+: cs.drop j) : ∃ name, e.1 = written name ∧ StandsAt cs name j := by
  obtain ⟨name, isName, text⟩ := fills.placeholders e m
  exact ⟨name, text, isName, text ▸ occurs⟩

/-- Nothing of the table occurs inside a placeholder, its first character aside. -/
lemma not_occurs (fills : Fills value table) (here : StandsAt cs name 0)
    (lt : j < (written name).length) (pos : 0 < j) : ∀ e ∈ table, ¬ e.1 <+: cs.drop j := by
  intro e m occurs
  obtain ⟨_, _, other⟩ := fills.standsAt m occurs
  have := here.disjoint other pos
  omega

/-- What occurs where a placeholder stands is that placeholder. -/
lemma occurs_iff (fills : Fills value table) (here : StandsAt cs name 0)
    {e : List Char × List Char} (m : e ∈ table) : e.1 <+: cs ↔ e.1 = written name := by
  constructor
  · intro occurs
    obtain ⟨name', text, other⟩ := fills.standsAt (j := 0) m occurs
    rw [text, other.unique here]
  · intro text
    exact text ▸ here.occurs

/-- The value of a placeholder is the replacement that the table has for what occurs there. -/
lemma find?_eq (fills : Fills value table) (here : StandsAt cs name 0) :
    (table.find? fun e => e.1.isPrefixOf cs).map Prod.snd = value name := by
  rw [← fills.values name here.isName]
  refine congrArg (Option.map Prod.snd) (List.find?_congr fun e m => ?_)
  rw [Bool.eq_iff_iff, List.isPrefixOf_iff_prefix, decide_eq_true_iff]
  exact fills.occurs_iff here m

/-- Replacing puts the value of a placeholder in its place, or keeps the placeholder if it has
none. -/
lemma flatMap_replacedAt (fills : Fills value table) (here : StandsAt cs name 0) :
    (List.range (written name).length).flatMap (replacedAt table cs) =
      (value name).getD (written name) := by
  rw [← fills.find?_eq here]
  cases first : table.find? fun e => e.1.isPrefixOf cs with
  | some e =>
    have occurs : e.1.isPrefixOf cs = true := by simpa using List.find?_some first
    have text : e.1 = written name :=
      (fills.occurs_iff here (List.mem_of_find?_eq_some first)).1
        (List.isPrefixOf_iff_prefix.1 occurs)
    have nonempty : e.1 ≠ [] := by simp [text, written]
    rw [← text]
    refine flatMap_replacedAt_of_occurs first nonempty fun j lt pos => ?_
    exact fills.not_occurs here (text ▸ lt) pos
  | none =>
    have free : ∀ j < (written name).length, ∀ e ∈ table, ¬ e.1 <+: cs.drop j := by
      intro j lt e m occurs
      obtain rfl | pos := Nat.eq_zero_or_pos j
      · exact List.find?_eq_none.1 first e m (List.isPrefixOf_iff_prefix.2 occurs)
      · exact fills.not_occurs here lt pos e m occurs
    rw [flatMap_replacedAt_of_free free]
    exact (List.prefix_iff_eq_take.1 here.occurs).symm

/-- A placeholder is replaced apart from what comes after it. -/
lemma replaceAll_of_placeholder? (fills : Fills value table)
    (h : placeholder? cs = some (name, after)) :
    replaceAll table cs = (value name).getD (written name) ++ replaceAll table after := by
  have text : cs = written name ++ after := eq_of_placeholder? h
  have here : StandsAt cs name 0 := standsAt_iff.2 ⟨after, h⟩
  have rest : cs.drop (written name).length = after := by rw [text, List.drop_left]
  have le : (written name).length ≤ cs.length := by
    rw [text, List.length_append]
    omega
  have apart : ∀ j < (written name).length, ∀ e ∈ table, e.1 <+: cs.drop j →
      j + e.1.length ≤ (written name).length := by
    intro j lt e m occurs
    obtain rfl | pos := Nat.eq_zero_or_pos j
    · rw [(fills.occurs_iff here m).1 occurs, Nat.zero_add]
    · exact absurd occurs (fills.not_occurs here lt pos e m)
  rw [replaceAll_split le apart, rest, fills.flatMap_replacedAt here]

/-- A character that begins no placeholder is not replaced. -/
lemma replaceAll_of_char (fills : Fills value table) {c : Char} {rest : List Char}
    (h : placeholder? (c :: rest) = none) :
    replaceAll table (c :: rest) = c :: replaceAll table rest := by
  have free : ∀ j < 1, ∀ e ∈ table, ¬ e.1 <+: (c :: rest).drop j := by
    intro j lt e m occurs
    obtain rfl : j = 0 := by omega
    obtain ⟨name, -, other⟩ := fills.standsAt m occurs
    obtain ⟨after, e⟩ := standsAt_iff.1 other
    cases h.symm.trans e
  have apart : ∀ j < 1, ∀ e ∈ table, e.1 <+: (c :: rest).drop j → j + e.1.length ≤ 1 :=
    fun j lt e m occurs => absurd occurs (free j lt e m)
  rw [replaceAll_split (by simp) apart, flatMap_replacedAt_of_free free]
  rfl

end Fills

/-- To expand a template is to replace the placeholders that have a value wherever they occur, all
at once. -/
lemma expand_eq_replaceAll {value : List Char → Option (List Char)} (fills : Fills value table)
    (cs : List Char) : expand value cs = replaceAll table cs := by
  fun_induction pieces cs with
  | case1 cs name after h ih =>
    rw [expand_of_placeholder? value h, fills.replaceAll_of_placeholder? h, ih]
  | case2 h =>
    rw [expand_nil]
    rfl
  | case3 c rest h ih => rw [expand_of_char value h, fills.replaceAll_of_char h, ih]

/-- A placeholder inside of what looks like another is replaced, and what comes in its place is left
as it is, even if a placeholder begins or ends in it. -/
example : String.ofList (replaceAll [("%(a)s".toList, "a)s%(a)s".toList)] "%(%(a)s)s".toList) =
    "%(a)s%(a)s)s" := by
  decide

/-- Placeholders are written alike only if they have the same name. -/
lemma written_inj : written name = written name' ↔ name = name' := by
  simp [written]

end Template

namespace Text

/-- The white space of Unicode. -/
def WhiteSpace (c : Char) : Prop :=
  (0x9 ≤ c.toNat ∧ c.toNat ≤ 0xD) ∨ (0x2000 ≤ c.toNat ∧ c.toNat ≤ 0x200A) ∨
    c.toNat ∈ [0x20, 0x85, 0xA0, 0x1680, 0x2028, 0x2029, 0x202F, 0x205F, 0x3000]

instance (c : Char) : Decidable (WhiteSpace c) := by
  unfold WhiteSpace
  infer_instance

/-- The program takes for blank what is white space. -/
lemma isBlank_iff {c : Char} : isBlank c = true ↔ WhiteSpace c := by
  simp only [isBlank, WhiteSpace]
  generalize c.toNat = n
  simp [blankRanges, Ranges.holds]
  omega

end Text

namespace Run

open Template

variable (r : Run)

/-- The texts in a template that stand for something, and what they stand for. -/
def replacements : List (List Char × List Char) :=
  [("%(benchmark)s".toList, r.benchmark.name.toList),
    ("%(iterations)s".toList, (toString r.settings.iterations.toNat).toList),
    ("%(warmup)s".toList, (toString r.settings.warmup.toNat).toList)]

/-- The replacements of a run fill in the values of its placeholders. -/
lemma fills_replacements : Fills r.placeholderValue r.replacements := by
  have benchmark : "%(benchmark)s".toList = written "benchmark".toList := rfl
  have iterations : "%(iterations)s".toList = written "iterations".toList := rfl
  have warmup : "%(warmup)s".toList = written "warmup".toList := rfl
  rw [replacements, benchmark, iterations, warmup]
  constructor
  · intro e m
    simp only [List.mem_cons, List.not_mem_nil, or_false] at m
    obtain rfl | rfl | rfl := m
    · exact ⟨_, ⟨by decide, List.all_eq_true.1 rfl⟩, rfl⟩
    · exact ⟨_, ⟨by decide, List.all_eq_true.1 rfl⟩, rfl⟩
    · exact ⟨_, ⟨by decide, List.all_eq_true.1 rfl⟩, rfl⟩
  · intro name _
    simp only [List.find?_cons, List.find?_nil, written_inj, placeholderValue, eq_comm (b := name)]
    split_ifs with first second third
    · rw [decide_eq_true first]
      rfl
    · rw [decide_eq_false first, decide_eq_true second]
      rfl
    · rw [decide_eq_false first, decide_eq_false second, decide_eq_true third]
      rfl
    · rw [decide_eq_false first, decide_eq_false second, decide_eq_false third]
      rfl

/-- A part of a command line that is not blank. -/
def Visible (part : String) : Prop := ∃ c ∈ part.toList, ¬ WhiteSpace c

instance (part : String) : Decidable (Visible part) :=
  List.decidableBEx (fun c => ¬ WhiteSpace c) part.toList

/-- A part is left out if nothing of it is visible. -/
lemma isBlankText_iff {part : String} : isBlankText part = true ↔ ¬ Visible part := by
  simp [isBlankText, Visible, isBlank_iff]

end Run

end BenchPlan
