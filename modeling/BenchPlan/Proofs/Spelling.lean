import BenchPlan.Config.Decode
import Mathlib.Data.List.Forall2

/-!
# Values and the nodes that write them

A value can be written in many ways: an integer in four notations, a text in quotes or, if it looks
like nothing else, without them, a collection with its members in their order. `Node.Writes` says
when a node writes a value, and the lemmas on it say what such a node looks like for each kind of
value, and what its scalars are read as.
-/

namespace BenchPlan.Yaml

/-! ## Writing a value -/

/-- A scalar, its tag aside, spells a value. A zero with a minus sign is no integer. -/
inductive Scalar.Spells (s : Scalar) : Value → Prop where
  | null (read : s.typed true = .ok .null) : Spells s .null
  | bool {b : Bool} (read : s.typed true = .ok (.bool b)) : Spells s (.bool b)
  | int {n : Int} (read : s.typed true = .ok (.int n))
      (sign : n = 0 → s.text.toList.head? ≠ some '-') : Spells s (.int n)
  | float {x : Binary64} (read : s.typed true = .ok (.float x)) : Spells s (.float x)
  | text {t : String} (read : s.typed true = .ok (.text t)) : Spells s (.text t)

/-- What a tag makes of a value; one that is kept is local. -/
inductive Tagging : Option Tag → Value → Value → Prop where
  | none {v : Value} : Tagging none v v
  | some {t : Tag} {name : String} {v : Value} (named : t.name? = some name) :
    Tagging (some t) v (.tagged name v)

/-- A node writes a value. There are no aliases in it, and no two keys of a mapping are the same. -/
inductive Node.Writes : Node → Value → Prop where
  | scalar {s : Scalar} {v w : Value} (spells : s.Spells v) (tag : Tagging s.tag v w) :
    Writes (.scalar s) w
  | sequence {t : Option Tag} {ns : List Node} {vs : List Value} {w : Value}
      (items : List.Forall₂ Writes ns vs) (tag : Tagging t (.sequence vs) w) :
    Writes (.sequence t ns) w
  | mapping {t : Option Tag} {es : List (Node × Node)} {xs : List (Value × Value)}
      {w : Value} (keys : List.Forall₂ Writes (es.map Prod.fst) (xs.map Prod.fst))
      (values : List.Forall₂ Writes (es.map Prod.snd) (xs.map Prod.snd))
      (apart : xs.Pairwise fun a b => a.1.sameKey b.1 = false) (tag : Tagging t (.mapping xs) w) :
    Writes (.mapping t es) w

mutual

/-- How deep collections are nested in a node. -/
def Node.height : Node → Nat
  | .sequence _ ns => greatestHeight ns + 1
  | .mapping _ es => greatestEntryHeight es + 1
  | _ => 0

/-- How deep collections are nested in some nodes. -/
def greatestHeight : List Node → Nat
  | [] => 0
  | n :: ns => max n.height (greatestHeight ns)

/-- How deep collections are nested in some entries. -/
def greatestEntryHeight : List (Node × Node) → Nat
  | [] => 0
  | (k, v) :: es => max (max k.height v.height) (greatestEntryHeight es)

end

/-- The mapping of values under names, which are texts. -/
def Value.ofNamed (xs : List (String × Value)) : Value :=
  .mapping (xs.map fun x => (.text x.1, x.2))

/-- A value without tags in it. -/
inductive Value.Untagged : Value → Prop where
  | null : Untagged .null
  | bool {b : Bool} : Untagged (.bool b)
  | int {n : Int} : Untagged (.int n)
  | float {x : Binary64} : Untagged (.float x)
  | text {s : String} : Untagged (.text s)
  | sequence {vs : List Value} (items : ∀ v ∈ vs, Untagged v) : Untagged (.sequence vs)
  | mapping {xs : List (Value × Value)} (keys : ∀ x ∈ xs, Untagged x.1)
      (values : ∀ x ∈ xs, Untagged x.2) : Untagged (.mapping xs)

/-! ## What a writing node looks like -/

namespace Scalar

variable {s : Scalar} {t : String}

/-- A scalar without a tag is read alike whether its tag is left out of account or not. -/
lemma typed_of_tag_eq_none (untagged : s.tag = none) : s.typed false = s.typed true := by
  rw [typed, typed, untagged]
  rfl

/-- Its tag left out of account, a scalar is read by its text if it is plain and else as a text. -/
lemma typed_true (s : Scalar) :
    s.typed true = .ok (if s.style = .plain then ofPlain s.text else .text s.text) :=
  rfl

/-- A text that reads as an integer writes it in digits. -/
lemma integer?_of_typedInteger? {r : Typed} (h : typedInteger? t = some r) :
    ∃ n, integer? t.toList = some n ∧ (r = .int n ∨ r = .wideInt n) := by
  obtain ⟨n, digits, fits⟩ := Option.bind_eq_some_iff.1 h
  refine ⟨n, digits, ?_⟩
  unfold ofInteger? at fits
  split at fits
  · exact .inl (Option.some.inj fits).symm
  · split at fits
    · exact .inr (Option.some.inj fits).symm
    · cases fits

/-- What a plain text can be read as. -/
lemma ofPlain_cases (t : String) :
    (ofPlain t = .null ∧ (t.isEmpty || isNullWord t) = true) ∨
      ((t.isEmpty || isNullWord t) = false ∧
        ((∃ b, ofPlain t = .bool b) ∨
          (∃ n, integer? t.toList = some n ∧ (ofPlain t = .int n ∨ ofPlain t = .wideInt n)) ∨
          (∃ x, ofPlain t = .float x) ∨ ofPlain t = .text t)) := by
  unfold ofPlain
  split
  · rename_i empty
    exact .inl ⟨rfl, empty⟩
  · rename_i present
    refine .inr ⟨by simpa using present, ?_⟩
    split
    · exact .inl ⟨_, rfl⟩
    · split
      · rename_i integer
        obtain ⟨n, digits, r⟩ := integer?_of_typedInteger? integer
        exact .inr (.inl ⟨n, digits, r⟩)
      · split
        · exact .inr (.inr (.inr rfl))
        · split
          · exact .inr (.inr (.inl ⟨_, rfl⟩))
          · exact .inr (.inr (.inr rfl))

/-- What reads as a text is that text. -/
lemma text_of_typed {s : Scalar} (h : s.typed true = .ok (.text t)) : s.text = t := by
  rw [typed_true] at h
  split at h
  · obtain ⟨e, -⟩ | ⟨-, ⟨_, e⟩ | ⟨_, -, e | e⟩ | ⟨_, e⟩ | e⟩ := ofPlain_cases s.text
    all_goals
      rw [e] at h
      cases h
    rfl
  · cases h
    rfl

/-- What reads as an integer is plain and writes it in digits. -/
lemma plain_of_typed_int {s : Scalar} {n : Int} (h : s.typed true = .ok (.int n)) :
    s.style = .plain ∧ integer? s.text.toList = some n := by
  rw [typed_true] at h
  split at h
  · rename_i plain
    refine ⟨plain, ?_⟩
    obtain ⟨e, -⟩ | ⟨-, ⟨_, e⟩ | ⟨_, digits, e | e⟩ | ⟨_, e⟩ | e⟩ := ofPlain_cases s.text
    all_goals
      rw [e] at h
      cases h
    exact digits
  · cases h

/-- A scalar stands for nothing exactly if it reads as null. -/
lemma isAbsent_of_typed {s : Scalar} {r : Typed} (untagged : s.tag = none)
    (h : s.typed true = .ok r) : Decode.isAbsent s = .ok (decide (r = .null)) := by
  rw [typed_true] at h
  unfold Decode.isAbsent
  rw [untagged]
  split at h
  · rename_i plain
    rw [if_neg (not_not.2 plain)]
    cases h
    obtain ⟨e, word⟩ | ⟨word, ⟨_, e⟩ | ⟨_, -, e | e⟩ | ⟨_, e⟩ | e⟩ := ofPlain_cases s.text
    all_goals rw [word, e]; rfl
  · rename_i quoted
    rw [if_pos quoted]
    cases h
    rfl

/-- A natural number with digits that form an integer is written without a minus sign. -/
lemma positive?_of_integer? {cs : List Char} {n : Nat} (h : integer? cs = some (n : Int))
    (sign : n = 0 → cs.head? ≠ some '-') : positive? cs = some n := by
  unfold integer? at h
  split at h
  · rename_i m found
    rw [found, Int.ofNat_inj.1 (Option.some.inj h)]
  · unfold negative? at h
    split at h
    · obtain ⟨m, digits, e⟩ := Option.map_eq_some_iff.1 h
      obtain ⟨a, -, e'⟩ := Option.bind_eq_some_iff.1 digits
      have natural : (a : Int) = m := Option.some.inj e'
      exact absurd rfl (sign (by omega))
    · cases h

end Scalar

/-- Whether a value is a scalar without a tag. -/
def Value.isScalar : Value → Bool
  | .sequence _ => false
  | .mapping _ => false
  | .tagged _ _ => false
  | _ => true

/-- Whether a value is there: neither null nor tagged. -/
def Value.isPresent : Value → Bool
  | .null => false
  | .tagged _ _ => false
  | _ => true

/-- What holds of matching members of two lists holds of the lists. -/
lemma forall₂_imp_mem {α β : Type} {R S : α → β → Prop} {as : List α} {bs : List β}
    (h : List.Forall₂ R as bs) (f : ∀ a ∈ as, ∀ b ∈ bs, R a b → S a b) : List.Forall₂ S as bs := by
  induction h with
  | nil => exact .nil
  | cons first rest ih =>
    refine .cons (f _ List.mem_cons_self _ List.mem_cons_self first) (ih ?_)
    exact fun a m b n => f a (List.mem_cons_of_mem _ m) b (List.mem_cons_of_mem _ n)

namespace Node.Writes

variable {n : Node} {w : Value}

/-- A value that is not tagged is written without a tag. -/
lemma eq_of_tagging {o : Option Tag} {v : Value} (tag : Tagging o v w)
    (bare : ∀ name x, w ≠ .tagged name x) : o = none ∧ v = w := by
  cases tag with
  | none => exact ⟨rfl, rfl⟩
  | some named => exact absurd rfl (bare _ _)

/-- What writes a scalar value is a scalar without a tag that spells it. -/
lemma of_isScalar (h : Writes n w) (scalar : w.isScalar = true) :
    ∃ s, n = .scalar s ∧ s.tag = none ∧ s.Spells w := by
  have bare : ∀ name x, w ≠ .tagged name x := by
    rintro name x rfl
    cases scalar
  cases h with
  | scalar spells tag =>
    obtain ⟨untagged, rfl⟩ := eq_of_tagging tag bare
    exact ⟨_, rfl, untagged, spells⟩
  | sequence items tag =>
    obtain ⟨-, rfl⟩ := eq_of_tagging tag bare
    cases scalar
  | mapping keys values apart tag =>
    obtain ⟨-, rfl⟩ := eq_of_tagging tag bare
    cases scalar

/-- What writes a sequence is a sequence without a tag of what writes its items. -/
lemma of_sequence {vs : List Value} (h : Writes n (.sequence vs)) :
    ∃ ns, n = .sequence none ns ∧ List.Forall₂ Writes ns vs := by
  have bare : ∀ name x, Value.sequence vs ≠ .tagged name x := nofun
  cases h with
  | scalar spells tag =>
    obtain ⟨-, rfl⟩ := eq_of_tagging tag bare
    cases spells
  | sequence items tag =>
    obtain ⟨rfl, e⟩ := eq_of_tagging tag bare
    cases e
    exact ⟨_, rfl, items⟩
  | mapping keys values apart tag =>
    obtain ⟨-, e⟩ := eq_of_tagging tag bare
    cases e

/-- Keys and values that are written each for themselves are written in pairs. -/
lemma forall₂_pairs {es : List (Node × Node)} {xs : List (Value × Value)}
    (keys : List.Forall₂ Writes (es.map Prod.fst) (xs.map Prod.fst))
    (values : List.Forall₂ Writes (es.map Prod.snd) (xs.map Prod.snd)) :
    List.Forall₂ (fun e x => Writes e.1 x.1 ∧ Writes e.2 x.2) es xs := by
  induction es generalizing xs with
  | nil =>
    cases xs with
    | nil => exact .nil
    | cons x xs => cases keys
  | cons e es ih =>
    cases xs with
    | nil => cases keys
    | cons x xs =>
      obtain ⟨key, keys⟩ := List.forall₂_cons.1 keys
      obtain ⟨value, values⟩ := List.forall₂_cons.1 values
      exact .cons ⟨key, value⟩ (ih keys values)

/-- What writes a mapping is a mapping without a tag of what writes its keys and values. -/
lemma of_mapping {xs : List (Value × Value)} (h : Writes n (.mapping xs)) :
    ∃ es, n = .mapping none es ∧
      List.Forall₂ (fun e x => Writes e.1 x.1 ∧ Writes e.2 x.2) es xs := by
  have bare : ∀ name x, Value.mapping xs ≠ .tagged name x := nofun
  cases h with
  | scalar spells tag =>
    obtain ⟨-, rfl⟩ := eq_of_tagging tag bare
    cases spells
  | sequence items tag =>
    obtain ⟨-, e⟩ := eq_of_tagging tag bare
    cases e
  | mapping keys values apart tag =>
    obtain ⟨rfl, e⟩ := eq_of_tagging tag bare
    cases e
    exact ⟨_, rfl, forall₂_pairs keys values⟩

end Node.Writes

/-- No node of a list is higher than the highest. -/
lemma height_le_greatestHeight {n : Node} {ns : List Node} (m : n ∈ ns) :
    n.height ≤ greatestHeight ns := by
  induction ns with
  | nil => cases m
  | cons first rest ih =>
    rw [greatestHeight]
    cases m with
    | head => omega
    | tail _ m => have := ih m; omega

/-- No key or value of a list of entries is higher than the highest. -/
lemma height_le_greatestEntryHeight {e : Node × Node} {es : List (Node × Node)} (m : e ∈ es) :
    e.1.height ≤ greatestEntryHeight es ∧ e.2.height ≤ greatestEntryHeight es := by
  induction es with
  | nil => cases m
  | cons first rest ih =>
    rw [greatestEntryHeight]
    cases m with
    | head => omega
    | tail _ m => have := ih m; omega

end BenchPlan.Yaml
