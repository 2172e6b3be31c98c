import BenchPlan.Proofs.Outcome

/-!
# Filter expressions

A filter expression has one of three forms, `vm:<name>`, `s:<suite>` and `s:<suite>:<benchmark>`,
and its names are any texts without a colon, the empty text too. `Says` is this grammar, with what
an expression says. Reading a token follows it exactly (`parse?_eq_some_iff`), so a matcher written
down is read back unless one of its names has a colon, and nothing else is read as that matcher. A
list of tokens is read up to its first token that is no expression, and otherwise as the matchers of
its tokens in order (`parse_expressions`).
-/

namespace BenchPlan

/-- A text without a colon. -/
def NoColon (s : String) : Prop := ':' ∉ s.toList

instance (s : String) : Decidable (NoColon s) := inferInstanceAs (Decidable (':' ∉ s.toList))

/-- To cut a text at every colon is to split it there. -/
lemma splitAtColons_eq_splitOn (cs : List Char) : splitAtColons cs = cs.splitOn ':' := by
  induction cs with
  | nil => rfl
  | cons c rest ih =>
    rw [List.splitOn_cons_eq_if_modifyHead, ← ih, splitAtColons]
    by_cases h : c = ':'
    · rw [if_pos h, if_pos (by simpa using h)]
    · rw [if_neg h, if_neg (by simpa using h)]
      cases e : splitAtColons rest with
      | nil => exact absurd (ih.symm.trans e) (List.splitOn_ne_nil _ _)
      | cons part parts => rfl

/-- There is no colon in a part between colons. -/
lemma colon_not_mem_of_mem_splitAtColons {cs part : List Char} (h : part ∈ splitAtColons cs) :
    ':' ∉ part := by
  induction cs generalizing part with
  | nil =>
    rw [splitAtColons, List.mem_singleton] at h
    rw [h]
    exact List.not_mem_nil
  | cons c rest ih =>
    rw [splitAtColons] at h
    split at h
    · cases h with
      | head => exact List.not_mem_nil
      | tail _ m => exact ih m
    · rename_i other
      cases e : splitAtColons rest with
      | nil =>
        rw [e, List.mem_singleton] at h
        rw [h, List.mem_singleton]
        exact Ne.symm other
      | cons first parts =>
        rw [e] at h ih
        cases h with
        | head =>
          rw [List.mem_cons, not_or]
          exact ⟨Ne.symm other, ih List.mem_cons_self⟩
        | tail _ m => exact ih (List.mem_cons_of_mem _ m)

namespace Matcher

/-- The names in a matcher. -/
def names : Matcher → List String
  | machine n => [n]
  | suite n => [n]
  | benchmark n b => [n, b]

/-- The parts of a matcher's token, which colons hold together. -/
def parts : Matcher → List String
  | machine n => ["vm", n]
  | suite n => ["s", n]
  | benchmark n b => ["s", n, b]

/-- The tokens that are filter expressions, and what they say. -/
inductive Says : String → Matcher → Prop where
  | machine {n : String} (name : NoColon n) : Says ("vm:" ++ n) (.machine n)
  | suite {n : String} (name : NoColon n) : Says ("s:" ++ n) (.suite n)
  | benchmark {n b : String} (suite : NoColon n) (name : NoColon b) :
    Says ("s:" ++ n ++ ":" ++ b) (.benchmark n b)

/-- An expression is the token of its matcher, whose names have no colon. -/
lemma says_iff {t : String} {m : Matcher} : Says t m ↔ t = m.token ∧ ∀ n ∈ m.names, NoColon n := by
  constructor
  · intro h
    cases h with
    | machine name => exact ⟨rfl, by simpa [names] using name⟩
    | suite name => exact ⟨rfl, by simpa [names] using name⟩
    | benchmark suite name => exact ⟨rfl, by simpa [names] using ⟨suite, name⟩⟩
  · rintro ⟨rfl, plain⟩
    cases m with
    | machine n => exact .machine (plain n (by simp [names]))
    | suite n => exact .suite (plain n (by simp [names]))
    | benchmark n b => exact .benchmark (plain n (by simp [names])) (plain b (by simp [names]))

/-- A token is read as a matcher if colons cut it into the parts of that matcher. -/
lemma parse?_eq_some_iff_parts {t : String} {m : Matcher} :
    parse? t = some m ↔ (splitAtColons t.toList).map String.ofList = m.parts := by
  rw [parse?]
  generalize (splitAtColons t.toList).map String.ofList = ps
  constructor
  · intro h
    split at h
    · cases h
      rfl
    · cases h
      rfl
    · cases h
      rfl
    · cases h
  · rintro rfl
    cases m with
    | machine n => rfl
    | suite n => rfl
    | benchmark n b => rfl

/-- The parts of a token have no colon exactly if the names of its matcher have none. -/
lemma noColon_parts {m : Matcher} : (∀ p ∈ m.parts, NoColon p) ↔ ∀ n ∈ m.names, NoColon n := by
  have vm : NoColon "vm" := by decide
  have s : NoColon "s" := by decide
  cases m <;> simp [parts, names, vm, s]

/-- The characters of a token are its parts with colons between them. -/
lemma toList_token (m : Matcher) :
    m.token.toList = [':'].intercalate (m.parts.map String.toList) := by
  cases m <;> simp [token, parts, List.intercalate]

/-- Reading accepts the expressions of the grammar and says what they say. -/
lemma parse?_eq_some_iff {t : String} {m : Matcher} : parse? t = some m ↔ Says t m := by
  rw [parse?_eq_some_iff_parts, says_iff, ← noColon_parts]
  constructor
  · intro cut
    have chars : splitAtColons t.toList = m.parts.map String.toList := by
      rw [← cut, List.map_map]
      simp
    -- joining the parts undoes the cutting whatever they are, cutting undoes the joining of parts
    -- without colons
    refine ⟨?_, ?_⟩
    · rw [← String.toList_inj, toList_token, ← chars, splitAtColons_eq_splitOn,
        List.intercalate_splitOn]
    · intro p mem
      have part : p.toList ∈ splitAtColons t.toList := chars ▸ List.mem_map_of_mem mem
      exact colon_not_mem_of_mem_splitAtColons part
  · rintro ⟨rfl, plain⟩
    have some : m.parts.map String.toList ≠ [] := by cases m <;> simp [parts]
    rw [toList_token, splitAtColons_eq_splitOn, List.splitOn_intercalate _ _ some, List.map_map]
    · simp
    · intro cs h
      obtain ⟨p, mem, rfl⟩ := List.mem_map.1 h
      exact plain p mem

/-- A token is malformed if no expression is written like this. -/
lemma isNone_parse? {t : String} : (parse? t).isNone = true ↔ ¬ ∃ m, Says t m := by
  simp only [← parse?_eq_some_iff]
  rw [Option.isNone_iff_eq_none, Option.eq_none_iff_forall_ne_some, not_exists]

end Matcher

namespace Filter

open Matcher

/-- To add matchers in turn is to add those of each kind to their list. -/
lemma foldl_add (f : Filter) (ms : List Matcher) :
    ms.foldl add f =
      ⟨f.machines ++ ms.filter (·.isMachine), f.suites ++ ms.filter (!·.isMachine)⟩ := by
  induction ms generalizing f with
  | nil => simp
  | cons m rest ih =>
    rw [List.foldl_cons, ih]
    cases h : m.isMachine <;> simp [add, h]

/-- Reading tokens adds the matchers that they say, if all of them say one. -/
lemma extend_eq_ok_iff {f g : Filter} {tokens : List String} :
    f.extend tokens = .ok g ↔ ∃ ms, List.Forall₂ Says tokens ms ∧ g = ms.foldl add f := by
  induction tokens generalizing f with
  | nil =>
    rw [extend]
    constructor
    · intro h
      cases h
      exact ⟨[], .nil, rfl⟩
    · rintro ⟨ms, said, rfl⟩
      cases said
      rfl
  | cons t rest ih =>
    rw [extend]
    cases h : parse? t with
    | none =>
      constructor
      · intro failed
        cases failed
      · rintro ⟨ms, said, -⟩
        cases said with
        | cons first _ => exact absurd ⟨_, first⟩ (isNone_parse?.1 (Option.isNone_iff_eq_none.2 h))
    | some m =>
      dsimp only
      rw [ih]
      constructor
      · rintro ⟨ms, said, rfl⟩
        exact ⟨m :: ms, .cons (parse?_eq_some_iff.1 h) said, rfl⟩
      · rintro ⟨ms, said, rfl⟩
        cases said with
        | cons first said =>
          cases h.symm.trans (parse?_eq_some_iff.2 first)
          exact ⟨_, said, rfl⟩

/-- Reading tokens fails at the first that is no expression. -/
lemma parse_eq_error_iff {tokens : List String} {e : UnknownExpression} :
    parse tokens = .error e ↔ ∃ before after, tokens = before ++ e.token :: after ∧
      (∀ t ∈ before, ∃ m, Says t m) ∧ ¬ ∃ m, Says e.token m := by
  have said : ∀ t, (!(parse? t).isNone) = true ↔ ∃ m, Says t m := by
    intro t
    rw [Bool.not_eq_true', ← Bool.not_eq_true, isNone_parse?, not_not]
  rw [parse, extend_eq_error, List.find?_eq_some_iff_append]
  simp only [isNone_parse?, said]
  constructor
  · rintro ⟨malformed, before, after, e, formed⟩
    exact ⟨before, after, e, formed, malformed⟩
  · rintro ⟨before, after, e, formed, malformed⟩
    exact ⟨malformed, before, after, e, formed⟩

/-- Reading follows the grammar of filter expressions and loses nothing. A token is read as a
matcher exactly if it is an expression that says it, which means that it is the token of the matcher
and that no name in the matcher has a colon; and every matcher without a colon in its names is what
its token is read as. A list of tokens is refused exactly if one of them is no expression, and the
error holds the first such token. Otherwise every token says a matcher, and the filter has those for
machines in one list and the others in the other, both in the order of the tokens. -/
theorem parse_expressions :
    (∀ t m, parse? t = some m ↔ Says t m) ∧
    (∀ t m, Says t m ↔ t = m.token ∧ ∀ n ∈ m.names, NoColon n) ∧
    (∀ m : Matcher, parse? m.token = some m ↔ ∀ n ∈ m.names, NoColon n) ∧
    (∀ tokens e, parse tokens = .error e ↔ ∃ before after, tokens = before ++ e.token :: after ∧
      (∀ t ∈ before, ∃ m, Says t m) ∧ ¬ ∃ m, Says e.token m) ∧
    ∀ tokens f, parse tokens = .ok f ↔ ∃ ms, List.Forall₂ Says tokens ms ∧
      f.machines = ms.filter (·.isMachine) ∧ f.suites = ms.filter (!·.isMachine) := by
  refine ⟨fun _ _ => parse?_eq_some_iff, fun _ _ => says_iff, ?_, fun _ _ => parse_eq_error_iff, ?_⟩
  · intro m
    rw [parse?_eq_some_iff, says_iff]
    exact and_iff_right rfl
  · intro tokens f
    rw [parse, extend_eq_ok_iff]
    apply exists_congr
    intro ms
    rw [foldl_add]
    obtain ⟨machines, suites⟩ := f
    simp [empty]

end Filter

end BenchPlan
