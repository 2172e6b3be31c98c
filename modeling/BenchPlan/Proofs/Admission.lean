import BenchPlan.Proofs.Expressions

/-!
# What a filter admits

The meaning of a filter, said of its tokens alone. Colons cut a token into pieces, and `Wants` says
of a list of tokens by their pieces what they ask for: a machine that one of them names unless none
names a machine, and a suite or a benchmark that one of them names unless none names any. A filter
admits just what its tokens want (`admits_iff_wants`). Hence neither the order of the tokens nor
their number counts, and one token for a machine with one for a benchmark single out that benchmark
on that machine (`parse_wants`).
-/

namespace BenchPlan.Filter

open Matcher

/-- The texts between the colons of a token. -/
def pieces (token : String) : List String := (token.toList.splitOn ':').map String.ofList

/-- One of the tokens has these texts between its colons. -/
def Given (tokens ps : List String) : Prop := ∃ t ∈ tokens, pieces t = ps

/-- What tokens ask for: one of the machines that they name and one of the suites or benchmarks that
they name. Where they name nothing they ask for nothing. -/
structure Wants (tokens : List String) (id : Identity) : Prop where
  machine : (∀ n, ¬ Given tokens ["vm", n]) ∨ Given tokens ["vm", id.machine]
  suite : ((∀ n, ¬ Given tokens ["s", n]) ∧ ∀ n b, ¬ Given tokens ["s", n, b]) ∨
    Given tokens ["s", id.suite] ∨ Given tokens ["s", id.suite, id.benchmark]

variable {tokens tokens' : List String} {ms : List Matcher} {m : Matcher} {id : Identity}
  {f : Filter}

/-- An expression says the matcher whose parts are its pieces. -/
lemma says_iff_pieces {t : String} : Says t m ↔ pieces t = m.parts := by
  rw [← parse?_eq_some_iff, parse?_eq_some_iff_parts, splitAtColons_eq_splitOn, pieces]

/-- The matchers that tokens say are those whose parts are the pieces of a token. -/
lemma mem_iff_given (said : List.Forall₂ Says tokens ms) : m ∈ ms ↔ Given tokens m.parts := by
  constructor
  · intro mem
    obtain ⟨t, given, meaning⟩ := exists_mem_of_forall₂ (R := flip Says) said.flip mem
    exact ⟨t, given, says_iff_pieces.1 meaning⟩
  · rintro ⟨t, given, cut⟩
    obtain ⟨m', mem, meaning⟩ := exists_mem_of_forall₂ said given
    -- a token says one matcher only
    have same := parse?_eq_some_iff.2 (says_iff_pieces.2 cut)
    cases (parse?_eq_some_iff.2 meaning).symm.trans same
    exact mem

/-- Matchers let a benchmark pass if there are none or if one of them selects it. -/
lemma anySelects_eq_true : anySelects ms id = true ↔ ms = [] ∨ ∃ m ∈ ms, m.selects id = true := by
  rw [anySelects, Bool.or_eq_true, List.isEmpty_iff, List.any_eq_true]

/-- The matchers for machines among some let those machines pass that they name. -/
lemma anySelects_machines :
    anySelects (ms.filter (·.isMachine)) id = true ↔
      (∀ n, .machine n ∉ ms) ∨ .machine id.machine ∈ ms := by
  rw [anySelects_eq_true, List.filter_eq_nil_iff]
  apply or_congr
  · constructor
    · intro none n mem
      exact none _ mem rfl
    · intro none m mem kind
      cases m with
      | machine n => exact none n mem
      | suite n => cases kind
      | benchmark n b => cases kind
  · constructor
    · rintro ⟨m, mem, selects⟩
      obtain ⟨mem, kind⟩ := List.mem_filter.1 mem
      cases m with
      | machine n =>
        have same : id.machine = n := by simpa [Matcher.selects] using selects
        exact same ▸ mem
      | suite n => cases kind
      | benchmark n b => cases kind
    · intro mem
      exact ⟨_, List.mem_filter.2 ⟨mem, rfl⟩, by simp [Matcher.selects]⟩

/-- The other matchers let those benchmarks pass that they name, by the suite or by both names. -/
lemma anySelects_suites :
    anySelects (ms.filter (!·.isMachine)) id = true ↔
      ((∀ n, .suite n ∉ ms) ∧ ∀ n b, .benchmark n b ∉ ms) ∨
        .suite id.suite ∈ ms ∨ .benchmark id.suite id.benchmark ∈ ms := by
  rw [anySelects_eq_true, List.filter_eq_nil_iff]
  apply or_congr
  · constructor
    · intro none
      exact ⟨fun n mem => none _ mem rfl, fun n b mem => none _ mem rfl⟩
    · rintro ⟨noSuite, noBenchmark⟩ m mem kind
      cases m with
      | machine n => cases kind
      | suite n => exact noSuite n mem
      | benchmark n b => exact noBenchmark n b mem
  · constructor
    · rintro ⟨m, mem, selects⟩
      obtain ⟨mem, kind⟩ := List.mem_filter.1 mem
      cases m with
      | machine n => cases kind
      | suite n =>
        have same : id.suite = n := by simpa [Matcher.selects] using selects
        exact .inl (same ▸ mem)
      | benchmark n b =>
        obtain ⟨rfl, rfl⟩ : id.suite = n ∧ id.benchmark = b := by
          simpa [Matcher.selects] using selects
        exact .inr mem
    · rintro (mem | mem)
      · exact ⟨_, List.mem_filter.2 ⟨mem, rfl⟩, by simp [Matcher.selects]⟩
      · exact ⟨_, List.mem_filter.2 ⟨mem, rfl⟩, by simp [Matcher.selects]⟩

/-- A filter admits what its tokens want. -/
lemma admits_iff_wants (parsed : parse tokens = .ok f) : f.admits id = true ↔ Wants tokens id := by
  obtain ⟨ms, said, rfl⟩ := extend_eq_ok_iff.1 parsed
  rw [foldl_add, admits, Bool.and_eq_true]
  simp only [empty, List.nil_append]
  rw [anySelects_machines, anySelects_suites]
  simp only [mem_iff_given said, parts]
  exact ⟨fun h => ⟨h.1, h.2⟩, fun h => ⟨h.machine, h.suite⟩⟩

/-- Tokens that are expressions are a filter. -/
lemma exists_parse_of_formed (formed : ∀ t ∈ tokens, ∃ m, Says t m) : ∃ f, parse tokens = .ok f := by
  apply exists_parse
  apply List.find?_eq_none.2
  intro t given
  rw [isNone_parse?, not_not]
  exact formed t given

/-- Every token of a filter is an expression. -/
lemma formed_of_parse (parsed : parse tokens = .ok f) {t : String} (given : t ∈ tokens) :
    ∃ m, Says t m := by
  obtain ⟨ms, said, _⟩ := extend_eq_ok_iff.1 parsed
  obtain ⟨m, _, meaning⟩ := exists_mem_of_forall₂ said given
  exact ⟨m, meaning⟩

/-- Tokens ask for what others ask for if they are the same but for order and repetition. -/
lemma wants_congr (same : ∀ t, t ∈ tokens ↔ t ∈ tokens') : Wants tokens id ↔ Wants tokens' id := by
  have given : ∀ ps, Given tokens ps ↔ Given tokens' ps := by
    intro ps
    simp only [Given, same]
  constructor
  · intro h
    exact ⟨by simpa only [given] using h.machine, by simpa only [given] using h.suite⟩
  · intro h
    exact ⟨by simpa only [given] using h.machine, by simpa only [given] using h.suite⟩

/-- A token for a machine and one for a benchmark ask for that benchmark on that machine and for
nothing else, unless one of the names has a colon. -/
lemma wants_pair {id' : Identity} (machine : NoColon id.machine) (suite : NoColon id.suite)
    (benchmark : NoColon id.benchmark) :
    Wants ["vm:" ++ id.machine, "s:" ++ id.suite ++ ":" ++ id.benchmark] id' ↔ id' = id := by
  have first : pieces ("vm:" ++ id.machine) = ["vm", id.machine] :=
    says_iff_pieces.1 (.machine machine)
  have second : pieces ("s:" ++ id.suite ++ ":" ++ id.benchmark) =
      ["s", id.suite, id.benchmark] := says_iff_pieces.1 (.benchmark suite benchmark)
  have given : ∀ ps, Given ["vm:" ++ id.machine, "s:" ++ id.suite ++ ":" ++ id.benchmark] ps ↔
      ["vm", id.machine] = ps ∨ ["s", id.suite, id.benchmark] = ps := by
    intro ps
    simp [Given, first, second]
  constructor
  · rintro ⟨machines, suites⟩
    simp only [given] at machines suites
    have sameMachine : id.machine = id'.machine := by
      cases machines with
      | inl none => exact absurd (.inl rfl) (none id.machine)
      | inr named => simpa using named
    have sameBenchmark : id.suite = id'.suite ∧ id.benchmark = id'.benchmark := by
      cases suites with
      | inl none => exact absurd (.inr rfl) (none.2 id.suite id.benchmark)
      | inr named => simpa using named
    obtain ⟨m, s, b⟩ := id
    obtain ⟨m', s', b'⟩ := id'
    cases sameMachine
    cases sameBenchmark.1
    cases sameBenchmark.2
    rfl
  · rintro rfl
    exact ⟨.inr ((given _).2 (.inl rfl)), .inr (.inr ((given _).2 (.inr rfl)))⟩

/-- The tokens for the machine and for the suite and the benchmark of an identity are well formed if
its names have no colon. -/
lemma formed_pair (machine : NoColon id.machine) (suite : NoColon id.suite)
    (benchmark : NoColon id.benchmark) :
    ∀ t ∈ ["vm:" ++ id.machine, "s:" ++ id.suite ++ ":" ++ id.benchmark], ∃ m, Says t m := by
  intro t given
  cases List.mem_pair.1 given with
  | inl e =>
    rw [e]
    exact ⟨_, .machine machine⟩
  | inr e =>
    rw [e]
    exact ⟨_, .benchmark suite benchmark⟩

/-- What a filter means. Tokens that are expressions are a filter. It admits a benchmark exactly if
no token is `vm:n` or one is `vm:n` with the name of its machine, and no token is `s:n` or `s:n:b`
or one is `s:n` with the name of its suite or `s:n:b` with its suite and its own name. Tokens that
are the same but for order and repetition admit the same. If no name in a benchmark has a colon, the
token for its machine and the one for its suite with its name admit this benchmark only. -/
theorem parse_wants :
    (∀ tokens, (∀ t ∈ tokens, ∃ m, Says t m) →
      ∃ f, parse tokens = .ok f ∧ ∀ id, f.admits id = true ↔ Wants tokens id) ∧
    (∀ tokens tokens' f, (∀ t, t ∈ tokens ↔ t ∈ tokens') → parse tokens = .ok f →
      ∃ f', parse tokens' = .ok f' ∧ ∀ id, f'.admits id = f.admits id) ∧
    ∀ id : Identity, NoColon id.machine → NoColon id.suite → NoColon id.benchmark →
      ∃ f, parse ["vm:" ++ id.machine, "s:" ++ id.suite ++ ":" ++ id.benchmark] = .ok f ∧
        ∀ id', f.admits id' = true ↔ id' = id := by
  refine ⟨?_, ?_, ?_⟩
  · intro tokens formed
    obtain ⟨f, parsed⟩ := exists_parse_of_formed formed
    exact ⟨f, parsed, fun id => admits_iff_wants parsed⟩
  · intro tokens tokens' f same parsed
    have formed : ∀ t ∈ tokens', ∃ m, Says t m :=
      fun t given => formed_of_parse parsed ((same t).2 given)
    obtain ⟨f', parsed'⟩ := exists_parse_of_formed formed
    refine ⟨f', parsed', ?_⟩
    intro id
    rw [Bool.eq_iff_iff, admits_iff_wants parsed', admits_iff_wants parsed, wants_congr same]
  · intro id machine suite benchmark
    obtain ⟨f, parsed⟩ := exists_parse_of_formed (formed_pair machine suite benchmark)
    refine ⟨f, parsed, ?_⟩
    intro id'
    rw [admits_iff_wants parsed, wants_pair machine suite benchmark]

/-- Tokens for two machines, for a suite and for a benchmark of another suite. -/
def demoTokens : List String := ["s:T:a", "vm:V", "s:S", "vm:", "vm:V"]

/-- The benchmark that is asked for is admitted on a machine that is, also the one without a name;
a suite with a colon in its name is none that a token can name. The tokens admit the same in another
order and without the one that is repeated. A token can name a benchmark without a name. -/
theorem parse_wants_demo :
    (∃ f, parse demoTokens = .ok f ∧ (∀ id, f.admits id = true ↔ Wants demoTokens id) ∧
      f.admits ⟨"", "T", "a"⟩ = true ∧ f.admits ⟨"V", "T:a", "a"⟩ = false) ∧
    (∃ f, parse ["vm:", "vm:V", "s:S", "s:T:a"] = .ok f ∧
      f.admits ⟨"V", "S", "T:a"⟩ = true ∧ f.admits ⟨"V", "T", "b"⟩ = false) ∧
    ∃ f, parse ["vm:V", "s:S:"] = .ok f ∧ ∀ id, f.admits id = true ↔ id = ⟨"V", "S", ""⟩ := by
  obtain ⟨meaning, sets, pairs⟩ := parse_wants
  have formed : ∀ t ∈ demoTokens, ∃ m, Says t m := by
    have said : ∀ t ∈ demoTokens, (parse? t).isNone = false := by decide
    intro t given
    by_contra malformed
    exact Bool.eq_false_iff.1 (said t given) (isNone_parse?.2 malformed)
  obtain ⟨f, parsed, admits⟩ := meaning demoTokens formed
  obtain ⟨f', parsed', same⟩ := sets demoTokens ["vm:", "vm:V", "s:S", "s:T:a"] f
    (by intro t; simp [demoTokens]; tauto) parsed
  refine ⟨⟨f, parsed, admits, ?_, ?_⟩, ⟨f', parsed', ?_, ?_⟩, ?_⟩
  · cases parsed
    decide
  · cases parsed
    decide
  · rw [same]
    cases parsed
    decide
  · rw [same]
    cases parsed
    decide
  · exact pairs ⟨"V", "S", ""⟩ (by decide) (by decide) (by decide)

end BenchPlan.Filter
