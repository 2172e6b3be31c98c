import BenchPlan.Proofs.Reach
import BenchPlan.Proofs.Soundness

/-!
# What comes of a request

What comes of a request to plan the configuration in a file is decided step by step: whether the
file is text, whether the text is a configuration, whether that is sound, whether the filter is well
formed, whether an experiment is chosen, and whether it is defined. `Decided` has one case for each
answer, and exactly one of them applies. Since nothing is registered before all of this is decided
and the experiments of a sound configuration compile, a request that fails leaves the store alone,
and none fails for a name that is not defined (`ofFile_decided`).
-/

namespace BenchPlan

open Experiment

/-- A file is text exactly if its bytes are those of a text. -/
lemma FileContent.text_eq_ok {file : FileContent} {s : String} :
    file.text = .ok s ↔ file = .bytes s.toUTF8 := by
  cases file with
  | missing => exact ⟨nofun, nofun⟩
  | directory => exact ⟨nofun, nofun⟩
  | behindFile => exact ⟨nofun, nofun⟩
  | bytes b =>
    rw [text, String.fromUTF8?, String.toUTF8_eq_toByteArray]
    by_cases h : b.IsValidUTF8
    · rw [dif_pos h]
      constructor
      · intro e
        cases e
        rfl
      · intro e
        cases e
        rfl
    · rw [dif_neg h]
      constructor
      · exact nofun
      · intro e
        cases e
        exact absurd s.isValidUTF8 h

namespace Filter

/-- Reading tokens ends at the first that is malformed. -/
lemma extend_eq_error {f : Filter} {tokens : List String} {e : UnknownExpression} :
    f.extend tokens = .error e ↔
      tokens.find? (fun t => (Matcher.parse? t).isNone) = some e.token := by
  induction tokens generalizing f with
  | nil => simp [extend]
  | cons t rest ih =>
    cases h : Matcher.parse? t with
    | none =>
      obtain ⟨t'⟩ := e
      simp [extend, h]
    | some m => simp [extend, h, ih]

/-- Tokens of which none is malformed make a filter. -/
lemma exists_parse {tokens : List String}
    (h : tokens.find? (fun t => (Matcher.parse? t).isNone) = none) :
    ∃ f, parse tokens = .ok f := by
  cases result : parse tokens with
  | ok f => exact ⟨f, rfl⟩
  | error e =>
    rw [extend_eq_error.1 result] at h
    cases h

end Filter

namespace Plan

/-- The name that a request chooses: the one that it gives or, if it gives none or the empty text,
the standard one of the configuration. -/
inductive Chosen (c : Config) : Option String → String → Prop where
  | given {n : String} (nonempty : n ≠ "") : Chosen c (some n) n
  | standard {requested : Option String} {n : String} (nothing : ∀ m, requested = some m → m = "")
      (standard : c.standardExperiment = some n) (nonempty : n ≠ "") : Chosen c requested n

/-- The text of a file is a configuration. -/
def Reads (file : FileContent) (c : Config) : Prop :=
  ∃ s : String, file = .bytes s.toUTF8 ∧ Config.ofText s = .ok c

/-- What a request for the configuration in a file comes to: an error, or the configuration and the
name of what is compiled. -/
inductive Decided (file : FileContent) (request : PlanRequest) :
    Except PlanError (Config × String) → Prop where
  | unreadable {r : Unreadable} (unread : file.text = .error r) :
    Decided file request (.error (.config (.unreadable r)))
  | malformed {s : String} {e : Yaml.Error} (text : file = .bytes s.toUTF8)
      (rejected : Config.ofText s = .error e) :
    Decided file request (.error (.config (.malformed e)))
  | unsound {c : Config} (reads : Reads file c) (found : c.check ≠ []) :
    Decided file request (.error (.config (.unsound c.check)))
  | badToken {c : Config} {t : String} (reads : Reads file c) (sound : c.check = [])
      (first : request.filters.find? (fun t => (Matcher.parse? t).isNone) = some t) :
    Decided file request (.error (.filter ⟨t⟩))
  | nothingChosen {c : Config} (reads : Reads file c) (sound : c.check = [])
      (formed : ∀ t ∈ request.filters, Matcher.parse? t ≠ none)
      (nothing : ∀ m, request.experiment = some m → m = "")
      (noStandard : ∀ m, c.standardExperiment = some m → m = "") :
    Decided file request (.error .noExperimentChosen)
  | unknown {c : Config} {n : String} (reads : Reads file c) (sound : c.check = [])
      (formed : ∀ t ∈ request.filters, Matcher.parse? t ≠ none)
      (chosen : Chosen c request.experiment n) (other : n ≠ allExperiments)
      (undefined : n ∉ c.experiments.keys) :
    Decided file request (.error (.unknownExperiment n))
  | planned {c : Config} {n : String} (reads : Reads file c) (sound : c.check = [])
      (formed : ∀ t ∈ request.filters, Matcher.parse? t ≠ none)
      (chosen : Chosen c request.experiment n)
      (known : n = allExperiments ∨ n ∈ c.experiments.keys) :
    Decided file request (.ok (c, n))

variable {c : Config} {file : FileContent} {request : PlanRequest} {requested : Option String}
  {n : String}

/-- A name is taken if it is given and not the empty text. -/
lemma nonEmpty_eq_some {name : Option String} :
    nonEmpty name = some n ↔ name = some n ∧ n ≠ "" := by
  simp [nonEmpty, Option.filter_eq_some_iff]

/-- No name is taken if none is given or only the empty text. -/
lemma nonEmpty_eq_none {name : Option String} :
    nonEmpty name = none ↔ ∀ m, name = some m → m = "" := by
  simp [nonEmpty, Option.filter_eq_none_iff]

/-- The name that is resolved is the one that is chosen. -/
lemma resolveName_eq_ok : resolveName c requested = .ok n ↔ Chosen c requested n := by
  constructor
  · intro h
    unfold resolveName at h
    split at h
    · rename_i n' resolved
      cases h
      obtain ⟨resolved, nonempty⟩ := nonEmpty_eq_some.1 resolved
      cases given : nonEmpty requested with
      | none =>
        rw [given, Option.none_or] at resolved
        exact .standard (nonEmpty_eq_none.1 given) resolved nonempty
      | some m =>
        rw [given, Option.some_or] at resolved
        cases resolved
        rw [(nonEmpty_eq_some.1 given).1]
        exact .given nonempty
    · cases h
  · intro h
    cases h with
    | given nonempty => exact resolveName_some c nonempty
    | standard nothing standard nonempty =>
      rw [resolveName, nonEmpty_eq_none.2 nothing, Option.none_or, standard,
        nonEmpty_eq_some.2 ⟨rfl, nonempty⟩]

/-- No name is resolved exactly if neither the request nor the configuration gives one. -/
lemma resolveName_eq_error {e : PlanError} :
    resolveName c requested = .error e ↔ e = .noExperimentChosen ∧
      (∀ m, requested = some m → m = "") ∧ ∀ m, c.standardExperiment = some m → m = "" := by
  cases given : nonEmpty requested with
  | some m =>
    obtain ⟨rfl, nonempty⟩ := nonEmpty_eq_some.1 given
    simp [resolveName_some c nonempty, nonempty]
  | none =>
    rw [resolveName, given, Option.none_or]
    cases standard : nonEmpty c.standardExperiment with
    | some m =>
      obtain ⟨defined, nonempty⟩ := nonEmpty_eq_some.1 standard
      simp [defined, nonempty]
    | none =>
      have nothing := nonEmpty_eq_none.1 given
      have noStandard := nonEmpty_eq_none.1 standard
      constructor
      · intro h
        cases h
        exact ⟨rfl, nothing, noStandard⟩
      · rintro ⟨rfl, _⟩
        rfl

/-- A configuration that is read is loaded if it is sound. -/
lemma load_of_reads (h : Reads file c) :
    Config.load file = if c.check = [] then .ok c else .error (.unsound c.check) := by
  obtain ⟨s, text, read⟩ := h
  rw [Config.load, Config.read, FileContent.text_eq_ok.2 text]
  simp only [read, Except.mapError, List.isEmpty_iff]

variable {owner : Nat} {path : String} {probe : Probe} {store : RunStore}

/-- A sound configuration that is read is loaded. -/
lemma load_of_sound (reads : Reads file c) (sound : c.check = []) : Config.load file = .ok c := by
  rw [load_of_reads reads, if_pos sound]

/-- A plan of a file is one of the configuration in it. -/
lemma ofConfig_of_ofFile {p : Plan} (reads : Reads file c)
    (made : (ofFile owner path file request probe store).result = .ok p) :
    (ofConfig owner c request probe store).result = .ok p := by
  rw [ofFile, load_of_reads reads] at made
  split at made
  · cases made
  · rename_i loaded
    split at loaded
    · cases loaded
      exact made
    · cases loaded

/-- A configuration that is not loaded makes the request fail and registers nothing. -/
lemma ofFile_of_load_error {e : Config.LoadError} (h : Config.load file = .error e) :
    (ofFile owner path file request probe store).result = .error (.config e) ∧
      (ofFile owner path file request probe store).store = store := by
  rw [ofFile, h]
  exact ⟨rfl, rfl⟩

/-- A request for a sound configuration fails and registers nothing if it is refused. -/
lemma ofFile_of_refused {e : PlanError} (reads : Reads file c) (sound : c.check = [])
    (h : task c request = .error e) :
    (ofFile owner path file request probe store).result = .error e ∧
      (ofFile owner path file request probe store).store = store := by
  rw [ofFile, load_of_sound reads sound]
  exact ofConfig_of_refused h

/-- A request without a malformed token comes down to what is selected. -/
lemma task_of_formed (formed : ∀ t ∈ request.filters, Matcher.parse? t ≠ none) :
    ∃ f, Filter.parse request.filters = .ok f ∧
      task c request = (select c request.experiment).map fun names => (f, definitions c names) := by
  have none : request.filters.find? (fun t => (Matcher.parse? t).isNone) = none := by
    apply List.find?_eq_none.2
    intro t m
    simpa using formed t m
  obtain ⟨f, parsed⟩ := Filter.exists_parse none
  refine ⟨f, parsed, ?_⟩
  -- a data file given with the request has no part in the selection
  have same : select (withDataFile c request.dataFile) request.experiment =
    select c request.experiment := rfl
  simp only [task, parsed, same]
  cases select c request.experiment with
  | error e => rfl
  | ok names => rfl

/-- An error that is decided on is what comes out, and nothing is registered. -/
lemma ofFile_of_error {e : PlanError} (h : Decided file request (.error e)) (owner : Nat)
    (path : String) (probe : Probe) (store : RunStore) :
    (ofFile owner path file request probe store).result = .error e ∧
      (ofFile owner path file request probe store).store = store := by
  cases h with
  | unreadable unread =>
    apply ofFile_of_load_error
    rw [Config.load, Config.read, unread]
  | malformed text rejected =>
    apply ofFile_of_load_error
    rw [Config.load, Config.read, FileContent.text_eq_ok.2 text]
    simp only [rejected, Except.mapError]
  | unsound reads found =>
    apply ofFile_of_load_error
    rw [load_of_reads reads, if_neg found]
  | @badToken c t reads sound first =>
    apply ofFile_of_refused reads sound
    have parsed : Filter.parse request.filters = .error ⟨t⟩ := Filter.extend_eq_error.2 first
    rw [task, parsed]
  | @nothingChosen c reads sound formed nothing noStandard =>
    apply ofFile_of_refused reads sound
    obtain ⟨f, _, task⟩ := task_of_formed (c := c) formed
    rw [task, select, resolveName_eq_error.2 ⟨rfl, nothing, noStandard⟩]
    rfl
  | @unknown c n reads sound formed chosen other undefined =>
    apply ofFile_of_refused reads sound
    obtain ⟨f, _, task⟩ := task_of_formed (c := c) formed
    have absent : c.experiments.contains n = false := by
      rw [Bool.eq_false_iff]
      exact fun present => undefined (Table.contains_eq_true.1 present)
    rw [task, select, resolveName_eq_ok.2 chosen]
    simp [other, absent, Except.map]

/-- The names that are selected by a name that is known, all of which are defined. -/
lemma select_of_known (chosen : Chosen c requested n)
    (known : n = allExperiments ∨ n ∈ c.experiments.keys) :
    select c requested = .ok (if n = allExperiments then c.experiments.keys else [n]) ∧
      ∀ m ∈ if n = allExperiments then c.experiments.keys else [n],
        c.experiments.contains m = true := by
  rw [select, resolveName_eq_ok.2 chosen]
  by_cases all : n = allExperiments
  · simp [all, Table.contains_eq_true]
  · have present : c.experiments.contains n = true :=
      Table.contains_eq_true.2 (known.resolve_left all)
    simp [all, present]

/-- No experiment of a sound configuration stops. -/
lemma stop?_of_sound (sound : c.check = []) {names : List String} :
    ∀ e ∈ definitions c names, stop? c.machines c.suites e = none := by
  rintro ⟨name, d⟩ m
  exact stop?_eq_none.2 (Config.firstDangling_of_sound sound (mem_definitions.1 m).2)

/-- A plan is made of the configuration with the data file of the request. -/
lemma config_of_ofConfig {p : Plan} (made : (ofConfig owner c request probe store).result = .ok p) :
    p.config = withDataFile c request.dataFile ∧ p.requested = request.experiment := by
  dsimp only [ofConfig] at made
  split at made
  · cases made
  · split at made
    · cases made
    · split at made
      · cases made
      · cases made
        exact ⟨rfl, rfl⟩

/-- A name that is decided on is what is planned. -/
lemma ofFile_of_ok (h : Decided file request (.ok (c, n))) (owner : Nat) (path : String)
    (probe : Probe) (store : RunStore) :
    ∃ p, (ofFile owner path file request probe store).result = .ok p ∧
      p.experimentName = .ok n ∧
      p.experiments.keys = if n = allExperiments then c.experiments.keys else [n] := by
  cases h with
  | planned reads sound formed chosen known =>
    obtain ⟨selected, defined⟩ := select_of_known chosen known
    obtain ⟨f, _, task⟩ := task_of_formed (c := c) formed
    rw [selected] at task
    have succeeds : failure? c request = none := by
      simp only [failure?, task, Except.map,
        List.findSome?_eq_none_iff.2 (stop?_of_sound sound), Option.map_none]
    rw [ofFile, load_of_sound reads sound]
    show ∃ p, (ofConfig owner c request probe store).result = .ok p ∧ _
    cases made : (ofConfig owner c request probe store).result with
    | error e =>
      rw [result_ofConfig_eq_error.1 made] at succeeds
      cases succeeds
    | ok p =>
      obtain ⟨config, requested⟩ := config_of_ofConfig made
      refine ⟨p, rfl, ?_, ?_⟩
      · rw [experimentName, config, requested]
        show resolveName c request.experiment = .ok n
        exact resolveName_eq_ok.2 chosen
      · rw [keys_of_ofConfig made selected]
        exact List.filter_eq_self.2 defined

/-- For every file and request there is an answer. -/
lemma exists_decided (file : FileContent) (request : PlanRequest) :
    ∃ v, Decided file request v := by
  cases text : file.text with
  | error r => exact ⟨_, .unreadable text⟩
  | ok s =>
    have bytes := FileContent.text_eq_ok.1 text
    cases read : Config.ofText s with
    | error e => exact ⟨_, .malformed bytes read⟩
    | ok c =>
      have reads : Reads file c := ⟨s, bytes, read⟩
      by_cases sound : c.check = []
      · cases first : request.filters.find? fun t => (Matcher.parse? t).isNone with
        | some t => exact ⟨_, .badToken reads sound first⟩
        | none =>
          have formed : ∀ t ∈ request.filters, Matcher.parse? t ≠ none := by
            intro t m
            simpa using List.find?_eq_none.1 first t m
          cases resolved : resolveName c request.experiment with
          | error e =>
            obtain ⟨_, nothing, noStandard⟩ := resolveName_eq_error.1 resolved
            exact ⟨_, .nothingChosen reads sound formed nothing noStandard⟩
          | ok n =>
            have chosen := resolveName_eq_ok.1 resolved
            by_cases known : n = allExperiments ∨ n ∈ c.experiments.keys
            · exact ⟨_, .planned reads sound formed chosen known⟩
            · rw [not_or] at known
              exact ⟨_, .unknown reads sound formed chosen known.1 known.2⟩
      · exact ⟨_, .unsound reads sound⟩

/-- There is one configuration only in a file. -/
lemma Reads.unique {c' : Config} (h : Reads file c) (h' : Reads file c') : c = c' := by
  obtain ⟨s, text, read⟩ := h
  obtain ⟨s', text', read'⟩ := h'
  rw [← FileContent.text_eq_ok] at text text'
  cases text.symm.trans text'
  exact Except.ok.inj (read.symm.trans read')

/-- There is one answer only, since it is what comes out. -/
lemma Decided.unique {v v' : Except PlanError (Config × String)} (h : Decided file request v)
    (h' : Decided file request v') : v = v' := by
  cases v with
  | error e =>
    obtain ⟨result, _⟩ := ofFile_of_error h 0 "" (.fixed true) .empty
    cases v' with
    | error e' =>
      obtain ⟨result', _⟩ := ofFile_of_error h' 0 "" (.fixed true) .empty
      cases result.symm.trans result'
      rfl
    | ok r' =>
      obtain ⟨_, result', _⟩ := ofFile_of_ok h' 0 "" (.fixed true) .empty
      cases result.symm.trans result'
  | ok r =>
    obtain ⟨p, result, name, _⟩ := ofFile_of_ok h 0 "" (.fixed true) .empty
    cases v' with
    | error e' =>
      obtain ⟨result', _⟩ := ofFile_of_error h' 0 "" (.fixed true) .empty
      cases result.symm.trans result'
    | ok r' =>
      obtain ⟨p', result', name', _⟩ := ofFile_of_ok h' 0 "" (.fixed true) .empty
      cases result.symm.trans result'
      cases h with
      | planned reads =>
        cases h' with
        | planned reads' =>
          cases reads.unique reads'
          cases name.symm.trans name'
          rfl

/-- What comes of planning the configuration in a file. Whatever the file, the request, the answer
of the probe and the store: exactly one answer is decided on. If it is an error, this error comes
out and the store is as it was; none is about a name that is not defined. Otherwise there is a plan
for the name that is chosen, with all experiments of the document in their order if the name stands
for them and else with the one of this name. -/
theorem ofFile_decided (owner : Nat) (path : String) (file : FileContent) (request : PlanRequest)
    (probe : Probe) (store : RunStore) :
    (∃ v, Decided file request v ∧ ∀ v', Decided file request v' → v' = v) ∧
    (∀ e, (ofFile owner path file request probe store).result = .error e ↔
      Decided file request (.error e)) ∧
    (∀ e, (ofFile owner path file request probe store).result = .error e →
      (ofFile owner path file request probe store).store = store ∧ ∀ d, e ≠ .dangling d) ∧
    ∀ c n, Decided file request (.ok (c, n)) →
      ∃ p, (ofFile owner path file request probe store).result = .ok p ∧
        p.experimentName = .ok n ∧
        p.experiments.keys = if n = allExperiments then c.experiments.keys else [n] := by
  obtain ⟨v, decided⟩ := exists_decided file request
  have errors : ∀ e, (ofFile owner path file request probe store).result = .error e →
      Decided file request (.error e) := by
    intro e failed
    cases v with
    | error e' =>
      cases (ofFile_of_error decided owner path probe store).1.symm.trans failed
      exact decided
    | ok r =>
      obtain ⟨p, result, _⟩ := ofFile_of_ok decided owner path probe store
      cases result.symm.trans failed
  refine ⟨⟨v, decided, fun v' h => h.unique decided⟩, ?_, ?_, ?_⟩
  · intro e
    exact ⟨errors e, fun h => (ofFile_of_error h owner path probe store).1⟩
  · intro e failed
    have decided := errors e failed
    refine ⟨(ofFile_of_error decided owner path probe store).2, ?_⟩
    rintro d rfl
    cases decided
  · intro c n h
    exact ofFile_of_ok h owner path probe store

/-- Whether a text is that of a configuration which passes a check. -/
def readsWith (text : String) (check : Config → Bool) : Bool :=
  match Config.ofText text with
  | .ok c => check c
  | .error _ => false

/-- A text that is that of a configuration reads as one. -/
lemma exists_reads {text : String} {check : Config → Bool} (h : readsWith text check = true) :
    ∃ c, Reads (.bytes text.toUTF8) c ∧ check c = true := by
  unfold readsWith at h
  split at h
  · rename_i c read
    exact ⟨c, ⟨text, rfl, read⟩, h⟩
  · cases h

/-- The text of a document with parts for the experiments. -/
def demoDocument (experiments : List String) : String :=
  "benchmark_suites:\n S:\n  gauge_adapter: g\n  command: c\n  benchmarks: [A]\n" ++
    "virtual_machines:\n V:\n  binary: b\nexperiments:\n" ++ String.join experiments

/-- A document with two experiments that share their run. -/
def demoText : String :=
  demoDocument
    [" E:\n  suites: [S]\n  executions: [V]\n", " D:\n  suites: [S]\n  executions: [V]\n"]

/-- The document is a sound configuration. -/
lemma reads_demoText :
    ∃ c, Reads (.bytes demoText.toUTF8) c ∧ c.check = [] ∧ c.experiments.keys = ["E", "D"] := by
  obtain ⟨c, reads, checks⟩ := @exists_reads demoText
    (fun c => c.check.isEmpty && decide (c.experiments.keys = ["E", "D"])) (by decide +kernel)
  obtain ⟨sound, keys⟩ := (Bool.and_eq_true _ _).mp checks
  exact ⟨c, reads, List.isEmpty_iff.1 sound, of_decide_eq_true keys⟩

/-- A request for a name with tokens of a filter, for the document with two experiments. -/
def demoOutcome (name : String) (filters : List String) : Outcome :=
  ofFile 0 "config.yml" (.bytes demoText.toUTF8) ⟨none, none, some name, none, filters⟩
    (.fixed true) demoShared.store

/-- All experiments of the document are planned in their order, or the one that is asked for. A name
that is not defined is reported unless a token is malformed, and then the first such token is; the
run that the store held before is all that it holds. -/
theorem ofFile_decided_demo :
    (∃ p, (demoOutcome allExperiments ["vm:V"]).result = .ok p ∧
      p.experimentName = .ok allExperiments ∧ p.experiments.keys = ["E", "D"]) ∧
    (∃ p, (demoOutcome "D" []).result = .ok p ∧
      p.experimentName = .ok "D" ∧ p.experiments.keys = ["D"]) ∧
    (demoOutcome "F" ["vm:V", "s", "v"]).result = .error (.filter ⟨"s"⟩) ∧
    (demoOutcome "F" []).result = .error (.unknownExperiment "F") ∧
    (demoOutcome "F" []).store = demoShared.store := by
  obtain ⟨c, reads, sound, keys⟩ := reads_demoText
  have outcome (name : String) (filters : List String) :=
    ofFile_decided 0 "config.yml" (.bytes demoText.toUTF8)
      ⟨none, none, some name, none, filters⟩ (.fixed true) demoShared.store
  obtain ⟨_, _, _, all⟩ := outcome allExperiments ["vm:V"]
  obtain ⟨_, _, _, one⟩ := outcome "D" []
  obtain ⟨_, bad, _⟩ := outcome "F" ["vm:V", "s", "v"]
  obtain ⟨_, other, unchanged, _⟩ := outcome "F" []
  have planned := all c allExperiments
    (.planned reads sound (by decide) (.given (by decide)) (.inl rfl))
  rw [if_pos rfl, keys] at planned
  have own := one c "D"
    (.planned reads sound nofun (.given (by decide)) (.inr (by simp [keys])))
  rw [if_neg (by decide)] at own
  have refused := (bad (.filter ⟨"s"⟩)).2 (.badToken reads sound (by decide))
  have unknown := (other (.unknownExperiment "F")).2
    (.unknown reads sound nofun (.given (by decide)) (by decide) (by simp [keys]))
  exact ⟨planned, own, refused, unknown, (unchanged _ unknown).1⟩

end Plan

end BenchPlan
