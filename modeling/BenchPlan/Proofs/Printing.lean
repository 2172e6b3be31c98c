import BenchPlan.CommandLine.Session
import BenchPlan.Proofs.Json
import BenchPlan.Proofs.Rows

/-!
# What the program lists

If the program succeeds, it has made a plan and prints its rows (`exists_lists`), as lines of text
or as a JSON document. They are one for each run of each experiment, sorted, and where the sort
leaves it open in the order of the definition. The same is printed for a document with its tables in
another order (`runPlan_lists`).
-/

namespace BenchPlan

namespace CommandLine

variable {a : Arguments} {path : String} {file : FileContent} {nice : Niceness.Report} {p : Plan}
  {printed : List String}

/-- The program makes a plan and ends well, and something is printed between the log of making the
plan and what is logged in the end. -/
structure Lists (a : Arguments) (path : String) (file : FileContent) (nice : Niceness.Report)
    (p : Plan) (printed : List String) : Prop where
  planned : (Plan.ofFile 0 path file a.request (Niceness.probe nice) .empty).result = .ok p
  ending : runPlan a path file nice =
    ⟨0, shown (Verbosity.ofOptions (some a.options))
          (Plan.ofFile 0 path file a.request (Niceness.probe nice) .empty).log ++ printed ++
        shown (Verbosity.ofOptions (some a.options))
          (summaryLine p :: ((Progress.new a.options.verbose).notifyAll (closingEvents p)).2)⟩

/-- What is printed of a plan: its rows in JSON or each as a line of text. -/
def printout (a : Arguments) (p : Plan) : List String :=
  if a.flags.contains .json then [ListingRow.json (ListingRow.ofPlan p)]
  else (ListingRow.ofPlan p).map ListingRow.text

/-- A plan that is made is printed. -/
lemma lists_of_planned
    (h : (Plan.ofFile 0 path file a.request (Niceness.probe nice) .empty).result = .ok p) :
    Lists a path file nice p (printout a p) := by
  refine ⟨h, ?_⟩
  rw [runPlan]
  simp only [h]
  rfl

/-- The program succeeds only by making a plan and printing it. -/
lemma exists_lists (h : (runPlan a path file nice).code = 0) :
    ∃ p, Lists a path file nice p (printout a p) := by
  cases result : (Plan.ofFile 0 path file a.request (Niceness.probe nice) .empty).result with
  | ok p => exact ⟨p, lists_of_planned result⟩
  | error e =>
    rw [runPlan] at h
    simp only [result] at h
    cases h

/-- What is listed was decided on. -/
lemma Lists.decided (h : Lists a path file nice p printed) : ∃ c n, Plan.Reads file c ∧
    Plan.Decided file a.request (.ok (c, n)) ∧
    (Plan.ofConfig 0 c a.request (Niceness.probe nice) .empty).result = .ok p ∧
    p.experiments.keys = if n = Plan.allExperiments then c.experiments.keys else [n] := by
  obtain ⟨v, decided⟩ := Plan.exists_decided file a.request
  cases v with
  | error e =>
    obtain ⟨failed, _⟩ := Plan.ofFile_of_error decided 0 path (Niceness.probe nice) .empty
    cases h.planned.symm.trans failed
  | ok r =>
    obtain ⟨c, n⟩ := r
    obtain ⟨p', planned, _, keys⟩ :=
      Plan.ofFile_of_ok decided 0 path (Niceness.probe nice) .empty
    cases h.planned.symm.trans planned
    cases decided with
    | planned reads sound formed chosen known =>
      exact ⟨c, n, reads, .planned reads sound formed chosen known,
        Plan.ofConfig_of_ofFile reads h.planned, keys⟩

/-- What the program lists does not depend on the order of the tables in the document. -/
lemma Lists.reordered (h : Lists a path file nice p printed) {c c' : Config}
    (reads : Plan.Reads file c) {file' : FileContent} (reads' : Plan.Reads file' c')
    (same : c.Reordered c') (path' : String) (nice' : Niceness.Report) :
    ∃ p', Lists a path' file' nice' p' (printout a p') ∧
      ListingRow.ofPlan p' = ListingRow.ofPlan p := by
  obtain ⟨c₁, n, reads₁, decided, made, keys⟩ := h.decided
  cases reads.unique reads₁
  obtain ⟨p', planned, _, keys'⟩ := Plan.ofFile_of_ok (decided.reordered reads' same) 0 path'
    (Niceness.probe nice') .empty
  refine ⟨p', lists_of_planned planned, ?_⟩
  apply (Plan.ofPlan_reordered same made (Plan.ofConfig_of_ofFile reads' planned) _).symm
  rw [keys, keys']
  split
  · exact same.keys
  · exact .refl _

/-- What the program prints when it succeeds. There are a configuration in the file and a plan of it
whose rows are printed: each on a line with its names and its command line, or all of them as the
JSON array of an object for each row. The rows are one for each run of each compiled experiment,
with the values of the run and the data file of this experiment. No row stands before one whose
experiment, machine, suite and benchmark are less, and rows that agree in these come in the order of
their experiment. For every file whose configuration differs in the order of its tables only, the
program succeeds as well, lists the same rows and prints the same. -/
theorem runPlan_lists (succeeds : (runPlan a path file nice).code = 0) :
    ∃ c p printed, Plan.Reads file c ∧ Lists a path file nice p printed ∧
      (a.flags.contains .json = false →
        printed = (ListingRow.ofPlan p).map fun r =>
          r.experiment ++ "  " ++ r.machine ++ "  " ++ r.suite ++ "  " ++ r.benchmark ++ "  " ++
            r.cmdline) ∧
      (a.flags.contains .json = true →
        ∃ t, printed = [t] ∧ Json.read t = some (.array ((ListingRow.ofPlan p).map fun r => .object
          [("experiment", .text r.experiment), ("vm", .text r.machine), ("suite", .text r.suite),
            ("benchmark", .text r.benchmark), ("extra_args", r.extraArgs.elim .null .text),
            ("invocations", .number r.invocations.toNat),
            ("iterations", .number r.iterations.toNat),
            ("data_file", r.dataFile.elim .null .text), ("cmdline", .text r.cmdline)]))) ∧
      (ListingRow.ofPlan p).Perm (p.experiments.entries.flatMap fun e => e.2.runs.map fun o =>
        { experiment := e.1
          machine := o.run.benchmark.machine.name
          suite := o.run.benchmark.suite.name
          benchmark := o.run.benchmark.name
          extraArgs := o.run.benchmark.extraArgs
          invocations := o.run.settings.invocations
          iterations := o.run.settings.iterations
          dataFile := ((c.experiments.get? e.1).bind (·.dataFile)).or
            (a.dataFile.or c.standardDataFile)
          cmdline := o.run.cmdline }) ∧
      ((ListingRow.ofPlan p).Pairwise fun r s =>
        ¬ [s.experiment, s.machine, s.suite, s.benchmark] <
          [r.experiment, r.machine, r.suite, r.benchmark]) ∧
      (∀ e ∈ p.experiments.entries, ∀ machine suite benchmark : String,
        ((ListingRow.ofPlan p).filter fun r =>
            [r.experiment, r.machine, r.suite, r.benchmark] = [e.1, machine, suite, benchmark]) =
          (e.2.runs.map fun o => ListingRow.ofMember c a.dataFile e.1 o.run).filter fun r =>
            [r.experiment, r.machine, r.suite, r.benchmark] = [e.1, machine, suite, benchmark]) ∧
      ∀ path' file' nice' c', Plan.Reads file' c' → c.Reordered c' →
        ∃ p', Lists a path' file' nice' p' printed ∧
          ListingRow.ofPlan p' = ListingRow.ofPlan p := by
  obtain ⟨p, lists⟩ := exists_lists succeeds
  obtain ⟨c, _, reads, _, made, _⟩ := lists.decided
  refine ⟨c, p, _, reads, lists, ?_, ?_, ?_, ?_, ?_, ?_⟩
  · intro lines
    rw [printout, lines]
    exact List.map_congr_left fun r _ => ListingRow.text_eq r
  · intro document
    rw [printout, document]
    exact ⟨_, rfl, ListingRow.read_json _⟩
  · exact Plan.ofPlan_perm made
  · exact Plan.ofPlan_sorted p
  · rintro ⟨name, x⟩ m machine suite benchmark
    have kept := Plan.filter_ofPlan made m [machine, suite, benchmark]
    rw [Plan.ofExperiment_eq made m] at kept
    exact kept
  · intro path' file' nice' c' reads' same
    obtain ⟨p', lists', rows⟩ := lists.reordered reads reads' same path' nice'
    refine ⟨p', ?_, rows⟩
    rwa [printout, rows] at lists'

/-- An experiment with one run and perhaps a data file of its own. -/
def demoMember (dataFile : Option String) : ExperimentDef :=
  ⟨none, dataFile, none, ["S"], [.machine "V"]⟩

/-- A configuration in which experiments share their run. -/
def demoListed (experiments : List (String × ExperimentDef)) : Config where
  runs := none
  standardDataFile := none
  standardExperiment := none
  buildLogFile := none
  reporting := Table.empty
  suites := Table.ofList [("S", ⟨"g", "c", none, none, [.name "A"]⟩)]
  machines := Table.ofList [("V", ⟨none, "b", none, none⟩)]
  experiments := Table.ofList experiments

/-- Two experiments, the first of them with a data file. -/
def demoMembers : List (String × ExperimentDef) :=
  [("D", demoMember (some "d")), ("E", demoMember none)]

/-- The parts of a document for the two experiments. -/
def demoParts : List String :=
  [" D:\n  data_file: d\n  suites: [S]\n  executions: [V]\n",
    " E:\n  suites: [S]\n  executions: [V]\n"]

/-- Whether a configuration is that with the experiments. -/
def isDemoListed (experiments : List (String × ExperimentDef)) (c : Config) : Bool :=
  c.runs = none && c.standardDataFile = none && c.standardExperiment = none &&
    c.buildLogFile = none && c.reporting.entries.isEmpty &&
    c.suites = (demoListed experiments).suites && c.machines = (demoListed experiments).machines &&
    c.experiments = (demoListed experiments).experiments

/-- The document reads as the configuration if its values are those of this. -/
lemma reads_demoDocument {parts : List String} {experiments : List (String × ExperimentDef)}
    (h : Plan.readsWith (Plan.demoDocument parts) (isDemoListed experiments) = true) :
    Plan.Reads (.bytes (Plan.demoDocument parts).toUTF8) (demoListed experiments) := by
  obtain ⟨c, reads, same⟩ := Plan.exists_reads h
  simp only [isDemoListed, Bool.and_eq_true, decide_eq_true_eq, List.isEmpty_iff] at same
  obtain ⟨⟨⟨⟨⟨⟨⟨runs, dataFile⟩, experiment⟩, log⟩, reporting⟩, suites⟩, machines⟩, names⟩ := same
  obtain ⟨_, _, _, _, _, _, _, _⟩ := c
  cases runs
  cases dataFile
  cases experiment
  cases log
  cases suites
  cases machines
  cases names
  cases Table.ext (t := Table.empty) reporting
  exact reads

/-- Arguments that ask for all experiments, as JSON or not, and give a data file. -/
def demoArguments (json : Bool) : Arguments :=
  ⟨if json then [.json] else [], some "f", ["config.yml", "all"]⟩

/-- The rows of the two experiments, one with the data file of its definition and the other with the
one that is given. -/
def demoRows : List ListingRow :=
  [⟨"D", "V", "S", "A", none, 1, 1, some "d", "b c"⟩,
    ⟨"E", "V", "S", "A", none, 1, 1, some "f", "b c"⟩]

/-- The listing of a plan of the two experiments. -/
lemma ofPlan_demo {json : Bool}
    (made : (Plan.ofConfig 0 (demoListed demoMembers) (demoArguments json).request
      (Niceness.probe (.notStarted "")) .empty).result = .ok p) :
    ListingRow.ofPlan p = demoRows := by
  obtain ⟨q, made', rows⟩ : ∃ q,
      (Plan.ofConfig 0 (demoListed demoMembers) (demoArguments json).request
        (Niceness.probe (.notStarted "")) .empty).result = .ok q ∧
      q.experiments.values.flatMap ListingRow.ofExperiment = demoRows := by
    cases json with
    | false => exact ⟨_, rfl, by decide +kernel⟩
    | true => exact ⟨_, rfl, by decide +kernel⟩
  cases made.symm.trans made'
  rw [ListingRow.ofPlan, rows]
  exact List.mergeSort_of_pairwise (by decide +kernel)

/-- The program succeeds for the two experiments. -/
lemma succeeds_demo (reads : Plan.Reads file (demoListed demoMembers)) (json : Bool)
    (path : String) :
    (runPlan (demoArguments json) path file (.notStarted "")).code = 0 := by
  have decided : Plan.Decided file (demoArguments json).request
      (.ok (demoListed demoMembers, "all")) :=
    .planned reads rfl nofun (.given (by decide)) (.inl rfl)
  obtain ⟨_, planned, _⟩ :=
    Plan.ofFile_of_ok decided 0 path (Niceness.probe (.notStarted "")) .empty
  exact congrArg Ending.code (lists_of_planned planned).ending

/-- Two experiments that share their run are listed each with its own data file, one that of its
definition and the other the one that is given. The same document is printed if the second
experiment comes first in the file and so is the one that registers the run. Without the flag for
JSON a line is printed for each row. -/
theorem runPlan_lists_demo :
    (∃ p p' t,
      Lists (demoArguments true) "config.yml" (.bytes (Plan.demoDocument demoParts).toUTF8)
        (.notStarted "") p [t] ∧
      Lists (demoArguments true) "other.yml" (.bytes (Plan.demoDocument demoParts.reverse).toUTF8)
        (.notStarted "") p' [t] ∧
      ListingRow.ofPlan p = demoRows ∧ ListingRow.ofPlan p' = demoRows ∧
      Json.read t = some (.array
        [.object
          [("experiment", .text "D"), ("vm", .text "V"), ("suite", .text "S"),
            ("benchmark", .text "A"), ("extra_args", .null), ("invocations", .number 1),
            ("iterations", .number 1), ("data_file", .text "d"), ("cmdline", .text "b c")],
        .object
          [("experiment", .text "E"), ("vm", .text "V"), ("suite", .text "S"),
            ("benchmark", .text "A"), ("extra_args", .null), ("invocations", .number 1),
            ("iterations", .number 1), ("data_file", .text "f"), ("cmdline", .text "b c")]])) ∧
    ∃ p, Lists (demoArguments false) "config.yml" (.bytes (Plan.demoDocument demoParts).toUTF8)
      (.notStarted "") p ["D  V  S  A  b c", "E  V  S  A  b c"] := by
  have reads : Plan.Reads _ (demoListed demoMembers) :=
    @reads_demoDocument demoParts demoMembers (by decide +kernel)
  have reads' : Plan.Reads _ (demoListed demoMembers.reverse) :=
    @reads_demoDocument demoParts.reverse demoMembers.reverse (by decide +kernel)
  constructor
  · obtain ⟨c, p, printed, found, lists, _, document, _, _, _, others⟩ :=
      runPlan_lists (succeeds_demo reads true "config.yml")
    cases found.unique reads
    obtain ⟨t, rfl, read⟩ := document rfl
    obtain ⟨p', lists', same⟩ := others "other.yml" _ (.notStarted "") _ reads'
      ⟨rfl, rfl, rfl, rfl, rfl, .refl _, .refl _, .swap _ _ _⟩
    have rows := ofPlan_demo (Plan.ofConfig_of_ofFile reads lists.planned)
    rw [rows] at read same
    exact ⟨p, p', t, lists, lists', rows, same, read⟩
  · obtain ⟨c, p, printed, found, lists, lines, _⟩ :=
      runPlan_lists (succeeds_demo reads false "config.yml")
    cases found.unique reads
    have rows := ofPlan_demo (Plan.ofConfig_of_ofFile reads lists.planned)
    have same := lines rfl
    rw [rows] at same
    cases same
    exact ⟨p, lists⟩

end CommandLine

end BenchPlan
