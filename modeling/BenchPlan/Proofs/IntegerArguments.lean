import BenchPlan.Proofs.Compilation
import BenchPlan.Proofs.Writable

/-!
# Integers as arguments

A document may give a benchmark any integer of up to 64 bits as its argument. One that fits into
64 bits with a sign keeps its digits. One beyond these becomes the floating point number nearest to
it (`ExtraArgs.ofInteger`), whose text has a point, an exponent or a word in it
(`Binary64.marked_text`) and is not that of an integer (`ExtraArgs.render_eq_digits`). So integers of
one text are the same, unless both are beyond (`ExtraArgs.render_eq_render_iff`), and an experiment
tells the entries of all others apart (`BenchmarkEntry.extraArgs_integer`).
-/

namespace BenchPlan

open Yaml (Decode Node Place Scalar Value)
open Yaml.Scalar (digits fitsInt64 fitsWord)
open Yaml.Value

/-! ## Texts of numbers -/

/-- A text is marked if something in it is neither a digit nor a minus sign. -/
def Text.Marked (s : String) : Prop := ∃ c ∈ s.toList, c.isDigit = false ∧ c ≠ '-'

namespace Binary64

open Text (Marked)

/-- A character that is neither a digit nor a minus sign marks a text. -/
lemma marked_of_mem {s : String} {c : Char} (m : c ∈ s.toList) (other : c.isDigit = false)
    (sign : c ≠ '-') : Marked s :=
  ⟨c, m, other, sign⟩

/-- A sign in front leaves a text marked. -/
lemma marked_signed {s : String} (marked : Marked s) (negative : Bool) :
    Marked (signed negative s) := by
  obtain ⟨c, m, other, sign⟩ := marked
  refine marked_of_mem (c := c) ?_ other sign
  cases negative with
  | false => exact m
  | true =>
    rw [signed, if_pos rfl, String.toList_append]
    exact List.mem_append_right _ m

/-- A text with a point is marked. -/
lemma marked_withPoint (s : String) : Marked (withPoint s) := by
  refine marked_of_mem (c := '.') ?_ rfl (by decide)
  rw [withPoint]
  split
  · rename_i point
    exact List.contains_iff_mem.1 point
  · rw [String.toList_append]
    exact List.mem_append_right _ List.mem_cons_self

/-- A text with an exponent is marked. -/
lemma marked_scientific (d : Decimal) : Marked d.scientific := by
  refine marked_of_mem (c := 'e') ?_ rfl (by decide)
  simp only [Decimal.scientific, String.toList_append, List.mem_append]
  exact .inl (.inr List.mem_cons_self)

/-- The text of a floating point number is never that of an integer. -/
lemma marked_text (x : Binary64) : Marked x.text := by
  unfold text textFrom
  split
  · exact marked_of_mem (c := 'N') List.mem_cons_self rfl (by decide)
  · exact marked_signed (marked_of_mem (c := 'i') List.mem_cons_self rfl (by decide)) _
  · exact marked_signed (marked_withPoint "0") _
  · apply marked_signed
    split
    · exact marked_withPoint _
    · exact marked_scientific _

end Binary64

namespace Yaml.Scalar

/-- The digits of an integer are not marked. -/
lemma not_marked_digits (n : Int) : ¬ Text.Marked (String.ofList (digits n)) := by
  rintro ⟨c, m, other, sign⟩
  rw [String.toList_ofList] at m
  have digit : ∀ {k : Nat}, c ∉ Nat.toDigits 10 k := fun m =>
    Bool.false_ne_true (other.symm.trans (isDigit_of_mem_toDigits m))
  cases n with
  | ofNat n => exact digit m
  | negSucc n =>
    obtain e | m := List.mem_cons.1 m
    · exact sign e
    · exact digit m

/-- Integers of the same digits are the same, since the digits can be read back. -/
lemma digits_injective : Function.Injective digits := by
  intro n n' same
  have read := integer?_digits n
  rw [same, integer?_digits] at read
  exact (Option.some.inj read).symm

/-- An integer is shown by its digits. -/
lemma toString_eq_digits (n : Int) : toString n = String.ofList (digits n) := by
  cases n with
  | ofNat n => exact Nat.toString_eq_ofList_toDigits
  | negSucc n =>
    show "-" ++ Nat.repr (n + 1) = _
    rw [Nat.repr_eq_ofList_toDigits, digits]
    exact String.ofList_append.symm

end Yaml.Scalar

/-! ## Integers that are given as arguments -/

namespace ExtraArgs

/-- The argument that an integer of a document becomes. -/
def ofInteger (n : Int) : ExtraArgs :=
  if fitsInt64 n then .int (Int64.ofInt n) else .float (Binary64.ofInt n)

/-- An integer is read as the argument that it becomes. -/
lemma ofValue?_int (n : Int) : ofValue? (.int n) = some (ofInteger n) :=
  (apply_ite some _ _ _).symm

/-- A document gives an argument as it is written, or by an integer that becomes this argument. -/
inductive Given : ExtraArgs → Value → Prop where
  | written {x : ExtraArgs} {v : Value} (w : x.Written v) : Given x v
  | integer (n : Int) : Given (ofInteger n) (.int n)

/-- An argument is read however it is given. -/
lemma Given.readsAs {x : ExtraArgs} {v : Value} (g : x.Given v) : ReadsAs ofValue? v x := by
  cases g with
  | written w => exact w.readsAs
  | integer n => exact ⟨ofValue?_int n, rfl, .int⟩

/-- An argument that is given by an integer is what this becomes. -/
lemma Given.eq_ofInteger {x : ExtraArgs} {n : Int} (g : x.Given (.int n)) : x = ofInteger n :=
  Option.some.inj (g.readsAs.read.symm.trans (ofValue?_int n))

/-- An integer that fits is rendered by its digits. -/
lemma render_of_fits {n : Int} (fits : fitsInt64 n = true) :
    (ofInteger n).render = String.ofList (digits n) := by
  have bounds : -0x8000000000000000 ≤ n ∧ n < 0x8000000000000000 := by
    simpa [fitsInt64] using fits
  rw [ofInteger, if_pos fits, render, Int64.toInt_ofInt_of_le bounds.1 bounds.2,
    Scalar.toString_eq_digits]

/-- An integer that does not fit is rendered as a floating point number. -/
lemma render_of_not_fits {n : Int} (beyond : fitsInt64 n = false) :
    (ofInteger n).render = (Binary64.ofInt n).text := by
  rw [ofInteger, beyond]
  rfl

/-- The text of an integer tells whether it fits. -/
lemma marked_render (n : Int) : Text.Marked (ofInteger n).render ↔ fitsInt64 n = false := by
  cases fits : fitsInt64 n with
  | true =>
    rw [render_of_fits fits]
    exact iff_of_false (Scalar.not_marked_digits n) nofun
  | false =>
    rw [render_of_not_fits fits]
    exact iff_of_true (Binary64.marked_text _) rfl

/-- An integer keeps its digits exactly if it fits into 64 bits with a sign. -/
lemma render_eq_digits (n : Int) :
    (ofInteger n).render = String.ofList (digits n) ↔ fitsInt64 n = true := by
  refine ⟨fun kept => ?_, render_of_fits⟩
  rw [← Bool.not_eq_false, ← marked_render, kept]
  exact Scalar.not_marked_digits n

/-- Integers of one text are the same, unless both are beyond and become numbers of one text. -/
lemma render_eq_render_iff (n n' : Int) :
    (ofInteger n).render = (ofInteger n').render ↔
      n = n' ∨ fitsInt64 n = false ∧ fitsInt64 n' = false ∧
        (Binary64.ofInt n).text = (Binary64.ofInt n').text := by
  constructor
  · intro same
    have beyond : fitsInt64 n = false ↔ fitsInt64 n' = false := by
      rw [← marked_render, same, marked_render]
    cases fits : fitsInt64 n with
    | true =>
      have fits' : fitsInt64 n' = true := by rwa [← Bool.not_eq_false, ← beyond, Bool.not_eq_false]
      rw [render_of_fits fits, render_of_fits fits'] at same
      exact .inl (Scalar.digits_injective (String.ofList_injective same))
    | false =>
      have beyond' := beyond.1 fits
      rw [render_of_not_fits fits, render_of_not_fits beyond'] at same
      exact .inr ⟨rfl, beyond', same⟩
  · rintro (rfl | ⟨beyond, beyond', same⟩)
    · rfl
    · rw [render_of_not_fits beyond, render_of_not_fits beyond', same]

end ExtraArgs

/-! ## Entries with an integer -/

/-- The details of a benchmark are given as a record. -/
def BenchmarkDetails.Given (d : BenchmarkDetails) : Value → Prop :=
  IsRecord
    [("extra_args", Optionally ExtraArgs.Given d.extraArgs),
      ("command", Optionally WritesText d.command)]

/-- An entry is given as a name, or as a table of details. -/
def BenchmarkEntry.Given : BenchmarkEntry → Value → Prop
  | name s, v => WritesText s v
  | detailed t, v => WritesTable BenchmarkDetails.Given t v

/-- A value is a mapping that has details for a benchmark with an integer as the argument. -/
def Yaml.Value.GivesInteger (name : String) (n : Int) (v : Value) : Prop :=
  ∃ xs fields, v = .mapping xs ∧ (.text name, .mapping fields) ∈ xs ∧
    (.text "extra_args", .int n) ∈ fields

/-- An entry is given by a value that has an integer as the argument of a benchmark. -/
structure BenchmarkEntry.WithInteger (e : BenchmarkEntry) (name : String) (n : Int) (v : Value) :
    Prop where
  given : e.Given v
  integer : v.GivesInteger name n

/-- An entry is read however it is given. -/
lemma BenchmarkEntry.Given.readsAs {e : BenchmarkEntry} {v : Value} (g : e.Given v) :
    ReadsAs ofValue? v e := by
  cases e with
  | name s =>
    cases g
    exact ⟨rfl, rfl, .text⟩
  | detailed t =>
    exact readsAs_of_writesTable (BenchmarkDetails.readsAs_of_isRecord ExtraArgs.Given.readsAs) g

/-- A field of a mapping with names for keys is one of the named values. -/
lemma mem_of_mem_ofNamed {xs : List (String × Value)} {ys : List (Value × Value)}
    (same : Value.mapping ys = ofNamed xs) {name : String} {v : Value}
    (m : (Value.text name, v) ∈ ys) : (name, v) ∈ xs := by
  cases same
  obtain ⟨x, there, e⟩ := List.mem_map.1 m
  cases e
  exact there

/-- Details that are given with an integer for the argument have what this becomes. -/
lemma BenchmarkDetails.Given.extraArgs_eq {d : BenchmarkDetails} {fields : List (Value × Value)}
    (g : d.Given (.mapping fields)) {n : Int} (m : (.text "extra_args", .int n) ∈ fields) :
    d.extraArgs = some (.ofInteger n) := by
  obtain ⟨t, same, -, args, -⟩ := IsRecord.content g
  have found := t.get?_eq_some_iff.2 (mem_of_mem_ofNamed same m)
  rw [found] at args
  cases chosen : d.extraArgs with
  | none =>
    rw [chosen] at args
    cases args
  | some x =>
    rw [chosen] at args
    rw [ExtraArgs.Given.eq_ofInteger args]

/-- The details that are read have the argument that the integer becomes. -/
lemma BenchmarkEntry.WithInteger.exists_details {e : BenchmarkEntry} {name : String} {n : Int}
    {v : Value} (h : e.WithInteger name n v) :
    ∃ details : BenchmarkDetails,
      (name, some details) ∈ e.benchmarks ∧ details.extraArgs = some (.ofInteger n) := by
  obtain ⟨given, ys, fields, rfl, entry, argument⟩ := h
  cases e with
  | name s => cases given
  | detailed t =>
    obtain ⟨xs, same, entries⟩ := given
    have listed := mem_of_mem_ofNamed same entry
    obtain ⟨⟨name', details⟩, there, e, given⟩ := exists_mem_of_forall₂ entries.flip listed
    cases e
    exact ⟨details, List.mem_map.2 ⟨_, there, rfl⟩, given.extraArgs_eq argument⟩

/-! ## Runs of entries with integers -/

/-- An object that an experiment lists is for the benchmark of a slot, with the argument that an
integer becomes. -/
structure Experiment.ListsInteger (x : Experiment) (l : Slot) (n : Int) (o : SharedRun) : Prop where
  listed : o ∈ x.runs
  identity : o.run.benchmark.identity = l.identity
  extraArgs : o.run.benchmark.extraArgs = some (ExtraArgs.ofInteger n).render

namespace BenchmarkEntry

open Experiment Slot

variable {ctx : Context} {experiment : String} {d : ExperimentDef} {s : Shared} {x : Experiment}
  {l : Slot} {e : BenchmarkEntry} {details : BenchmarkDetails} {n : Int}

/-- An experiment that asks for a benchmark of a suite lists an object for each entry of the suite
that names the benchmark. -/
lemma exists_listsInteger (h : (compile ctx experiment d s).1 = .ok x)
    (slot : l ∈ admitted ctx.filter (d.slots ctx.machines ctx.suites))
    (entry : e ∈ l.suiteDef.benchmarks) (named : (l.benchmark, some details) ∈ e.benchmarks)
    (argument : details.extraArgs = some (.ofInteger n)) :
    ∃ o, x.ListsInteger l n o ∧ (compile ctx experiment d s).2.store.find?
      ⟨l.machine, l.suite, l.benchmark, some (ExtraArgs.ofInteger n).render, settingsOf ctx d⟩ =
        some o := by
  obtain ⟨asked, admits⟩ := List.mem_filter.1 slot
  have described : (l.benchmark, some details) ∈ l.suiteDef.allBenchmarks :=
    List.mem_flatMap.2 ⟨e, entry, named⟩
  -- the slot of this entry, which no filter can tell from `l`
  have slot' : { l with details := some details } ∈
      admitted ctx.filter (d.slots ctx.machines ctx.suites) :=
    List.mem_filter.2 ⟨ExperimentDef.mem_slots_of_mem asked described, admits⟩
  obtain ⟨o, listed, held⟩ := held_of_compile h slot'
  have args : Benchmark.extraArgsOf (some details) = some (ExtraArgs.ofInteger n).render := by
    rw [Benchmark.extraArgsOf, Option.bind_some, argument, Option.map_some]
  rw [Slot.key, Slot.extraArgs, args] at held
  have key := RunStore.key_of_find? held
  simp only [Run.key, RunKey.mk.injEq] at key
  obtain ⟨machine, suite, benchmark, extraArgs, -⟩ := key
  refine ⟨o, ⟨listed, ?_, extraArgs⟩, held⟩
  simp only [Benchmark.identity, Slot.identity, machine, suite, benchmark]

/-- An integer of up to 64 bits that is the argument of a benchmark. Its digits write it. However an
entry with it is written, it is read as that entry, and its benchmark gets the digits as the argument
exactly if the integer fits into 64 bits with a sign. Two entries of a suite that name the benchmark
with two such integers each have an object in every experiment that asks for the benchmark, and
these are one object exactly if the integers are the same, or both do not fit and become floating
point numbers of one text. -/
theorem extraArgs_integer {n : Int} (word : fitsWord n = true) :
    (Node.scalar (.plain (String.ofList (digits n)))).Writes (.int n) ∧
    ∀ {name : String} {e : BenchmarkEntry} {v : Value}, e.WithInteger name n v →
      Decode.Reads (decodeEntry "BenchmarkEntry" ofValue?) v e ∧
      ∃ details, (name, some details) ∈ e.benchmarks ∧
        (∀ suite machine, (Benchmark.ofDetails name (some details) suite machine).extraArgs =
          some (String.ofList (digits n)) ↔ fitsInt64 n = true) ∧
        ∀ {n' : Int} {e' : BenchmarkEntry} {v' : Value}, e'.WithInteger name n' v' →
          ∀ {ctx : Context} {experiment : String} {d : ExperimentDef} {s : Shared} {x : Experiment}
            {l : Slot}, (compile ctx experiment d s).1 = .ok x →
            l ∈ admitted ctx.filter (d.slots ctx.machines ctx.suites) → l.benchmark = name →
            e ∈ l.suiteDef.benchmarks → e' ∈ l.suiteDef.benchmarks →
            ∃ o o', x.ListsInteger l n o ∧ x.ListsInteger l n' o' ∧
              (o.position = o'.position ↔
                n = n' ∨ fitsInt64 n = false ∧ fitsInt64 n' = false ∧
                  (Binary64.ofInt n).text = (Binary64.ofInt n').text) := by
  refine ⟨.scalar (Scalar.spells_digits word) .none, fun {name e v} integer => ?_⟩
  obtain ⟨details, named, argument⟩ := integer.exists_details
  refine ⟨integer.given.readsAs.reads _, details, named, ?_, ?_⟩
  · intro suite machine
    rw [Benchmark.ofDetails, Option.bind_some, argument, Option.map_some, Option.some.injEq]
    exact ExtraArgs.render_eq_digits n
  · rintro n' e' v' integer' ctx experiment d s x l compiled slot rfl entry entry'
    obtain ⟨details', named', argument'⟩ := integer'.exists_details
    obtain ⟨o, lists, held⟩ := exists_listsInteger compiled slot entry named argument
    obtain ⟨o', lists', held'⟩ := exists_listsInteger compiled slot entry' named' argument'
    refine ⟨o, o', lists, lists', ?_⟩
    rw [← ExtraArgs.render_eq_render_iff]
    constructor
    · intro same
      have args := lists.extraArgs
      rw [RunStore.eq_of_position held held' same, lists'.extraArgs] at args
      exact (Option.some.inj args).symm
    · intro same
      rw [same, held'] at held
      rw [Option.some.inj held]

/-- An entry that says nothing of a benchmark but an integer as its argument. -/
def ofInteger (name : String) (n : Int) : BenchmarkEntry :=
  .detailed (Table.ofList [(name, ⟨some (.ofInteger n), none⟩)])

/-- The value of such an entry. -/
def integerValue (name : String) (n : Int) : Value :=
  .mapping [(.text name, .mapping [(.text "extra_args", .int n)])]

/-- The entry with the integer in digits. -/
def integerNode (name : String) (n : Int) : Node :=
  .mapping none [(.scalar ⟨name, .doubleQuoted, none⟩, .mapping none
    [(.scalar (.plain "extra_args"), .scalar (.plain (String.ofList (digits n))))])]

/-- The demonstration entry is given with its integer. -/
lemma withInteger_ofInteger (name : String) (n : Int) :
    (ofInteger name n).WithInteger name n (integerValue name n) := by
  have given : BenchmarkDetails.Given ⟨some (.ofInteger n), none⟩
      (.mapping [(.text "extra_args", .int n)]) := by
    refine ⟨Table.ofList [("extra_args", .int n)], rfl, ?_, ?_⟩
    · exact List.forall_mem_singleton.2 List.mem_cons_self
    · exact List.forall_mem_cons.2 ⟨.integer n, List.forall_mem_singleton.2 trivial⟩
  refine ⟨⟨[(name, .mapping [(.text "extra_args", .int n)])], rfl, .cons ⟨rfl, given⟩ .nil⟩, ?_⟩
  exact ⟨_, _, rfl, List.mem_singleton.2 rfl, List.mem_singleton.2 rfl⟩

/-- A mapping of one field is written by a node of one entry. -/
lemma writes_singleton {k v : Node} {x y : Value} (key : k.Writes x) (value : v.Writes y) :
    (Node.mapping none [(k, v)]).Writes (.mapping [(x, y)]) := by
  refine .mapping ?_ ?_ (List.pairwise_singleton _ _) .none
  · exact .cons key .nil
  · exact .cons value .nil

/-- The demonstration node writes its value. -/
lemma integerNode_writes (name : String) {n : Int} (word : fitsWord n = true) :
    (integerNode name n).Writes (integerValue name n) :=
  writes_singleton (.scalar (.text rfl) .none)
    (writes_singleton (.scalar (.text rfl) .none) (.scalar (Scalar.spells_digits word) .none))

/-- A suite with two entries for a benchmark, each with an integer. -/
def demoIntegersSuite (n n' : Int) : SuiteDef :=
  { demoSuite with benchmarks := [ofInteger "A" n, ofInteger "A" n'] }

/-- The experiments of a configuration with this suite. -/
def demoIntegers (n n' : Int) : Context :=
  { demoContext with suites := Table.ofList [("S", demoIntegersSuite n n')] }

/-- The slot of the first entry. -/
def demoIntegersSlot (n n' : Int) : Slot :=
  ⟨"V", demoMachine, "S", demoIntegersSuite n n', "A", some ⟨some (.ofInteger n), none⟩⟩

/-- The least integer of 64 bits. -/
def leastWord : Int := -0x8000000000000000

/-- The greatest integer of 64 bits. -/
def greatestWord : Int := 0xffffffffffffffff

/-- The least integer is read from its digits, and an entry with it is not confused with one that has
the greatest. -/
theorem extraArgs_integer_demo :
    fitsWord leastWord = true ∧ fitsWord greatestWord = true ∧
    (integerNode "A" leastWord).Writes (integerValue "A" leastWord) ∧
    Decode.Yields (decodeEntry "BenchmarkEntry" ofValue? (integerNode "A" leastWord) Place.root)
      (ofInteger "A" leastWord) ∧
    ∃ x o o',
      (compile (demoIntegers leastWord greatestWord) "E" demoExperiment demoShared).1 = .ok x ∧
      x.ListsInteger (demoIntegersSlot leastWord greatestWord) leastWord o ∧
      x.ListsInteger (demoIntegersSlot leastWord greatestWord) greatestWord o' ∧
      o.position ≠ o'.position := by
  have word : fitsWord leastWord = true := by decide
  have writes := integerNode_writes "A" word
  obtain ⟨-, read⟩ := extraArgs_integer word
  obtain ⟨reads, details, -, -, apart⟩ := read (withInteger_ofInteger "A" leastWord)
  refine ⟨word, by decide, writes, reads _ Place.root writes (by decide), ?_⟩
  obtain ⟨o, o', lists, lists', same⟩ := @apart _ _ _ (withInteger_ofInteger "A" greatestWord)
    (demoIntegers leastWord greatestWord) "E" demoExperiment demoShared _
    (demoIntegersSlot leastWord greatestWord) rfl (List.mem_of_mem_head? rfl) rfl
    List.mem_cons_self (List.mem_cons_of_mem _ List.mem_cons_self)
  refine ⟨_, o, o', rfl, lists, lists', ?_⟩
  rw [Ne, same]
  decide

/-- The first integers beyond 64 bits with a sign are read from their digits too, but become one
floating point number: neither keeps its digits, and an experiment lists one object for entries with
the two. -/
theorem extraArgs_of_large_integers :
    (∀ n ∈ [(9223372036854775808 : Int), 9223372036854775809], fitsWord n = true ∧
      (integerNode "A" n).Writes (integerValue "A" n) ∧
      Decode.Yields (decodeEntry "BenchmarkEntry" ofValue? (integerNode "A" n) Place.root)
        (ofInteger "A" n) ∧
      (ExtraArgs.ofInteger n).render = "9.223372036854776e18") ∧
    ∃ x, (compile (demoIntegers 9223372036854775808 9223372036854775809) "E" demoExperiment
        demoShared).1 = .ok x ∧
      x.runs.map (fun o => (o.run.benchmark.name, o.run.benchmark.extraArgs)) =
        [("A", some "9.223372036854776e18")] := by
  constructor
  · intro n m
    have word : fitsWord n = true := by
      revert n
      decide
    have text : (ExtraArgs.ofInteger n).render = "9.223372036854776e18" := by
      revert n
      decide +kernel
    have writes := integerNode_writes "A" word
    have reads := (withInteger_ofInteger "A" n).given.readsAs.reads "BenchmarkEntry"
    have deep : (integerNode "A" n).height ≤ Place.root.depth := by
      show 2 ≤ Yaml.maxDepth
      decide
    exact ⟨word, writes, reads _ Place.root writes deep, text⟩
  · exact ⟨_, rfl, by decide +kernel⟩

end BenchmarkEntry

end BenchPlan
