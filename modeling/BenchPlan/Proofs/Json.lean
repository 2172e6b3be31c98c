import BenchPlan.Listing
import Mathlib.Data.List.Basic

/-!
# Listings read as JSON

What a JSON text says, told without regard to how a listing is printed. `Json.read` goes through a
text from left to right, one character at a time, with the arrays and objects that are open on a
stack. It reads texts with all their escapes but surrogates, natural numbers, `null`, arrays and
objects; other numbers and truth values, which no listing has, it refuses. A value that is printed
is read back wherever a value may stand (`Denotes`), so a listing says its rows in their order, each
with all of its fields (`ListingRow.read_json`), and no two listings are printed alike
(`ListingRow.json_injective`).
-/

namespace BenchPlan

open Text (digitValue?)

/-- A JSON value, with natural numbers only. -/
inductive Json where
  | null
  | number (n : Nat)
  | text (s : String)
  | array (items : List Json)
  | object (members : List (String × Json))

namespace Json

/-! ## The reader -/

/-- What is open around a value: an array with the items before it, or an object with the members
before it and its own name. -/
inductive Frame where
  | items (before : List Json)
  | members (before : List (String × Json)) (name : String)

/-- Where a reader stands within what is open, the innermost first: before a value, before or behind
a name in an object, or behind a value. -/
inductive Place where
  | value (fs : List Frame)
  | name (fs : List Frame) (before : List (String × Json))
  | named (fs : List Frame) (before : List (String × Json)) (name : String)
  | behind (fs : List Frame) (v : Json)

namespace Place

/-- The place behind a text. -/
def text : Place → String → Option Place
  | value fs, s => some (behind fs (.text s))
  | name fs before, s => some (named fs before s)
  | _, _ => none

/-- The value of a word: `null`, or a number without leading zeros. -/
def ofWord? (w : List Char) : Option Json :=
  if w = "null".toList then some .null
  else if w = Nat.toDigits 10 (Nat.ofDigitChars 10 w 0) then
    some (.number (Nat.ofDigitChars 10 w 0))
  else none

/-- The place behind a word. -/
def word : Place → List Char → Option Place
  | value fs, w => (ofWord? w).map (behind fs)
  | _, _ => none

/-- The place behind a bracket, a comma or a colon. -/
def mark : Place → Char → Option Place
  | value fs, '[' => some (value (.items [] :: fs))
  | value (.items [] :: fs), ']' => some (behind fs (.array []))
  | behind (.items vs :: fs) v, ',' => some (value (.items (vs ++ [v]) :: fs))
  | behind (.items vs :: fs) v, ']' => some (behind fs (.array (vs ++ [v])))
  | value fs, '\x7b' => some (name fs [])
  | name fs [], '\x7d' => some (behind fs (.object []))
  | named fs ms n, ':' => some (value (.members ms n :: fs))
  | behind (.members ms n :: fs) v, ',' => some (name fs (ms ++ [(n, v)]))
  | behind (.members ms n :: fs) v, '\x7d' => some (behind fs (.object (ms ++ [(n, v)])))
  | _, _ => none

end Place

/-- What a reader is in the middle of: nothing, a word, a text, or in a text an escape, maybe with
some of its digits. -/
inductive Mode where
  | between
  | word (w : List Char)
  | text (s : List Char)
  | escaped (s : List Char)
  | coded (s : List Char) (digits code : Nat)

/-- A reader of JSON. -/
structure Reader where
  place : Place
  mode : Mode

/-- The character for which a letter stands behind a backslash. -/
def escape? : Char → Option Char
  | '"' => some '"'
  | '\\' => some '\\'
  | '/' => some '/'
  | 'b' => some '\x08'
  | 'f' => some '\x0C'
  | 'n' => some '\n'
  | 'r' => some '\r'
  | 't' => some '\t'
  | _ => none

/-- Reads a character that is not inside of a word or a text. -/
def start (p : Place) (c : Char) : Option Reader :=
  if c = '"' then some ⟨p, .text []⟩
  else if c.isAlphanum then some ⟨p, .word [c]⟩
  else if c = ' ' ∨ c = '\t' ∨ c = '\n' ∨ c = '\r' then some ⟨p, .between⟩
  else (p.mark c).map (⟨·, .between⟩)

/-- Reads a character. -/
def step : Reader → Char → Option Reader
  | ⟨p, .between⟩, c => start p c
  -- a word has no end of its own, so it ends at the character behind it
  | ⟨p, .word w⟩, c =>
    if c.isAlphanum then some ⟨p, .word (w ++ [c])⟩ else (p.word w).bind (start · c)
  | ⟨p, .text s⟩, c =>
    if c = '"' then (p.text (String.ofList s)).map (⟨·, .between⟩)
    else if c = '\\' then some ⟨p, .escaped s⟩
    else if c.toNat < 0x20 then none
    else some ⟨p, .text (s ++ [c])⟩
  | ⟨p, .escaped s⟩, c =>
    if c = 'u' then some ⟨p, .coded s 0 0⟩ else (escape? c).map fun e => ⟨p, .text (s ++ [e])⟩
  | ⟨p, .coded s k n⟩, c => do
    let n := 16 * n + (← digitValue? c)
    if k < 3 then some ⟨p, .coded s (k + 1) n⟩
    else if n.isValidChar then some ⟨p, .text (s ++ [Char.ofNat n])⟩
    else none

/-- Reads characters one after the other. -/
def run (r : Reader) (cs : List Char) : Option Reader := cs.foldlM step r

/-- The value that a JSON text says. -/
def read (t : String) : Option Json :=
  -- the blank ends a word at the end
  match run ⟨.value [], .between⟩ (t.toList ++ [' ']) with
  | some ⟨.behind [] v, .between⟩ => some v
  | _ => none

variable {p q : Place} {r r' : Reader} {s cs rest : List Char} {c : Char}

/-- Reading goes on behind a character that is read. -/
lemma run_of_step (h : step r c = some r') : run r (c :: rest) = run r' rest := by
  rw [run, List.foldlM_cons, h]
  rfl

/-- Readers that read the next character alike go on alike. -/
lemma run_congr (h : step r c = step r' c) : run r (c :: rest) = run r' (c :: rest) := by
  rw [run, run, List.foldlM_cons, List.foldlM_cons, h]

/-- Spaces are passed over. -/
lemma run_space : run ⟨p, .between⟩ (' ' :: rest) = run ⟨p, .between⟩ rest :=
  run_of_step rfl

/-- Ends of lines are passed over. -/
lemma run_newline : run ⟨p, .between⟩ ('\n' :: rest) = run ⟨p, .between⟩ rest :=
  run_of_step rfl

/-! ## Texts -/

/-- The four digits by which a control character is printed. -/
lemma padded_toDigits : ∀ n < 0x20,
    List.replicate (4 - (Nat.toDigits 16 n).length) '0' ++ Nat.toDigits 16 n =
      ['0', '0', (n / 16).digitChar, (n % 16).digitChar] := by
  decide +kernel

/-- A digit is read as its value. -/
lemma digitValue?_digitChar : ∀ n < 16, digitValue? n.digitChar = some n := by
  decide +kernel

/-- One more digit of a code that is not the last. -/
lemma step_digit {k n d : Nat} (early : k < 3) (digit : d < 16) :
    step ⟨p, .coded s k n⟩ d.digitChar = some ⟨p, .coded s (k + 1) (16 * n + d)⟩ := by
  simp only [step, digitValue?_digitChar d digit, Option.bind_eq_bind, Option.bind_some]
  exact if_pos early

/-- The last digit of a code. -/
lemma step_lastDigit {n d : Nat} (digit : d < 16) (code : 16 * n + d = c.toNat) :
    step ⟨p, .coded s 3 n⟩ d.digitChar = some ⟨p, .text (s ++ [c])⟩ := by
  simp only [step, digitValue?_digitChar d digit, Option.bind_eq_bind, Option.bind_some, code,
    Char.ofNat_toNat]
  exact if_pos c.valid

/-- A control character is read back from its code. -/
lemma run_code (control : c.toNat < 0x20) :
    run ⟨p, .coded s 0 0⟩
        ('0' :: '0' :: (c.toNat / 16).digitChar :: (c.toNat % 16).digitChar :: rest) =
      run ⟨p, .text (s ++ [c])⟩ rest := by
  have zero : step ⟨p, .coded s 0 0⟩ '0' = some ⟨p, .coded s 1 0⟩ :=
    step_digit (d := 0) (by decide) (by decide)
  have zero' : step ⟨p, .coded s 1 0⟩ '0' = some ⟨p, .coded s 2 0⟩ :=
    step_digit (d := 0) (by decide) (by decide)
  rw [run_of_step zero, run_of_step zero', run_of_step (step_digit (by decide) (by omega)),
    run_of_step (step_lastDigit (c := c) (by omega) (by omega))]

/-- A character of a text is read as the one that was printed. -/
lemma run_jsonChar (c : Char) :
    run ⟨p, .text s⟩ ((ListingRow.jsonChar c).toList ++ rest) = run ⟨p, .text (s ++ [c])⟩ rest := by
  unfold ListingRow.jsonChar
  split
  · rfl
  · rfl
  · rfl
  · rfl
  · rfl
  · rfl
  · rfl
  · rename_i quote backslash _ _ _ _ _
    split
    · rename_i control
      simp only [String.toList_append, String.toList_ofList, padded_toDigits _ control]
      exact run_code control
    · rename_i shown
      have read : step ⟨p, .text s⟩ c = some ⟨p, .text (s ++ [c])⟩ := by
        rw [step, if_neg quote, if_neg backslash, if_neg shown]
      rw [Char.toString, String.toList_singleton]
      exact run_of_step read

/-- The characters of a text are read as those that were printed. -/
lemma run_jsonChars (cs : List Char) :
    run ⟨p, .text s⟩ ((String.join (cs.map ListingRow.jsonChar)).toList ++ rest) =
      run ⟨p, .text (s ++ cs)⟩ rest := by
  induction cs generalizing s with
  | nil => rw [List.append_nil]; rfl
  | cons c cs ih =>
    rw [List.map_cons, String.join_cons, String.toList_append, List.append_assoc, run_jsonChar, ih,
      List.append_assoc]
    rfl

/-- A text is read as the one that was printed, wherever a text may stand. -/
lemma run_jsonText (t : String) (h : p.text t = some q) :
    run ⟨p, .between⟩ ((ListingRow.jsonText t).toList ++ rest) = run ⟨q, .between⟩ rest := by
  have closed : step ⟨p, .text t.toList⟩ '"' = some ⟨q, .between⟩ := by
    rw [step, if_pos rfl, String.ofList_toList, h]
    rfl
  have opened : step ⟨p, .between⟩ '"' = some ⟨p, .text []⟩ := rfl
  have quote : "\"".toList = ['"'] := rfl
  rw [ListingRow.jsonText, String.toList_append, String.toList_append, quote, List.append_assoc,
    List.append_assoc, List.singleton_append, run_of_step opened, run_jsonChars]
  exact run_of_step closed

/-! ## Values -/

/-- A text denotes a value: it is read as this value in front of whatever does not go on with it. -/
def Denotes (t : String) (v : Json) : Prop :=
  ∀ fs c rest, c.isAlphanum = false →
    run ⟨.value fs, .between⟩ (t.toList ++ c :: rest) = run ⟨.behind fs v, .between⟩ (c :: rest)

/-- A word is read as a whole. -/
lemma run_word (h : ∀ c ∈ cs, c.isAlphanum = true) :
    run ⟨p, .word s⟩ (cs ++ rest) = run ⟨p, .word (s ++ cs)⟩ rest := by
  induction cs generalizing s with
  | nil => rw [List.append_nil]; rfl
  | cons c cs ih =>
    have read : step ⟨p, .word s⟩ c = some ⟨p, .word (s ++ [c])⟩ := by
      rw [step, if_pos (h c List.mem_cons_self)]
    rw [List.cons_append, run_of_step read, ih fun c m => h c (List.mem_cons_of_mem _ m),
      List.append_assoc]
    rfl

/-- A word denotes its value. -/
lemma denotes_word {t : String} {v : Json} (nonempty : t.toList ≠ [])
    (h : ∀ c ∈ t.toList, c.isAlphanum = true) (value : Place.ofWord? t.toList = some v) :
    Denotes t v := by
  intro fs d rest other
  cases chars : t.toList with
  | nil => exact absurd chars nonempty
  | cons c cs =>
    rw [chars] at h value
    have letter := h c List.mem_cons_self
    have unquoted : c ≠ '"' := by
      rintro rfl
      cases letter
    have opened : step ⟨.value fs, .between⟩ c = some ⟨.value fs, .word [c]⟩ := by
      rw [step, start, if_neg unquoted, if_pos letter]
    have closed : step ⟨.value fs, .word (c :: cs)⟩ d = step ⟨.behind fs v, .between⟩ d := by
      simp only [step, other, Place.word, value]
      rfl
    rw [List.cons_append, run_of_step opened, run_word fun c m => h c (List.mem_cons_of_mem _ m)]
    exact run_congr closed

/-- The word for nothing is read back. -/
lemma denotes_null : Denotes "null" .null :=
  denotes_word (by decide) (List.all_eq_true.1 rfl) rfl

/-- The digits of a number are read back. -/
lemma denotes_toString (n : Nat) : Denotes (toString n) (.number n) := by
  have chars : (toString n).toList = Nat.toDigits 10 n := by
    rw [Nat.toString_eq_ofList_toDigits, String.toList_ofList]
  have digits : ∀ c ∈ Nat.toDigits 10 n, c.isDigit = true := fun c m =>
    Nat.isDigit_of_mem_toDigits (by decide) (by decide) m
  apply denotes_word
  · rw [chars]
    exact Nat.toDigits_ne_nil
  · intro c m
    rw [chars] at m
    rw [Char.isAlphanum, digits c m, Bool.or_true]
  · have word : Nat.toDigits 10 n ≠ "null".toList := by
      intro e
      cases digits 'n' (e ▸ List.mem_cons_self)
    rw [chars, Place.ofWord?, if_neg word, Nat.ofDigitChars_ten_toDigits, if_pos rfl]

/-- A text is read back. -/
lemma denotes_jsonText (t : String) : Denotes (ListingRow.jsonText t) (.text t) :=
  fun _ _ _ _ => run_jsonText t rfl

/-- A text that may be missing is read back. -/
lemma denotes_jsonOptional (o : Option String) :
    Denotes (ListingRow.jsonOptional o) (o.elim .null .text) := by
  cases o with
  | none => exact denotes_null
  | some t => exact denotes_jsonText t

/-! ## Arrays and objects -/

/-- What is printed on lines of its own with commas between is read one after the other. -/
lemma run_separated {α : Type} (text : α → String) (before : List α → Place)
    (behind : List α → α → Place) (result : List α → Option Reader)
    (one : ∀ done x c rest, c.isAlphanum = false →
      run ⟨before done, .between⟩ ((text x).toList ++ c :: rest) =
        run ⟨behind done x, .between⟩ (c :: rest))
    (comma : ∀ done x, (behind done x).mark ',' = some (before (done ++ [x])))
    (other : c.isAlphanum = false)
    (last : ∀ done x, run ⟨behind done x, .between⟩ (c :: rest) = result (done ++ [x]))
    (x : α) (xs done : List α) :
    run ⟨before done, .between⟩ ((",\n".intercalate ((x :: xs).map text)).toList ++ c :: rest) =
      result (done ++ x :: xs) := by
  -- what has been read goes over to `done`
  induction xs generalizing x done with
  | nil =>
    rw [List.map_singleton, String.intercalate_singleton, one done x c rest other, last]
  | cons y ys ih =>
    have separator : ",\n".toList = [',', '\n'] := rfl
    have read : step ⟨behind done x, .between⟩ ',' = some ⟨before (done ++ [x]), .between⟩ :=
      congrArg (Option.map (Reader.mk · .between)) (comma done x)
    rw [List.map_cons, List.map_cons, String.intercalate_cons_cons, ← List.map_cons,
      String.toList_append, String.toList_append, separator, List.append_assoc, List.append_assoc,
      List.cons_append, List.singleton_append, one done x ',' _ rfl, run_of_step read,
      run_newline, ih y (done ++ [x]), List.append_assoc, List.singleton_append]

/-- A member of an object with the text of its value. -/
structure Member where
  name : String
  text : String
  value : Json
  denotes : Denotes text value

namespace Member

/-- The member as it is printed. -/
def line (m : Member) : String := "    " ++ ListingRow.jsonText m.name ++ ": " ++ m.text

/-- The name and the value. -/
def entry (m : Member) : String × Json := (m.name, m.value)

/-- A member is read as a name and a value. -/
lemma run_line (m : Member) {fs : List Frame} {before : List (String × Json)}
    (other : c.isAlphanum = false) :
    run ⟨.name fs before, .between⟩ (m.line.toList ++ c :: rest) =
      run ⟨.behind (.members before m.name :: fs) m.value, .between⟩ (c :: rest) := by
  have indent : "    ".toList = [' ', ' ', ' ', ' '] := rfl
  have colon : ": ".toList = [':', ' '] := rfl
  have named : Place.text (.name fs before) m.name = some (.named fs before m.name) := rfl
  have opened : step ⟨.named fs before m.name, .between⟩ ':' =
    some ⟨.value (.members before m.name :: fs), .between⟩ := rfl
  simp only [line, String.toList_append, List.append_assoc, indent, colon, List.cons_append,
    List.nil_append, run_space]
  rw [run_jsonText m.name named, run_of_step opened, run_space, m.denotes _ c rest other]

end Member

/-- Members between braces denote an object. -/
lemma denotes_object (m : Member) (ms : List Member) :
    Denotes ("\n".intercalate
        ["  \x7b", ",\n".intercalate ((m :: ms).map Member.line), "  \x7d"])
      (.object ((m :: ms).map Member.entry)) := by
  intro fs c rest _
  have opening : "  \x7b".toList = [' ', ' ', '\x7b'] := rfl
  have newline : "\n".toList = ['\n'] := rfl
  have closing : "  \x7d".toList = [' ', ' ', '\x7d'] := rfl
  have opened : step ⟨.value fs, .between⟩ '\x7b' = some ⟨.name fs [], .between⟩ := rfl
  simp only [String.intercalate_cons_cons, String.intercalate_singleton, String.toList_append,
    List.append_assoc, opening, newline, closing, List.cons_append, List.nil_append, run_space,
    run_newline, run_of_step opened]
  refine run_separated Member.line (fun done => .name fs (done.map Member.entry))
    (fun done m => .behind (.members (done.map Member.entry) m.name :: fs) m.value)
    (fun done => run ⟨.behind fs (.object (done.map Member.entry)), .between⟩ (c :: rest))
    (fun _ m _ _ other => m.run_line other) ?_ rfl ?_ m ms []
  · intro done m
    rw [List.map_append]
    rfl
  · intro done m
    rw [List.map_append]
    rfl

/-- Values between brackets denote an array. -/
lemma denotes_array {α : Type} {text : α → String} {value : α → Json}
    (denotes : ∀ x, Denotes (text x) (value x)) (x : α) (xs : List α) :
    Denotes ("[\n" ++ ",\n".intercalate ((x :: xs).map text) ++ "\n]")
      (.array ((x :: xs).map value)) := by
  intro fs c rest _
  have opening : "[\n".toList = ['[', '\n'] := rfl
  have closing : "\n]".toList = ['\n', ']'] := rfl
  have opened : step ⟨.value fs, .between⟩ '[' = some ⟨.value (.items [] :: fs), .between⟩ := rfl
  simp only [String.toList_append, List.append_assoc, opening, closing, List.cons_append,
    List.nil_append, run_newline, run_of_step opened]
  refine run_separated text (fun done => .value (.items (done.map value) :: fs))
    (fun done x => .behind (.items (done.map value) :: fs) (value x))
    (fun done => run ⟨.behind fs (.array (done.map value)), .between⟩ (c :: rest))
    (fun _ x _ _ other => denotes x _ _ _ other) ?_ rfl ?_ x xs []
  · intro done x
    rw [List.map_append]
    rfl
  · intro done x
    rw [List.map_append]
    rfl

/-- A text that denotes a value is read as this value. -/
lemma Denotes.read {t : String} {v : Json} (h : Denotes t v) : read t = some v := by
  rw [Json.read, h [] ' ' [] rfl]
  rfl

end Json

namespace ListingRow

open Json

/-- A row as a line of text has its names and its command line, with two spaces between. -/
lemma text_eq (r : ListingRow) :
    r.text = r.experiment ++ "  " ++ r.machine ++ "  " ++ r.suite ++ "  " ++ r.benchmark ++ "  " ++
      r.cmdline := by
  simp only [text, String.intercalate_cons_cons, String.intercalate_singleton, String.append_assoc]

/-- A row denotes an object with all of its fields. -/
lemma denotes_jsonLines (r : ListingRow) :
    Denotes ("\n".intercalate r.jsonLines) (.object
      [("experiment", .text r.experiment), ("vm", .text r.machine), ("suite", .text r.suite),
        ("benchmark", .text r.benchmark), ("extra_args", r.extraArgs.elim .null .text),
        ("invocations", .number r.invocations.toNat), ("iterations", .number r.iterations.toNat),
        ("data_file", r.dataFile.elim .null .text), ("cmdline", .text r.cmdline)]) :=
  denotes_object ⟨"experiment", _, _, denotes_jsonText r.experiment⟩
    [⟨"vm", _, _, denotes_jsonText r.machine⟩, ⟨"suite", _, _, denotes_jsonText r.suite⟩,
      ⟨"benchmark", _, _, denotes_jsonText r.benchmark⟩,
      ⟨"extra_args", _, _, denotes_jsonOptional r.extraArgs⟩,
      ⟨"invocations", _, _, denotes_toString r.invocations.toNat⟩,
      ⟨"iterations", _, _, denotes_toString r.iterations.toNat⟩,
      ⟨"data_file", _, _, denotes_jsonOptional r.dataFile⟩,
      ⟨"cmdline", _, _, denotes_jsonText r.cmdline⟩]

/-- The document of a listing says its rows in their order, each with all of its fields. -/
lemma read_json (rows : List ListingRow) :
    Json.read (json rows) = some (.array (rows.map fun r => .object
      [("experiment", .text r.experiment), ("vm", .text r.machine), ("suite", .text r.suite),
        ("benchmark", .text r.benchmark), ("extra_args", r.extraArgs.elim .null .text),
        ("invocations", .number r.invocations.toNat), ("iterations", .number r.iterations.toNat),
        ("data_file", r.dataFile.elim .null .text), ("cmdline", .text r.cmdline)])) := by
  cases rows with
  | nil => rfl
  | cons r rows => exact (denotes_array denotes_jsonLines r rows).read

/-- Nothing that may be missing is confused with a text. -/
lemma optional_injective :
    Function.Injective fun o : Option String => o.elim Json.null Json.text := by
  intro o o' same
  cases o with
  | none =>
    cases o' with
    | none => rfl
    | some t => cases same
  | some t =>
    cases o' with
    | none => cases same
    | some t' => exact congrArg some (Json.text.inj same)

/-- Listings that are printed alike have the same rows. -/
lemma json_injective : Function.Injective json := by
  intro rows rows' same
  have read := read_json rows
  rw [same, read_json] at read
  refine List.map_injective_iff.2 ?_ (Json.array.inj (Option.some.inj read)).symm
  intro r r' fields
  obtain ⟨_, _, _, _, _, _, _, _, _⟩ := r
  obtain ⟨_, _, _, _, _, _, _, _, _⟩ := r'
  simp only [Json.object.injEq, List.cons.injEq, Prod.mk.injEq, Json.text.injEq,
    Json.number.injEq, UInt32.toNat_inj, optional_injective.eq_iff, true_and, and_true] at fields
  rwa [ListingRow.mk.injEq]

end ListingRow

end BenchPlan
