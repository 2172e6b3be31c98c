import BenchPlan.Niceness
import BenchPlan.Proofs.Decoding

/-!
# Complaints in the output of `nice`

The answer is read off two streams of bytes that are made into text one by one and joined. The text
keeps the ASCII of both streams (`keepsAscii_outputText`), and the complaints are in ASCII, so they
can as well be looked for in the bytes of the one stream followed by those of the other
(`allowed_iff_bytes`).
-/

namespace BenchPlan.Niceness

open Text

/-! ## Looking for a phrase -/

/-- The search finds what is an infix. -/
lemma occursIn_iff {α : Type} [DecidableEq α] {needle xs : List α} :
    occursIn needle xs = true ↔ needle <:+: xs := by
  induction xs with
  | nil => rw [occursIn, List.isEmpty_iff, List.infix_nil]
  | cons c rest ih =>
    rw [occursIn, Bool.or_eq_true, List.isPrefixOf_iff_prefix, ih, List.infix_cons_iff]

/-- An output is clean if none of the complaints occurs in it. -/
lemma isClean_iff {output : List Char} :
    isClean output = true ↔ ∀ c ∈ complaints, occursIn c.toList output = false := by
  simp only [isClean, List.all_eq_true, Bool.not_eq_true']

/-- The complaints are in ASCII. -/
lemma isAscii_of_mem_complaints : ∀ c ∈ complaints, IsAscii c.toList := by decide

/-! ## The joined output -/

section output

variable {stdout stderr : List UInt8}

/-- The joined text keeps the ASCII of the joined streams. -/
lemma keepsAscii_outputText (stdout stderr : List UInt8) :
    KeepsAscii (stdout ++ stderr) (outputText stdout stderr) :=
  (keepsAscii_decodeLossy stdout).append (keepsAscii_decodeLossy stderr)

/-- A phrase in ASCII occurs in the text exactly if its bytes occur in the bytes. -/
lemma occursIn_outputText_iff {phrase : String} (ascii : IsAscii phrase.toList) :
    occursIn phrase.toList (outputText stdout stderr) = true ↔
      bytesOf phrase <:+: stdout ++ stderr := by
  rw [occursIn_iff, bytesOf_eq_map ascii, (keepsAscii_outputText stdout stderr).infix_iff ascii]

/-- The text is clean exactly if the bytes of no complaint occur in the bytes. -/
lemma isClean_outputText_iff :
    isClean (outputText stdout stderr) = true ↔
      ∀ c ∈ complaints, ¬ bytesOf c <:+: stdout ++ stderr := by
  rw [isClean_iff]
  refine forall₂_congr fun c mem => ?_
  rw [← occursIn_outputText_iff (isAscii_of_mem_complaints c mem), Bool.not_eq_true]

end output

/-! ## The answer -/

/-- High priority may be given exactly if the command was started, ended with the code `0`, and did
not write the bytes of a complaint. To read the two streams as text and to join them makes no
difference to where a phrase in ASCII occurs, however broken the bytes are. -/
theorem allowed_iff_bytes :
    (∀ r : Report, allowed r = true ↔
      ∃ stdout stderr, r = .finished stdout stderr (.exited 0) ∧
        ¬ bytesOf "cannot set niceness" <:+: stdout ++ stderr ∧
        ¬ bytesOf "Permission denied" <:+: stdout ++ stderr) ∧
    ∀ (stdout stderr : List UInt8) (phrase : String), IsAscii phrase.toList →
      (occursIn phrase.toList (outputText stdout stderr) = true ↔
        bytesOf phrase <:+: stdout ++ stderr) := by
  refine ⟨fun r => ?_, fun stdout stderr phrase ascii => occursIn_outputText_iff ascii⟩
  cases r with
  | notStarted reason => simp [allowed]
  | finished stdout stderr ending =>
    rw [allowed, Bool.and_eq_true, beq_iff_eq, isClean_outputText_iff]
    simp only [complaints, List.forall_mem_cons, List.not_mem_nil, false_implies, implies_true,
      and_true]
    constructor
    · rintro ⟨rfl, first, second⟩
      exact ⟨stdout, stderr, rfl, first, second⟩
    · rintro ⟨_, _, same, first, second⟩
      cases same
      exact ⟨rfl, first, second⟩

/-- An output with a complaint that goes over from one stream to the other, next to characters that
are broken off. -/
def demoComplaint : List UInt8 × List UInt8 :=
  ([0xE2, 0x82] ++ bytesOf "Permission", bytesOf " denied" ++ [0xF0, 0x9F])

/-- The same with a character that is broken off in the middle. -/
def demoBrokenComplaint : List UInt8 × List UInt8 :=
  (bytesOf "Permission" ++ [0xE2, 0x82], bytesOf " denied")

/-- A complaint in the error output is found, and one with a broken byte inside is not. -/
theorem allowed_iff_bytes_demo :
    IsAscii "Permission denied".toList ∧
      occursIn "Permission denied".toList (outputText demoComplaint.1 demoComplaint.2) = true ∧
      allowed (.finished demoComplaint.1 demoComplaint.2 (.exited 0)) = false ∧
      allowed (.finished demoBrokenComplaint.1 demoBrokenComplaint.2 (.exited 0)) = true := by
  have ascii : IsAscii "Permission denied".toList := by decide
  have found : bytesOf "Permission denied" <:+: demoComplaint.1 ++ demoComplaint.2 :=
    ⟨[0xE2, 0x82], [0xF0, 0x9F], by decide⟩
  refine ⟨ascii, (allowed_iff_bytes.2 _ _ _ ascii).2 found, ?_,
    (allowed_iff_bytes.1 _).2 ⟨_, _, rfl, by decide, by decide⟩⟩
  rw [← Bool.not_eq_true, allowed_iff_bytes.1]
  rintro ⟨_, _, same, -, absent⟩
  cases same
  exact absent found

end BenchPlan.Niceness
