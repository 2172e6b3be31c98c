import BenchPlan.Text.Utf8
import Mathlib.Data.List.Infix

/-!
# ASCII in bytes that are read as text

However broken bytes are, the ASCII ones among them are read as themselves and nothing else is read
as ASCII. `KeepsAscii` says this of bytes and a text, part by part; `step` reads one part
(`step_of_lt`, `step_of_le`), so all that is read is like this (`keepsAscii_decodeLossy`), and what
is read from two lots of bytes can be joined (`KeepsAscii.append`). It follows that a phrase in ASCII
is found in the text exactly where its bytes are found (`KeepsAscii.infix_iff`).
-/

namespace BenchPlan.Text

/-- The bytes of a text in UTF-8. -/
def bytesOf (s : String) : List UInt8 := s.toUTF8.data.toList

/-- A phrase in ASCII. -/
def IsAscii (phrase : List Char) : Prop := ∀ c ∈ phrase, c.toNat < 0x80

instance (phrase : List Char) : Decidable (IsAscii phrase) :=
  decidable_of_iff (phrase.all fun c => c.toNat < 0x80) (by simp [IsAscii])

/-- The byte of a character in ASCII. -/
def asciiByte (c : Char) : UInt8 := UInt8.ofNat c.toNat

/-- The parts of bytes are read as the characters of a text: a byte in ASCII as its character, and a
part without ASCII as one character outside of it. -/
inductive KeepsAscii : List UInt8 → List Char → Prop where
  | nil : KeepsAscii [] []
  | ascii {a : UInt8} {bytes : List UInt8} {text : List Char} (below : a < 0x80)
      (rest : KeepsAscii bytes text) : KeepsAscii (a :: bytes) (Char.ofNat a.toNat :: text)
  | other {a : UInt8} {more bytes : List UInt8} {c : Char} {text : List Char}
      (above : ∀ b ∈ a :: more, 0x80 ≤ b) (outside : 0x80 ≤ c.toNat)
      (rest : KeepsAscii bytes text) : KeepsAscii (a :: more ++ bytes) (c :: text)

/-! ## Phrases in ASCII -/

section ascii

variable {c : Char} {phrase : List Char}

/-- A phrase is in ASCII if its first character and the rest of it are. -/
lemma isAscii_cons : IsAscii (c :: phrase) ↔ c.toNat < 0x80 ∧ IsAscii phrase :=
  List.forall_mem_cons

/-- A valid code point is that of its character. -/
lemma toNat_ofNat_of_valid {n : Nat} (valid : n.isValidChar) : (Char.ofNat n).toNat = n := by
  rw [Char.ofNat, dif_pos valid]
  rfl

/-- The byte of an ASCII character is its code point. -/
lemma toNat_asciiByte (below : c.toNat < 0x80) : (asciiByte c).toNat = c.toNat :=
  UInt8.toNat_ofNat_of_lt (by simp only [UInt8.size]; omega)

/-- A phrase in ASCII is encoded by one byte for each character. -/
lemma flatMap_utf8EncodeChar (ascii : IsAscii phrase) :
    phrase.flatMap String.utf8EncodeChar = phrase.map asciiByte := by
  induction phrase with
  | nil => rfl
  | cons c phrase ih =>
    obtain ⟨below, ascii⟩ := isAscii_cons.1 ascii
    have single : String.utf8EncodeChar c = [asciiByte c] :=
      if_pos (show c.toNat ≤ 127 by omega)
    rw [List.flatMap_cons, single, ih ascii]
    rfl

/-- A text in ASCII has one byte for each character. -/
lemma bytesOf_eq_map {s : String} (ascii : IsAscii s.toList) :
    bytesOf s = s.toList.map asciiByte := by
  rw [bytesOf, String.toUTF8_eq_toByteArray, ← String.utf8Encode_toList, List.utf8Encode,
    flatMap_utf8EncodeChar ascii]
  simp

/-- A byte in ASCII is that of a character exactly if the character is read from it. -/
lemma asciiByte_eq_iff {a : UInt8} (inside : c.toNat < 0x80) (below : a < 0x80) :
    asciiByte c = a ↔ c = Char.ofNat a.toNat := by
  constructor
  · rintro rfl
    rw [toNat_asciiByte inside, Char.ofNat_toNat]
  · rintro rfl
    have small : a.toNat < 0x80 := below
    have valid : a.toNat.isValidChar := .inl (by omega)
    rw [asciiByte, toNat_ofNat_of_valid valid, UInt8.ofNat_toNat]

/-- The byte of an ASCII character is none from beyond. -/
lemma asciiByte_ne {a : UInt8} (inside : c.toNat < 0x80) (above : 0x80 ≤ a) : asciiByte c ≠ a := by
  rintro rfl
  have large : 0x80 ≤ (asciiByte c).toNat := above
  rw [toNat_asciiByte inside] at large
  omega

end ascii

/-! ## One step of reading

The numbers that are put together from two, three and four bytes are above ASCII and valid: those
that could have been written in fewer bytes, surrogates and those out of range are ruled out by what
the second byte may be.
-/

section step

variable {a b c d : UInt8} {rest : List UInt8}

/-- A code point beyond ASCII is that of a character beyond ASCII. -/
lemma le_toNat_ofNat {n : Nat} (above : 0x80 ≤ n) (valid : n.isValidChar) :
    0x80 ≤ (Char.ofNat n).toNat := by
  rwa [toNat_ofNat_of_valid valid]

/-- A byte that goes on with a character holds six bits of it. -/
lemma tailBits_lt : tailBits b < 64 := Nat.mod_lt _ (by decide)

/-- A byte that goes on with a character is beyond ASCII. -/
lemma le_of_isTail (tail : isTail b = true) : 0x80 ≤ b := by
  simp only [isTail, Bool.and_eq_true, decide_eq_true_eq] at tail
  exact tail.1

/-- A second byte of three is a tail byte that rules out short numbers and surrogates. -/
lemma bounds_of_secondOfThree (second : secondOfThree a b = true) :
    0x80 ≤ b.toNat ∧ b.toNat ≤ 0xBF ∧ (a.toNat = 0xE0 → 0xA0 ≤ b.toNat) ∧
      (a.toNat = 0xED → b.toNat ≤ 0x9F) := by
  simp only [secondOfThree, isTail, ← UInt8.toNat_inj] at second
  split_ifs at second <;>
    simp only [Bool.and_eq_true, decide_eq_true_eq, UInt8.le_iff_toNat_le, UInt8.reduceToNat]
      at * <;> omega

/-- A second byte of four is a tail byte that rules out short numbers and those too large. -/
lemma bounds_of_secondOfFour (second : secondOfFour a b = true) :
    0x80 ≤ b.toNat ∧ b.toNat ≤ 0xBF ∧ (a.toNat = 0xF0 → 0x90 ≤ b.toNat) ∧
      (a.toNat = 0xF4 → b.toNat ≤ 0x8F) := by
  simp only [secondOfFour, isTail, ← UInt8.toNat_inj] at second
  split_ifs at second <;>
    simp only [Bool.and_eq_true, decide_eq_true_eq, UInt8.le_iff_toNat_le, UInt8.reduceToNat]
      at * <;> omega

/-- The second of three bytes is beyond ASCII. -/
lemma le_of_secondOfThree (second : secondOfThree a b = true) : 0x80 ≤ b :=
  (bounds_of_secondOfThree second).1

/-- The second of four bytes is beyond ASCII. -/
lemma le_of_secondOfFour (second : secondOfFour a b = true) : 0x80 ≤ b :=
  (bounds_of_secondOfFour second).1

/-- Two bytes decode to a character beyond ASCII. -/
lemma le_of_two (lead : (0xC2 ≤ a && a ≤ 0xDF) = true) :
    0x80 ≤ (Char.ofNat (a.toNat % 32 * 64 + tailBits b)).toNat := by
  simp only [Bool.and_eq_true, decide_eq_true_eq, UInt8.le_iff_toNat_le, UInt8.reduceToNat] at lead
  have low := @tailBits_lt b
  exact le_toNat_ofNat (by omega) (.inl (by omega))

/-- Three bytes decode to a character beyond ASCII. -/
lemma le_of_three (lead : (0xE0 ≤ a && a ≤ 0xEF) = true) (second : secondOfThree a b = true) :
    0x80 ≤ (Char.ofNat (a.toNat % 16 * 4096 + tailBits b * 64 + tailBits c)).toNat := by
  simp only [Bool.and_eq_true, decide_eq_true_eq, UInt8.le_iff_toNat_le, UInt8.reduceToNat] at lead
  obtain ⟨tail, last, long, noSurrogate⟩ := bounds_of_secondOfThree second
  have low := @tailBits_lt c
  have middle : tailBits b = b.toNat - 0x80 := by rw [tailBits]; omega
  refine le_toNat_ofNat (by omega) ?_
  rcases Nat.lt_or_ge a.toNat 0xEE with before | after
  · exact .inl (by omega)
  · exact .inr ⟨by omega, by omega⟩

/-- Four bytes decode to a character beyond ASCII. -/
lemma le_of_four (lead : (0xF0 ≤ a && a ≤ 0xF4) = true) (second : secondOfFour a b = true) :
    0x80 ≤ (Char.ofNat (a.toNat % 8 * 262144 + tailBits b * 4096 + tailBits c * 64 +
      tailBits d)).toNat := by
  simp only [Bool.and_eq_true, decide_eq_true_eq, UInt8.le_iff_toNat_le, UInt8.reduceToNat] at lead
  obtain ⟨tail, last, long, inRange⟩ := bounds_of_secondOfFour second
  have low := @tailBits_lt c
  have lowest := @tailBits_lt d
  have middle : tailBits b = b.toNat - 0x80 := by rw [tailBits]; omega
  exact le_toNat_ofNat (by omega) (.inr ⟨by omega, by omega⟩)

/-- What is read is a character above ASCII, and takes no ASCII with it. -/
structure Outside (rest : List UInt8) (read : Char × Nat) : Prop where
  char : 0x80 ≤ read.1.toNat
  taken : ∀ b ∈ rest.take read.2, 0x80 ≤ b

/-- A replacement for bytes beyond ASCII is outside of it. -/
lemma Outside.broken {n : Nat} (taken : ∀ b ∈ rest.take n, 0x80 ≤ b) :
    Outside rest (replacement, n) :=
  ⟨show 0x80 ≤ replacement.toNat by decide, taken⟩

/-- An ASCII byte is decoded alone. -/
lemma step_of_lt (below : a < 0x80) : step a rest = (Char.ofNat a.toNat, 0) := by
  rw [step.eq_def, if_pos below]

/-- What is read from a byte on that is not ASCII has no ASCII in it. -/
lemma step_of_le (above : 0x80 ≤ a) : Outside rest (step a rest) := by
  fun_cases step a rest
  case case1 below => exact absurd below (UInt8.not_lt.2 above)
  case case2 lead b more tail =>
    exact ⟨le_of_two lead, by simpa using le_of_isTail tail⟩
  case case5 lead b second c more tail =>
    exact ⟨le_of_three lead second,
      by simpa using ⟨le_of_secondOfThree second, le_of_isTail tail⟩⟩
  case case10 lead b second c tail d more tail' =>
    exact ⟨le_of_four lead second,
      by simpa using ⟨le_of_secondOfFour second, le_of_isTail tail, le_of_isTail tail'⟩⟩
  -- what is left is broken off before a byte that does not go on with the character
  all_goals
    exact .broken (by grind [le_of_secondOfThree, le_of_secondOfFour, le_of_isTail])

end step

/-! ## Reading all bytes -/

/-- Decoding takes one step and goes on behind it. -/
lemma decodeLossy_cons (a : UInt8) (rest : List UInt8) :
    decodeLossy (a :: rest) = (step a rest).1 :: decodeLossy (rest.drop (step a rest).2) := by
  rw [decodeLossy]

/-- All bytes are read like this, since each step is. -/
lemma keepsAscii_decodeLossy (bytes : List UInt8) : KeepsAscii bytes (decodeLossy bytes) := by
  induction bytes using decodeLossy.induct with
  | case1 => rw [decodeLossy]; exact .nil
  | case2 a rest ih =>
    rw [decodeLossy_cons]
    by_cases below : a < 0x80
    · rw [step_of_lt below] at ih ⊢
      exact .ascii below ih
    · -- the part is the byte and what the step takes along
      have above : 0x80 ≤ a := UInt8.not_lt.1 below
      have ⟨outside, taken⟩ : Outside rest (step a rest) := step_of_le above
      have read := KeepsAscii.other (List.forall_mem_cons.2 ⟨above, taken⟩) outside ih
      rwa [List.cons_append, List.take_append_drop] at read

namespace KeepsAscii

variable {bytes bytes' : List UInt8} {text text' : List Char} {phrase : List Char}

/-- What keeps the phrases in ASCII still does with more behind it that does. -/
lemma append (first : KeepsAscii bytes text) (second : KeepsAscii bytes' text') :
    KeepsAscii (bytes ++ bytes') (text ++ text') := by
  induction first with
  | nil => exact second
  | ascii below _ ih => exact .ascii below ih
  | other above outside _ ih =>
    rw [List.append_assoc]
    exact .other above outside ih

/-- The text begins with a phrase in ASCII exactly if the bytes begin with its bytes. -/
lemma prefix_iff (kept : KeepsAscii bytes text) (ascii : IsAscii phrase) :
    phrase.map asciiByte <+: bytes ↔ phrase <+: text := by
  induction kept generalizing phrase with
  | nil => simp
  | @ascii a bytes text below _ ih =>
    cases phrase with
    | nil => simp
    | cons c phrase =>
      obtain ⟨inside, ascii⟩ := isAscii_cons.1 ascii
      rw [List.map_cons, List.cons_prefix_cons, List.cons_prefix_cons,
        asciiByte_eq_iff inside below, ih ascii]
  | @other a more bytes c' text above outside _ _ =>
    cases phrase with
    | nil => simp
    | cons c phrase =>
      obtain ⟨inside, -⟩ := isAscii_cons.1 ascii
      have byte : asciiByte c ≠ a := asciiByte_ne inside (above a List.mem_cons_self)
      have char : c ≠ c' := by rintro rfl; omega
      rw [List.map_cons, List.cons_append, List.cons_prefix_cons, List.cons_prefix_cons]
      exact iff_of_false (fun h => byte h.1) (fun h => char h.1)

end KeepsAscii

/-- The bytes of a phrase are not found across bytes that are not ASCII. -/
lemma infix_append_iff {c : Char} {phrase : List Char} {part bytes : List UInt8}
    (inside : c.toNat < 0x80) (above : ∀ b ∈ part, 0x80 ≤ b) :
    (c :: phrase).map asciiByte <:+: part ++ bytes ↔
      (c :: phrase).map asciiByte <:+: bytes := by
  induction part with
  | nil => rfl
  | cons b part ih =>
    obtain ⟨aboveB, above⟩ := List.forall_mem_cons.1 above
    have begins : ¬ (c :: phrase).map asciiByte <+: b :: (part ++ bytes) := by
      rw [List.map_cons, List.cons_prefix_cons]
      exact fun h => asciiByte_ne inside aboveB h.1
    rw [List.cons_append, List.infix_cons_iff, or_iff_right begins, ih above]

/-- A phrase in ASCII is in the text exactly if its bytes are in the bytes. -/
theorem KeepsAscii.infix_iff {bytes : List UInt8} {text phrase : List Char}
    (kept : KeepsAscii bytes text) (ascii : IsAscii phrase) :
    phrase.map asciiByte <:+: bytes ↔ phrase <:+: text := by
  induction kept with
  | nil => simp
  | @ascii a bytes text below rest ih =>
    rw [List.infix_cons_iff, List.infix_cons_iff, ih,
      (KeepsAscii.ascii below rest).prefix_iff ascii]
  | @other a more bytes c' text above outside rest ih =>
    cases phrase with
    | nil => simp
    | cons c phrase =>
      obtain ⟨inside, -⟩ := isAscii_cons.1 ascii
      have begins : ¬ c :: phrase <+: c' :: text := by
        rw [List.cons_prefix_cons]
        rintro ⟨rfl, -⟩
        omega
      rw [infix_append_iff inside above, ih, List.infix_cons_iff, or_iff_right begins]

end BenchPlan.Text
