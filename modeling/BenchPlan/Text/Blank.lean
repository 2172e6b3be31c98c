import BenchPlan.Text.Ranges

/-!
# Blank text

White space in the sense of the Unicode property `White_Space`. Main statements: the characters
that core counts as white space are among it (`isBlank_of_isWhitespace`), and a text trimmed at its
end does not end in a blank (`getLast?_trimEndChars`).
-/

namespace BenchPlan.Text

/-- The characters of the property `White_Space`. -/
def blankRanges : Ranges := [
   (0x9, 0xD), (0x20, 0x20), (0x85, 0x85), (0xA0, 0xA0), (0x1680, 0x1680), (0x2000, 0x200A),
   (0x2028, 0x2029), (0x202F, 0x202F), (0x205F, 0x205F), (0x3000, 0x3000)]

/-- Whether a character is white space. -/
def isBlank (c : Char) : Bool := blankRanges.holds c.toNat

/-- Whether a text has no character but white space. -/
def isBlankText (s : String) : Bool := s.toList.all isBlank

/-- The characters without the white space at the end. -/
def trimEndChars (cs : List Char) : List Char := (cs.reverse.dropWhile isBlank).reverse

/-- The text without the white space at its end. -/
def trimEnd (s : String) : String := String.ofList (trimEndChars s.toList)

/-- White space in ASCII is blank. -/
theorem isBlank_of_isWhitespace {c : Char} (h : c.isWhitespace) : isBlank c := by
  simp only [Char.isWhitespace, Bool.or_eq_true, decide_eq_true_eq] at h
  obtain ((rfl | rfl) | rfl) | rfl := h <;> decide

/-- What is left of a trimmed text does not end in white space. -/
theorem getLast?_trimEndChars {cs : List Char} {c : Char}
    (h : (trimEndChars cs).getLast? = some c) : isBlank c = false := by
  rw [trimEndChars, List.getLast?_reverse] at h
  have := List.head?_dropWhile_not isBlank cs.reverse
  rw [h] at this
  simpa using this

end BenchPlan.Text
