import BenchPlan.Proofs.Representable
import BenchPlan.Proofs.Spelling

/-!
# Numbers written in digits

A plain scalar is read as a number if it is written like one. An integer in decimal digits is read
back (`ofPlain_digits`), and so is every floating point number with all of its decimal digits and
an exponent (`ofPlain_exactText`): the exponent keeps it from being read as an integer, and since
the decimal is equal to the number, nothing is rounded.
-/

namespace BenchPlan

open Text (digitValue?)

namespace Yaml.Scalar

variable {cs : List Char} {c : Char} {base n : Nat}

/-! ## Digits -/

/-- A decimal digit has its value. -/
lemma digitValue?_of_isDigit (h : c.isDigit = true) :
    digitValue? c = some (c.toNat - '0'.toNat) :=
  if_pos h

/-- A decimal digit is less than ten. -/
lemma toNat_of_isDigit (h : c.isDigit = true) : c.toNat - '0'.toNat < 10 := by
  have high : c.toNat ≤ 57 := by
    have bounds := Bool.and_eq_true_iff.1 h
    exact UInt32.le_iff_toNat_le.1 (of_decide_eq_true bounds.2)
  have zero : '0'.toNat = 48 := rfl
  omega

/-- The number that one more digit makes. -/
def withDigit (base : Nat) (n : Option Nat) (c : Char) : Option Nat := do
  let d ← digitValue? c
  if d < base then return (← n) * base + d else none

/-- A number is read digit by digit. -/
lemma natural?_eq_foldl (nonempty : cs ≠ []) :
    natural? base cs = cs.foldl (withDigit base) (some 0) := by
  cases cs with
  | nil => exact absurd rfl nonempty
  | cons c cs => rfl

/-- Decimal digits make the number that they write. -/
lemma foldl_withDigit_of_digits (digits : ∀ c ∈ cs, c.isDigit = true) (n : Nat) :
    cs.foldl (withDigit 10) (some n) = some (Nat.ofDigitChars 10 cs n) := by
  induction cs generalizing n with
  | nil => rfl
  | cons c cs ih =>
    have digit := digits c List.mem_cons_self
    have step : withDigit 10 (some n) c = some (10 * n + (c.toNat - '0'.toNat)) := by
      rw [withDigit, digitValue?_of_isDigit digit, Nat.mul_comm]
      exact if_pos (toNat_of_isDigit digit)
    rw [List.foldl_cons, step, ih fun c m => digits c (List.mem_cons_of_mem _ m),
      Nat.ofDigitChars_cons]

/-- The digits of a number are decimal. -/
lemma isDigit_of_mem_toDigits (m : c ∈ Nat.toDigits 10 n) : c.isDigit = true :=
  Nat.isDigit_of_mem_toDigits (by decide) (by decide) m

/-- Decimal digits write the number that has them. -/
lemma natural?_toDigits (n : Nat) : natural? 10 (Nat.toDigits 10 n) = some n := by
  rw [natural?_eq_foldl Nat.toDigits_ne_nil,
    foldl_withDigit_of_digits fun _ => isDigit_of_mem_toDigits, Nat.ofDigitChars_ten_toDigits]

/-- No digit makes a number of what is none. -/
lemma withDigit_none (base : Nat) (c : Char) : withDigit base none c = none := by
  unfold withDigit
  cases digitValue? c with
  | none => rfl
  | some d => exact ite_self _

/-- No number is written with a character that is no digit. -/
lemma natural?_eq_none (m : c ∈ cs) (h : ∀ d, digitValue? c = some d → base ≤ d) :
    natural? base cs = none := by
  have dead : ∀ cs : List Char, cs.foldl (withDigit base) none = none := by
    intro cs
    induction cs with
    | nil => rfl
    | cons c cs ih => rw [List.foldl_cons, withDigit_none, ih]
  have fatal : ∀ n, withDigit base n c = none := by
    intro n
    unfold withDigit
    cases value : digitValue? c with
    | none => rfl
    | some d => exact if_neg (not_lt.2 (h d value))
  obtain ⟨before, after, rfl⟩ := List.append_of_mem m
  rw [natural?_eq_foldl (List.append_ne_nil_of_right_ne_nil _ (List.cons_ne_nil _ _)),
    List.foldl_append, List.foldl_cons, fatal, dead]

/-- A positive number does not begin with a zero. -/
lemma head?_toDigits_ne_zero (pos : 0 < n) : (Nat.toDigits 10 n).head? ≠ some '0' := by
  induction n using Nat.strongRecOn with
  | ind n ih =>
    by_cases small : n < 10
    · have digit : ∀ k : Fin 10, 0 < k.val → [k.val.digitChar].head? ≠ some '0' := by decide
      rw [Nat.toDigits_of_lt_base small]
      exact digit ⟨n, small⟩ pos
    · rw [Nat.toDigits_of_base_le (by decide) (not_lt.1 small),
        List.head?_append_of_ne_nil _ Nat.toDigits_ne_nil]
      exact ih (n / 10) (by omega) (by omega)

/-- Digits are not padded if the first of them is not a zero. -/
lemma isZeroPadded_of_head (digit : c.isDigit = true) (nonzero : c ≠ '0') :
    isZeroPadded (c :: cs) = false := by
  have sign : isSign c = false := by
    rw [isSign, Bool.or_eq_false_iff, beq_eq_false_iff_ne, beq_eq_false_iff_ne]
    constructor
    · rintro rfl
      cases digit
    · rintro rfl
      cases digit
  simp [isZeroPadded, sign, nonzero]

/-- The digits of a number are not padded. -/
lemma isZeroPadded_toDigits (n : Nat) : isZeroPadded (Nat.toDigits 10 n) = false := by
  cases n with
  | zero => rfl
  | succ n =>
    have head := head?_toDigits_ne_zero (Nat.succ_pos n)
    have digits : ∀ c ∈ Nat.toDigits 10 (n + 1), c.isDigit = true :=
      fun _ => isDigit_of_mem_toDigits
    cases chars : Nat.toDigits 10 (n + 1) with
    | nil => rfl
    | cons c cs =>
      rw [chars] at head digits
      refine isZeroPadded_of_head (digits c List.mem_cons_self) ?_
      rintro rfl
      exact head rfl

/-! ## Integers -/

/-- Digits without a mark for their base are decimal. -/
lemma unsigned?_eq (unmarked : ∀ d ∈ cs, d ≠ 'x' ∧ d ≠ 'o' ∧ d ≠ 'b') :
    unsigned? cs = if isZeroPadded cs then none else natural? 10 cs := by
  unfold unsigned?
  split
  · exact absurd rfl (unmarked 'x' (by simp)).1
  · exact absurd rfl (unmarked 'o' (by simp)).2.1
  · exact absurd rfl (unmarked 'b' (by simp)).2.2
  · rfl

/-- A decimal digit is none of the letters for a base. -/
lemma unmarked_of_isDigit (digit : c.isDigit = true) : c ≠ 'x' ∧ c ≠ 'o' ∧ c ≠ 'b' := by
  refine ⟨?_, ?_, ?_⟩ <;>
  · rintro rfl
    cases digit

/-- The digits of a number are read back. -/
lemma unsigned?_toDigits (n : Nat) : unsigned? (Nat.toDigits 10 n) = some n := by
  rw [unsigned?_eq fun _ m => unmarked_of_isDigit (isDigit_of_mem_toDigits m),
    isZeroPadded_toDigits, natural?_toDigits]
  rfl

/-- A text without a plus sign is read as it is. -/
lemma positive?_eq (unsigned : cs.head? ≠ some '+') : positive? cs = unsigned? cs := by
  unfold positive?
  split
  · exact absurd rfl unsigned
  · rfl

/-- The digits of a natural number are read as this integer. -/
lemma integer?_toDigits (n : Nat) : integer? (Nat.toDigits 10 n) = some (n : Int) := by
  have unsigned : (Nat.toDigits 10 n).head? ≠ some '+' := by
    intro h
    cases isDigit_of_mem_toDigits (List.mem_of_head? h)
  rw [integer?, positive?_eq unsigned, unsigned?_toDigits]

/-- Digits behind a minus sign are read as the negative integer. -/
lemma integer?_minus (n : Nat) : integer? ('-' :: Nat.toDigits 10 n) = some (-(n : Int)) := by
  have minus : ∀ d, digitValue? '-' = some d → 10 ≤ d := nofun
  have negative : positive? ('-' :: Nat.toDigits 10 n) = none := by
    have unsigned : ('-' :: Nat.toDigits 10 n).head? ≠ some '+' := by simp
    have unmarked : ∀ d ∈ '-' :: Nat.toDigits 10 n, d ≠ 'x' ∧ d ≠ 'o' ∧ d ≠ 'b' := by
      intro d m
      obtain rfl | m := List.mem_cons.1 m
      · decide
      · exact unmarked_of_isDigit (isDigit_of_mem_toDigits m)
    rw [positive?_eq unsigned, unsigned?_eq unmarked, natural?_eq_none List.mem_cons_self minus,
      ite_self]
  rw [integer?, negative]
  show negative? _ = _
  rw [negative?, unsigned?_toDigits]
  rfl

/-! ## Plain numbers -/

/-- Whether a text begins with a digit, maybe behind a minus sign. -/
def startsNumber : List Char → Bool
  | '-' :: c :: _ => c.isDigit
  | c :: _ => c.isDigit
  | [] => false

variable {s : String}

/-- A text that begins like a number is none that does not. -/
lemma ne_of_startsNumber (number : startsNumber s.toList = true) {word : String}
    (other : startsNumber word.toList = false) : s ≠ word := by
  rintro rfl
  cases number.symm.trans other

/-- A text that begins like a number is none of the words for something else. -/
lemma ofPlain_of_startsNumber (number : startsNumber s.toList = true) :
    ofPlain s =
      match typedInteger? s with
      | some t => t
      | none =>
        if isZeroPadded s.toList then .text s
        else
          match float? s with
          | some x => .float x
          | none => .text s := by
  have other : ∀ {word : String}, startsNumber word.toList = false → (s == word) = false :=
    fun h => beq_eq_false_iff_ne.2 (ne_of_startsNumber number h)
  have nonempty : s.isEmpty = false := by
    rw [← Bool.not_eq_true, String.isEmpty_iff]
    exact ne_of_startsNumber number rfl
  have present : (s.isEmpty || isNullWord s) = false := by
    rw [nonempty, isNullWord, other rfl, other rfl, other rfl, other rfl]
    rfl
  have bool : boolWord? s = none := by
    rw [boolWord?, other rfl, other rfl, other rfl, other rfl, other rfl, other rfl]
    rfl
  rw [ofPlain, present, bool]
  rfl

/-- The decimal digits of an integer, with its sign. -/
def digits : Int → List Char
  | .ofNat n => Nat.toDigits 10 n
  | .negSucc n => '-' :: Nat.toDigits 10 (n + 1)

/-- The digits of an integer are read back. -/
lemma integer?_digits (n : Int) : integer? (digits n) = some n := by
  cases n with
  | ofNat n => exact integer?_toDigits n
  | negSucc n => exact integer?_minus (n + 1)

/-- A text that begins with a digit, maybe behind a minus sign, begins like a number. -/
lemma startsNumber_of_isDigit (digit : c.isDigit = true) (cs : List Char) :
    startsNumber (c :: cs) = true ∧ startsNumber ('-' :: c :: cs) = true := by
  refine ⟨?_, digit⟩
  unfold startsNumber
  split
  · rename_i e
    obtain ⟨rfl, -⟩ := List.cons.inj e
    cases digit
  · rename_i e
    obtain ⟨rfl, -⟩ := List.cons.inj e
    exact digit
  · rename_i e
    cases e

/-- A number has a first digit. -/
lemma toDigits_eq_cons (n : Nat) : ∃ c cs, Nat.toDigits 10 n = c :: cs ∧ c.isDigit = true := by
  have digits : ∀ c ∈ Nat.toDigits 10 n, c.isDigit = true := fun _ => isDigit_of_mem_toDigits
  cases chars : Nat.toDigits 10 n with
  | nil => exact absurd chars Nat.toDigits_ne_nil
  | cons c cs =>
    rw [chars] at digits
    exact ⟨c, cs, rfl, digits c List.mem_cons_self⟩

/-- An integer in digits is read as that integer. -/
lemma ofPlain_digits {n : Int} (fits : fitsWord n = true) :
    ofPlain (String.ofList (digits n)) = .int n := by
  have number : startsNumber (digits n) = true := by
    cases n with
    | ofNat n =>
      obtain ⟨c, cs, chars, digit⟩ := toDigits_eq_cons n
      rw [digits, chars]
      exact (startsNumber_of_isDigit digit cs).1
    | negSucc n =>
      obtain ⟨c, cs, chars, digit⟩ := toDigits_eq_cons (n + 1)
      rw [digits, chars]
      exact (startsNumber_of_isDigit digit cs).2
  have integer : typedInteger? (String.ofList (digits n)) = some (.int n) := by
    rw [typedInteger?, String.toList_ofList, integer?_digits]
    exact if_pos fits
  rw [ofPlain_of_startsNumber (by rwa [String.toList_ofList]), integer]

/-! ## Floating point numbers -/

/-- A text that begins like a number is read as a floating point number if it is a finite one. -/
lemma float?_of_startsNumber (number : startsNumber s.toList = true) :
    float? s = (Binary64.parse? s).filter Binary64.isFinite := by
  unfold float?
  split
  all_goals first
    | exact absurd number (by decide)
    | skip
  split
  · rename_i e
    rw [e] at number
    cases number
  · rfl

end Yaml.Scalar

namespace Binary64

/-- The value of the digits of a number is this number. -/
lemma digitsValue_toDigits (n : Nat) : digitsValue (Nat.toDigits 10 n) = n := by
  have fold : digitsValue (Nat.toDigits 10 n) = Nat.ofDigitChars 10 (Nat.toDigits 10 n) 0 := by
    simp only [digitsValue, Nat.ofDigitChars_eq_foldl, Nat.mul_comm]
  rw [fold, Nat.ofDigitChars_ten_toDigits]

/-- A decimal in digits, with an exponent that says how many of them are behind the point. -/
def decimalText (digits places : Nat) : List Char :=
  Nat.toDigits 10 digits ++ 'e' :: '-' :: Nat.toDigits 10 places

/-- A negative exponent is read back. -/
lemma parseExponent?_minus (n : Nat) :
    parseExponent? ('e' :: '-' :: Nat.toDigits 10 n) = some (-(n : Int)) := by
  have digits : (Nat.toDigits 10 n).all Char.isDigit = true :=
    List.all_eq_true.2 fun _ => Yaml.Scalar.isDigit_of_mem_toDigits
  simp [parseExponent?, digits, digitsValue_toDigits, Nat.toDigits_ne_nil]

/-- Digits with an exponent are read as the number nearest to them. -/
lemma parseUnsigned?_decimalText (negative : Bool) (digits places : Nat) :
    parseUnsigned? negative (decimalText digits places) =
      some (ofDecimal negative digits (-places)) := by
  have all : ∀ c ∈ Nat.toDigits 10 digits, c.isDigit = true :=
    fun _ => Yaml.Scalar.isDigit_of_mem_toDigits
  have letter : ¬ 'e'.isDigit = true := by decide
  have whole : (decimalText digits places).takeWhile Char.isDigit = Nat.toDigits 10 digits := by
    rw [decimalText, List.takeWhile_append_of_pos all, List.takeWhile_cons_of_neg letter,
      List.append_nil]
  have rest : (decimalText digits places).dropWhile Char.isDigit =
      'e' :: '-' :: Nat.toDigits 10 places := by
    rw [decimalText, List.dropWhile_append_of_pos all, List.dropWhile_cons_of_neg letter]
  simp [parseUnsigned?, whole, rest, parseExponent?_minus, digitsValue_toDigits,
    Nat.toDigits_ne_nil]

/-- A digit has no other case. -/
lemma toLower_of_isDigit {c : Char} (digit : c.isDigit = true) : c.toLower = c := by
  unfold Char.toLower
  split
  · rename_i upper
    have digit := (Bool.and_eq_true_iff.1 digit).2
    have high := UInt32.le_iff_toNat_le.1 (of_decide_eq_true digit)
    have low := UInt32.le_iff_toNat_le.1 upper.1
    exact absurd (Nat.le_trans low high) (by decide)
  · rfl

/-- The words of `parse?` are no texts that begin with a digit. -/
lemma parse?_of_isDigit {c : Char} {cs : List Char} (digit : c.isDigit = true) :
    parse? (String.ofList (c :: cs)) = parseUnsigned? false (c :: cs) ∧
      parse? (String.ofList ('-' :: c :: cs)) = parseUnsigned? true (c :: cs) := by
  have number : Yaml.Scalar.startsNumber
      (String.ofList ((c :: cs).map Char.toLower)).toList = true := by
    rw [String.toList_ofList, List.map_cons, toLower_of_isDigit digit]
    exact (Yaml.Scalar.startsNumber_of_isDigit digit _).1
  have other : ∀ {word : String}, Yaml.Scalar.startsNumber word.toList = false →
      String.ofList ((c :: cs).map Char.toLower) ≠ word :=
    Yaml.Scalar.ne_of_startsNumber number
  constructor
  · rw [parse?, String.toList_ofList]
    split
    rename_i read
    split at read
    · rename_i sign
      obtain ⟨rfl, -⟩ := List.cons.inj sign
      cases digit
    · rename_i sign
      obtain ⟨rfl, -⟩ := List.cons.inj sign
      cases digit
    · -- neither a sign nor one of the words: the digits decide
      cases read
      split
      · exact absurd ‹_› (other rfl)
      · exact absurd ‹_› (other rfl)
      · exact absurd ‹_› (other rfl)
      · rfl
  · rw [parse?, String.toList_ofList]
    dsimp only
    split
    · exact absurd ‹_› (other rfl)
    · exact absurd ‹_› (other rfl)
    · exact absurd ‹_› (other rfl)
    · rfl

/-- The text of a number, with all of its decimal digits. -/
def exactText : Binary64 → List Char
  | nan => ".nan".toList
  | infinite false => ".inf".toList
  | infinite true => "-.inf".toList
  | finite false m e => decimalText (exactDecimal m e).1 (exactDecimal m e).2
  | finite true m e => '-' :: decimalText (exactDecimal m e).1 (exactDecimal m e).2

/-- A number is in canonical form. -/
def Canonical : Binary64 → Prop
  | finite _ m e => IsCanonical m e
  | _ => True

/-- Digits with an exponent begin with a digit. -/
lemma decimalText_eq_cons (digits places : Nat) :
    ∃ c cs, decimalText digits places = c :: cs ∧ c.isDigit = true := by
  obtain ⟨c, cs, chars, digit⟩ := Yaml.Scalar.toDigits_eq_cons digits
  exact ⟨c, cs ++ 'e' :: '-' :: Nat.toDigits 10 places, by rw [decimalText, chars]; rfl, digit⟩

/-- A number with all of its decimal digits is read as that number. -/
lemma parse?_decimalText {m : Nat} {e : Int} (canonical : IsCanonical m e) :
    parse? (String.ofList (decimalText (exactDecimal m e).1 (exactDecimal m e).2)) =
        some (.finite false m e) ∧
      parse? (String.ofList ('-' :: decimalText (exactDecimal m e).1 (exactDecimal m e).2)) =
        some (.finite true m e) := by
  have read := fun negative =>
    parseUnsigned?_decimalText negative (exactDecimal m e).1 (exactDecimal m e).2
  obtain ⟨c, cs, chars, digit⟩ := decimalText_eq_cons (exactDecimal m e).1 (exactDecimal m e).2
  rw [chars] at read ⊢
  rw [(parse?_of_isDigit digit).1, (parse?_of_isDigit digit).2, read, read,
    ofDecimal_exactDecimal _ canonical, ofDecimal_exactDecimal _ canonical]
  exact ⟨rfl, rfl⟩

end Binary64

namespace Yaml.Scalar

variable {cs : List Char} {s : String}

/-- Digits with an exponent write no integer. -/
lemma integer?_eq_none (m : 'e' ∈ cs) (unsigned : cs.head? ≠ some '+')
    (unmarked : ∀ d ∈ cs, d ≠ 'x' ∧ d ≠ 'o' ∧ d ≠ 'b') : integer? cs = none := by
  have large : ∀ d, digitValue? 'e' = some d → 10 ≤ d := by
    intro d h
    cases h
    decide
  have none : ∀ cs : List Char, 'e' ∈ cs → (∀ d ∈ cs, d ≠ 'x' ∧ d ≠ 'o' ∧ d ≠ 'b') →
      unsigned? cs = none := by
    intro cs m unmarked
    rw [unsigned?_eq unmarked, natural?_eq_none m large, ite_self]
  rw [integer?, positive?_eq unsigned, none cs m unmarked]
  show negative? cs = _
  unfold negative?
  split
  · rename_i cs
    obtain e | m := List.mem_cons.1 m
    · cases e
    · rw [none cs m fun d m => unmarked d (List.mem_cons_of_mem _ m)]
      rfl
  · rfl

/-- What has an exponent is not padded. -/
lemma isZeroPadded_of_mem (m : 'e' ∈ cs) : isZeroPadded cs = false := by
  have other : ∀ ds : List Char, 'e' ∈ ds → ds.all Char.isDigit = false := by
    intro ds m
    rw [List.all_eq_false]
    exact ⟨'e', m, by decide⟩
  unfold isZeroPadded
  cases cs with
  | nil => cases m
  | cons c rest =>
    by_cases sign : isSign c = true
    · have ne : 'e' ≠ c := by
        rintro rfl
        cases sign
      simp [sign, other rest (List.mem_of_ne_of_mem ne m)]
    · simp only [sign, Bool.false_eq_true, if_false, other _ m, Bool.and_false]

/-- Digits with an exponent are read as a floating point number. -/
lemma ofPlain_of_exponent {x : Binary64} (number : startsNumber s.toList = true)
    (m : 'e' ∈ s.toList) (unmarked : ∀ d ∈ s.toList, d ≠ 'x' ∧ d ≠ 'o' ∧ d ≠ 'b')
    (read : Binary64.parse? s = some x) (finite : x.isFinite = true) : ofPlain s = .float x := by
  have unsigned : s.toList.head? ≠ some '+' := by
    intro h
    obtain ⟨cs, e⟩ := List.head?_eq_some_iff.1 h
    rw [e] at number
    cases number
  have integer : typedInteger? s = none := by
    rw [typedInteger?, integer?_eq_none m unsigned unmarked]
    rfl
  have float : float? s = some x := by
    rw [float?_of_startsNumber number, read, Option.filter_some, if_pos finite]
  rw [ofPlain_of_startsNumber number, integer, isZeroPadded_of_mem m, float]
  rfl

/-- Digits with an exponent have none of the letters for a base. -/
lemma unmarked_decimalText (digits places : Nat) :
    ∀ d ∈ Binary64.decimalText digits places, d ≠ 'x' ∧ d ≠ 'o' ∧ d ≠ 'b' := by
  intro d m
  simp only [Binary64.decimalText, List.mem_append, List.mem_cons] at m
  obtain m | rfl | rfl | m := m
  · exact unmarked_of_isDigit (isDigit_of_mem_toDigits m)
  · decide
  · decide
  · exact unmarked_of_isDigit (isDigit_of_mem_toDigits m)

/-- A number in canonical form is read back from its text. -/
lemma ofPlain_exactText {x : Binary64} (canonical : x.Canonical) :
    ofPlain (String.ofList x.exactText) = .float x := by
  cases x with
  | nan => decide
  | infinite negative => cases negative <;> decide
  | finite negative m e =>
    obtain ⟨positive, minus⟩ := Binary64.parse?_decimalText canonical
    obtain ⟨c, cs, chars, digit⟩ :=
      Binary64.decimalText_eq_cons (Binary64.exactDecimal m e).1 (Binary64.exactDecimal m e).2
    have unmarked :=
      unmarked_decimalText (Binary64.exactDecimal m e).1 (Binary64.exactDecimal m e).2
    have letter : 'e' ∈
        Binary64.decimalText (Binary64.exactDecimal m e).1 (Binary64.exactDecimal m e).2 :=
      List.mem_append_right _ List.mem_cons_self
    obtain ⟨number, negativeNumber⟩ := startsNumber_of_isDigit digit cs
    rw [← chars] at number negativeNumber
    cases negative with
    | false =>
      refine ofPlain_of_exponent ?_ ?_ ?_ positive rfl <;> rw [String.toList_ofList]
      · exact number
      · exact letter
      · exact unmarked
    | true =>
      refine ofPlain_of_exponent ?_ ?_ ?_ minus rfl <;> rw [String.toList_ofList]
      · exact negativeNumber
      · exact List.mem_cons_of_mem _ letter
      · intro d m
        obtain rfl | m := List.mem_cons.1 m
        · decide
        · exact unmarked d m

end Yaml.Scalar

end BenchPlan
