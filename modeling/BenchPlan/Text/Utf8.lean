/-!
# Reading bytes as UTF-8

Bytes are read as UTF-8 without ever failing: each longest part that cannot begin a character, or
begins one and breaks off, is read as the replacement character. `step` reads one character or one
such part.
-/

namespace BenchPlan.Text

/-- The character read in place of bytes that are none. -/
def replacement : Char := '\uFFFD'

/-- A byte that goes on with a character. -/
def isTail (b : UInt8) : Bool := 0x80 ≤ b && b ≤ 0xBF

/-- A second byte that may follow the first byte of three. -/
def secondOfThree (a b : UInt8) : Bool :=
  if a = 0xE0 then 0xA0 ≤ b && b ≤ 0xBF
  else if a = 0xED then 0x80 ≤ b && b ≤ 0x9F
  else isTail b

/-- A second byte that may follow the first byte of four. -/
def secondOfFour (a b : UInt8) : Bool :=
  if a = 0xF0 then 0x90 ≤ b && b ≤ 0xBF
  else if a = 0xF4 then 0x80 ≤ b && b ≤ 0x8F
  else isTail b

/-- The low six bits of a tail byte. -/
def tailBits (b : UInt8) : Nat := b.toNat % 64

/-- Reads one character or one broken part after the first byte `a`, and says how many of the
following bytes belong to it. -/
def step (a : UInt8) (rest : List UInt8) : Char × Nat :=
  if a < 0x80 then (Char.ofNat a.toNat, 0)
  else if 0xC2 ≤ a && a ≤ 0xDF then
    match rest with
    | b :: _ =>
      if isTail b then (Char.ofNat (a.toNat % 32 * 64 + tailBits b), 1) else (replacement, 0)
    | [] => (replacement, 0)
  else if 0xE0 ≤ a && a ≤ 0xEF then
    match rest with
    | b :: more =>
      if secondOfThree a b then
        match more with
        | c :: _ =>
          if isTail c then
            (Char.ofNat (a.toNat % 16 * 4096 + tailBits b * 64 + tailBits c), 2)
          else (replacement, 1)
        | [] => (replacement, 1)
      else (replacement, 0)
    | [] => (replacement, 0)
  else if 0xF0 ≤ a && a ≤ 0xF4 then
    match rest with
    | b :: more =>
      if secondOfFour a b then
        match more with
        | c :: more =>
          if isTail c then
            match more with
            | d :: _ =>
              if isTail d then
                (Char.ofNat (a.toNat % 8 * 262144 + tailBits b * 4096 + tailBits c * 64 +
                  tailBits d), 3)
              else (replacement, 2)
            | [] => (replacement, 2)
          else (replacement, 1)
        | [] => (replacement, 1)
      else (replacement, 0)
    | [] => (replacement, 0)
  else (replacement, 0)

/-- Reads all bytes. -/
def decodeLossy : List UInt8 → List Char
  | [] => []
  | a :: rest => (step a rest).1 :: decodeLossy (rest.drop (step a rest).2)
  termination_by bytes => bytes.length
  decreasing_by simp only [List.length_drop, List.length_cons]; omega

end BenchPlan.Text
