import LedKit.Text.Decimal

/-!
# Numbers in JSON

A JSON number has an optional minus sign, a whole part without leading zeros, and perhaps a
fraction and an exponent. Only a whole number within sixty-four bits counts as an integer. Any
other number is kept as a binary fraction of fifty-three significant bits, and is refused when it
is too large for that.
-/

namespace LedKit.Json

open LedKit.Text

/-- A number as it is written. -/
structure Numeral where
  isNegative : Bool
  whole : List Char
  /-- The digits after the point. -/
  fraction : Option (List Char)
  /-- The sign and the digits of the exponent. -/
  exponent : Option (Bool × List Char)
  deriving DecidableEq

/-- The digits that a text begins with, at least one, and the text after them. -/
def takeDigits? (text : List Char) : Option (List Char × List Char) :=
  if text.takeWhile Char.isDigit = [] then none
  else some (text.takeWhile Char.isDigit, text.dropWhile Char.isDigit)

theorem length_lt_of_takeDigits? {text digits rest : List Char}
    (found : takeDigits? text = some (digits, rest)) : rest.length < text.length := by
  simp only [takeDigits?, Option.ite_none_left_eq_some, Option.some.injEq, Prod.mk.injEq] at found
  obtain ⟨nonempty, rfl, rfl⟩ := found
  have parts := congrArg List.length
    (List.takeWhile_append_dropWhile (p := Char.isDigit) (l := text))
  have := List.length_pos_iff.mpr nonempty
  rw [List.length_append] at parts
  omega

/-- The whole part that a text begins with: zero alone, or digits that begin with another. -/
def takeWhole? (text : List Char) : Option (List Char × List Char) :=
  match takeDigits? text with
  | none => none
  | some (digits, rest) =>
    if digits.head? = some '0' ∧ 1 < digits.length then none else some (digits, rest)

theorem length_lt_of_takeWhole? {text digits rest : List Char}
    (found : takeWhole? text = some (digits, rest)) : rest.length < text.length := by
  unfold takeWhole? at found
  split at found
  · contradiction
  · next taken =>
    split at found
    · contradiction
    · simp only [Option.some.injEq, Prod.mk.injEq] at found
      exact found.2 ▸ length_lt_of_takeDigits? taken

/-- The fraction that a text begins with, if it begins with a point. -/
def takeFraction? (text : List Char) : Option (Option (List Char) × List Char) :=
  match text with
  | '.' :: rest => (takeDigits? rest).map fun (digits, after) => (some digits, after)
  | _ => some (none, text)

/-- A text without the sign that it begins with, and whether that was a minus. -/
def dropSign : List Char → Bool × List Char
  | '+' :: rest => (false, rest)
  | '-' :: rest => (true, rest)
  | text => (false, text)

/-- The exponent that a text begins with, if it begins with the letter for one. -/
def takeExponent? (text : List Char) : Option (Option (Bool × List Char) × List Char) :=
  match text with
  | [] => some (none, [])
  | letter :: rest =>
    if letter = 'e' ∨ letter = 'E' then
      (takeDigits? (dropSign rest).2).map fun (digits, after) =>
        (some ((dropSign rest).1, digits), after)
    else some (none, text)

/-- The number that a text begins with after its sign. -/
def takeUnsigned? (isNegative : Bool) (text : List Char) : Option (Numeral × List Char) :=
  match takeWhole? text with
  | none => none
  | some (whole, rest) =>
    match takeFraction? rest with
    | none => none
    | some (fraction, rest) =>
      match takeExponent? rest with
      | none => none
      | some (exponent, rest) => some (⟨isNegative, whole, fraction, exponent⟩, rest)

/-- The number that a text begins with, and the text after it. -/
def takeNumeral? : List Char → Option (Numeral × List Char)
  | '-' :: rest => takeUnsigned? true rest
  | text => takeUnsigned? false text

theorem length_le_of_takeFraction? {text rest : List Char} {fraction : Option (List Char)}
    (found : takeFraction? text = some (fraction, rest)) : rest.length ≤ text.length := by
  unfold takeFraction? at found
  split at found
  · obtain ⟨⟨digits, after⟩, taken, same⟩ := Option.map_eq_some_iff.mp found
    have := length_lt_of_takeDigits? taken
    simp only [Prod.mk.injEq] at same
    rw [← same.2, List.length_cons]
    omega
  · simp only [Option.some.injEq, Prod.mk.injEq] at found
    exact Nat.le_of_eq (congrArg List.length found.2.symm)

theorem length_dropSign_le (text : List Char) : (dropSign text).2.length ≤ text.length := by
  unfold dropSign
  split <;> simp

theorem length_le_of_takeExponent? {text rest : List Char} {exponent : Option (Bool × List Char)}
    (found : takeExponent? text = some (exponent, rest)) : rest.length ≤ text.length := by
  unfold takeExponent? at found
  split at found
  · simp only [Option.some.injEq, Prod.mk.injEq] at found
    simp [← found.2]
  · next letter others =>
    split at found
    · obtain ⟨⟨digits, after⟩, taken, same⟩ := Option.map_eq_some_iff.mp found
      have := length_lt_of_takeDigits? taken
      have := length_dropSign_le others
      simp only [Prod.mk.injEq] at same
      rw [← same.2, List.length_cons]
      omega
    · simp only [Option.some.injEq, Prod.mk.injEq] at found
      exact Nat.le_of_eq (congrArg List.length found.2.symm)

theorem length_lt_of_takeUnsigned? {isNegative : Bool} {text rest : List Char} {numeral : Numeral}
    (found : takeUnsigned? isNegative text = some (numeral, rest)) :
    rest.length < text.length := by
  unfold takeUnsigned? at found
  split at found
  · contradiction
  · next first =>
    split at found
    · contradiction
    · next second =>
      split at found
      · contradiction
      · next third =>
        simp only [Option.some.injEq, Prod.mk.injEq] at found
        have := length_lt_of_takeWhole? first
        have := length_le_of_takeFraction? second
        have := length_le_of_takeExponent? third
        rw [← found.2]
        omega

theorem length_lt_of_takeNumeral? {text rest : List Char} {numeral : Numeral}
    (found : takeNumeral? text = some (numeral, rest)) : rest.length < text.length := by
  unfold takeNumeral? at found
  split at found
  · exact Nat.lt_succ_of_lt (length_lt_of_takeUnsigned? found)
  · exact length_lt_of_takeUnsigned? found

/-- The largest unsigned integer. -/
def largestUnsigned : Nat := UInt64.size - 1

/-- The largest magnitude of a negative integer. -/
def largestNegative : Nat := Int64.size / 2

/-- What a number counts as. -/
inductive Magnitude where
  | natural (value : Nat)
  /-- A negative integer by its distance from zero. -/
  | negative (distance : Nat)
  /-- A number that is no integer of sixty-four bits. -/
  | real
  | tooLarge
  deriving DecidableEq

/-- Extend a number by digits as long as it fits into sixty-four bits. The result holds the number
and the count of the digits left over. -/
def gather (value : Nat) : List Char → Nat × Nat
  | [] => (value, 0)
  | digit :: rest =>
    if largestUnsigned < value * 10 + digitValue digit then (value, rest.length + 1)
    else gather (value * 10 + digitValue digit) rest

/-- The significant digits of a number and the power of ten that they are multiplied by. -/
def Numeral.scaled (numeral : Numeral) : Nat × Int :=
  let (whole, dropped) := gather 0 numeral.whole
  let digits := numeral.fraction.getD []
  let (significand, left) := gather whole digits
  let power : Int :=
    match numeral.exponent with
    | none => 0
    | some (true, exponent) => -(valueOf exponent : Int)
    | some (false, exponent) => valueOf exponent
  (significand, dropped - (digits.length - left : Nat) + power)

/-- A number rounded to fifty-three significant bits, a half to the even neighbour. -/
def roundToBinary (value : Nat) : Nat :=
  let unit := Nat.pow 2 (value.log2 - 52)
  let quotient := value / unit
  let remainder := value % unit
  if unit < 2 * remainder ∨ (unit = 2 * remainder ∧ quotient % 2 = 1) then (quotient + 1) * unit
  else quotient * unit

/-- Products from here on are too large. -/
def binaryLimit : Nat := Nat.pow 2 1024 - Nat.pow 2 970

/-- Significant digits with a power of ten are too large to be kept. -/
def isTooLarge (significand : Nat) (power : Int) : Bool :=
  significand ≠ 0 && 0 ≤ power &&
    (308 < power ||
      binaryLimit ≤ roundToBinary significand * roundToBinary (Nat.pow 10 power.toNat))

/-- What a number counts as by its value. -/
def Numeral.magnitude (numeral : Numeral) : Magnitude :=
  let value := valueOf numeral.whole
  if numeral.fraction.isNone ∧ numeral.exponent.isNone ∧ value ≤ largestUnsigned then
    if numeral.isNegative = false then .natural value
    else if value ≠ 0 ∧ value ≤ largestNegative then .negative value
    else .real
  else if isTooLarge numeral.scaled.1 numeral.scaled.2 then .tooLarge
  else .real

end LedKit.Json
