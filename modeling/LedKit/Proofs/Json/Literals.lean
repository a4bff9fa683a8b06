import LedKit.Proofs.Json.Grammar
import Mathlib.Algebra.Group.Nat.Defs
import Mathlib.Algebra.Ring.Int.Defs

/-!
# Natural numbers among the values

Where a natural number is asked for, every value may stand. Only plain digits are taken, and only
below the bound; a number is never cut down to fit. An integer of moderate length is refused by its
size alone: as out of range if sixty-four bits hold it, and as no integer at all if they do not.
-/

namespace LedKit.Json

open LedKit.Text

/-! ## Plain digits -/

/-- The number below a bound that plain digits give. -/
def natural? (bound : Nat) (literal : List Char) : Option Nat :=
  if literal ≠ [] ∧ literal.all Char.isDigit ∧ valueOf literal < bound then some (valueOf literal)
  else none

theorem natural?_eq_some_iff {bound number : Nat} {literal : List Char} :
    natural? bound literal = some number ↔
      (literal ≠ [] ∧ ∀ character ∈ literal, character.isDigit = true) ∧
        valueOf literal = number ∧ number < bound := by
  rw [natural?, Option.ite_none_right_eq_some, Option.some.injEq, List.all_eq_true]
  constructor
  · rintro ⟨⟨filled, digits, within⟩, rfl⟩
    exact ⟨⟨filled, digits⟩, rfl, within⟩
  · rintro ⟨⟨filled, digits⟩, rfl, within⟩
    exact ⟨⟨filled, digits, within⟩, rfl⟩

theorem natural?_cons_of_not_digit (bound : Nat) {first : Char} (other : first.isDigit = false)
    (rest : List Char) : natural? bound (first :: rest) = none := by
  refine if_neg ?_
  rintro ⟨_, digits, _⟩
  rw [List.all_eq_true.mp digits first List.mem_cons_self] at other
  cases other

/-- The digits of a number give it below every larger bound. -/
theorem natural?_digits {bound number : Nat} (within : number < bound) :
    natural? bound (digits number) = some number :=
  natural?_eq_some_iff.mpr
    ⟨⟨digits_ne_nil number, fun _ => isDigit_of_mem_digits⟩, valueOf_digits number, within⟩

theorem Numeral.magnitude_eq_natural_iff {numeral : Numeral} {value : Nat} :
    numeral.magnitude = .natural value ↔
      (numeral.isNegative = false ∧ numeral.fraction = none ∧ numeral.exponent = none) ∧
        valueOf numeral.whole = value ∧ value ≤ largestUnsigned := by
  constructor
  · intro found
    simp only [magnitude] at found
    split at found
    · next integer =>
      split at found
      · next positive =>
        cases found
        exact ⟨⟨positive, Option.isNone_iff_eq_none.mp integer.1,
          Option.isNone_iff_eq_none.mp integer.2.1⟩, rfl, integer.2.2⟩
      · split at found <;> cases found
    · split at found <;> cases found
  · rintro ⟨⟨positive, noFraction, noExponent⟩, rfl, fits⟩
    simp [magnitude, positive, noFraction, noExponent, fits]

namespace NumberForm

variable (form : NumberForm)

/-- A number is all digits when it has neither a sign nor a fraction nor an exponent. -/
theorem all_digits_iff :
    (∀ character ∈ form.text, character.isDigit = true) ↔
      form.isNegative = false ∧ form.fraction = none ∧ form.exponent = none := by
  simp only [text, List.forall_mem_append]
  constructor
  · rintro ⟨sign, _, fraction, exponent⟩
    refine ⟨?_, ?_, ?_⟩
    · refine Bool.eq_false_iff.mpr fun negative => ?_
      rw [signText, if_pos negative] at sign
      exact absurd (sign '-' List.mem_cons_self) (by decide)
    · refine Option.eq_none_iff_forall_ne_some.mpr fun digits same => ?_
      rw [fractionText, same] at fraction
      exact absurd (fraction '.' List.mem_cons_self) (by decide)
    · refine Option.eq_none_iff_forall_ne_some.mpr fun own same => ?_
      rw [exponentText, same] at exponent
      have digit := exponent own.letter List.mem_cons_self
      rcases own.isLetter with letter | letter <;> rw [letter] at digit <;> cases digit
  · rintro ⟨positive, noFraction, noExponent⟩
    simpa [signText, fractionText, exponentText, positive, noFraction, noExponent]
      using form.whole.digits

theorem text_of_plain (positive : form.isNegative = false) (noFraction : form.fraction = none)
    (noExponent : form.exponent = none) : form.text = form.whole.text := by
  simp [text, signText, fractionText, exponentText, positive, noFraction, noExponent]

/-- What a number counts as below a bound is what its plain digits give. -/
theorem natural?_text_iff {bound number : Nat} (small : bound ≤ UInt64.size) :
    natural? bound form.text = some number ↔
      form.numeral.magnitude = .natural number ∧ number < bound := by
  rw [natural?_eq_some_iff, form.all_digits_iff, Numeral.magnitude_eq_natural_iff]
  have fits : number < bound → number ≤ largestUnsigned := fun within =>
    Nat.le_sub_one_of_lt (Nat.lt_of_lt_of_le within small)
  simp only [numeral, Option.map_eq_none_iff]
  constructor
  · rintro ⟨⟨_, positive, noFraction, noExponent⟩, value, within⟩
    rw [form.text_of_plain positive noFraction noExponent] at value
    exact ⟨⟨⟨positive, noFraction, noExponent⟩, value, fits within⟩, within⟩
  · rintro ⟨⟨⟨positive, noFraction, noExponent⟩, value, _⟩, within⟩
    have plain := form.text_of_plain positive noFraction noExponent
    exact ⟨⟨plain ▸ form.whole.filled, positive, noFraction, noExponent⟩, plain ▸ value, within⟩

end NumberForm

/-! ## Reading a natural number -/

/-- What a number is read as where a natural number below a bound is asked for. -/
def asNatural (bound : Nat) : Magnitude → Except Fault Nat
  | .natural value => if value < bound then .ok value else .error .outOfRange
  | .negative _ => .error .outOfRange
  | .real => .error .wrongType
  | .tooLarge => .error .malformed

theorem readNatural_of_takeNumeral? (bound : Nat) {text rest : List Char} {numeral : Numeral}
    (begins : beginsNumeral (dropBlanks text) = true)
    (taken : takeNumeral? (dropBlanks text) = some (numeral, rest)) :
    readNatural bound text = (asNatural bound numeral.magnitude).map fun value => (value, rest) := by
  simp only [readNatural, if_pos begins, taken]
  cases numeral.magnitude with
  | natural value =>
      by_cases within : value < bound
      · simp [asNatural, within, Except.map]
      · simp [asNatural, within, Except.map]
  | negative | real | tooLarge => rfl

theorem readNatural_number (bound : Nat) (before : Gap) (form : NumberForm) {rest : List Char}
    (ends : Ends rest) :
    readNatural bound (before.text ++ (form.text ++ rest)) =
      (asNatural bound form.numeral.magnitude).map fun value => (value, rest) := by
  have taken := form.takeNumeral?_append ends
  obtain ⟨first, others, split, begins⟩ := form.exists_first
  have solid : dropBlanks (before.text ++ (form.text ++ rest)) = form.text ++ rest := by
    rw [split]
    rcases begins with rfl | digit
    · exact before.dropBlanks_append_cons (by decide) _
    · exact before.dropBlanks_append_cons (solid_of_inside (isEnd_of_isDigit digit)) _
  have numeral : beginsNumeral (form.text ++ rest) = true := by
    rw [split]
    simpa [beginsNumeral] using begins
  exact readNatural_of_takeNumeral? bound (solid.symm ▸ numeral) (solid.symm ▸ taken)

theorem readNatural_of_other (bound : Nat) (before : Gap) {first : Char}
    (solid : isBlank first = false) (noSign : first ≠ '-') (noDigit : first.isDigit = false)
    (rest : List Char) :
    readNatural bound (before.text ++ first :: rest) = .error (mismatch (first :: rest)) := by
  have other : ¬ beginsNumeral (first :: rest) = true := by simp [beginsNumeral, noSign, noDigit]
  simp only [readNatural, before.dropBlanks_append_cons solid, if_neg other]

theorem toOption_asNatural_iff {bound number : Nat} {magnitude : Magnitude} :
    (asNatural bound magnitude).toOption = some number ↔
      magnitude = .natural number ∧ number < bound := by
  cases magnitude with
  | natural value =>
      by_cases within : value < bound
      · simp only [asNatural, if_pos within, Except.toOption, Option.some.injEq,
          Magnitude.natural.injEq]
        exact ⟨fun same => ⟨same, same ▸ within⟩, And.left⟩
      · simp only [asNatural, if_neg within, Except.toOption, Magnitude.natural.injEq]
        exact ⟨nofun, fun ⟨same, less⟩ => absurd (same ▸ less) within⟩
  | negative | real | tooLarge => simp [asNatural, Except.toOption]

theorem toOption_map {α β : Type} (change : α → β) (result : Except Fault α) :
    (result.map change).toOption = result.toOption.map change := by
  cases result <;> rfl

/-- Where a natural number is asked for, a well-formed value is read as its plain digits. -/
theorem readNatural_append {bound : Nat} (small : bound ≤ UInt64.size) (before : Gap)
    {value rest : List Char} (derives : Derives .value value) (ends : Ends rest) :
    (readNatural bound (before.text ++ (value ++ rest))).toOption =
      (natural? bound value).map fun number => (number, rest) := by
  have refused {first : Char} (others : List Char) (solid : isBlank first = false)
      (noSign : first ≠ '-') (noDigit : first.isDigit = false) :
      (readNatural bound (before.text ++ (first :: others ++ rest))).toOption =
        (natural? bound (first :: others)).map fun number => (number, rest) := by
    rw [natural?_cons_of_not_digit bound noDigit, List.cons_append,
      readNatural_of_other bound before solid noSign noDigit]
    rfl
  cases derives with
  | number form =>
      rw [readNatural_number bound before form ends, toOption_map]
      congr 1
      ext number
      rw [toOption_asNatural_iff, form.natural?_text_iff small]
  | word known =>
      obtain ⟨first, others, rfl, letter⟩ := exists_first_of_mem_words known
      obtain ⟨inside, noDigit, other⟩ := letter_of_mem letter
      have noSign : first ≠ '-' := by
        rintro rfl
        exact other (by decide)
      exact refused others (solid_of_inside inside) noSign noDigit
  | text form => exact refused _ (by decide) (by decide) (by decide)
  | empty frame gap => cases frame <;> exact refused _ (by decide) (by decide) (by decide)
  | @filled frame inside parts =>
      cases frame <;> exact refused _ (by decide) (by decide) (by decide)

/-! ## Integers of any size -/

/-- A rounded number is at most twice the number. -/
theorem roundToBinary_le (value : Nat) : roundToBinary value ≤ 2 * value := by
  rcases Nat.eq_zero_or_pos value with rfl | positive
  · decide
  have unit_le : Nat.pow 2 (value.log2 - 52) ≤ value :=
    Nat.le_trans (Nat.pow_le_pow_right (by decide) (Nat.sub_le _ _))
      (Nat.log2_self_le (Nat.pos_iff_ne_zero.mp positive))
  have below : value / Nat.pow 2 (value.log2 - 52) * Nat.pow 2 (value.log2 - 52) ≤ value :=
    Nat.div_mul_le_self _ _
  simp only [roundToBinary]
  split
  · rw [Nat.add_mul, Nat.one_mul]
    omega
  · omega

/-- Each digit left unread stands for a factor of ten. -/
theorem mul_pow_le_valueAfter (read : Nat) (digits : List Char) :
    read * 10 ^ digits.length ≤ valueAfter read digits := by
  induction digits generalizing read with
  | nil => simp
  | cons digit rest ih =>
      rw [valueAfter_cons, List.length_cons, Nat.pow_succ', ← Nat.mul_assoc]
      exact Nat.le_trans (Nat.mul_le_mul_right _ (Nat.le_add_right _ _)) (ih _)

/-- Digits never stand for more than their count allows. -/
theorem valueAfter_lt (read : Nat) {digits : List Char}
    (allDigits : ∀ character ∈ digits, character.isDigit = true) :
    valueAfter read digits < (read + 1) * 10 ^ digits.length := by
  induction digits generalizing read with
  | nil => simp
  | cons digit rest ih =>
      have small := digitValue_lt (allDigits digit List.mem_cons_self)
      rw [valueAfter_cons, List.length_cons, Nat.pow_succ', ← Nat.mul_assoc]
      exact Nat.lt_of_lt_of_le (ih _ fun _ member => allDigits _ (List.mem_cons_of_mem digit member))
        (Nat.mul_le_mul_right _ (by omega))

/-- The digits that fit, with the count of those left over, are no more than the number itself. -/
theorem gather_le (value : Nat) (digits : List Char) :
    (gather value digits).1 * 10 ^ (gather value digits).2 ≤ valueAfter value digits := by
  induction digits generalizing value with
  | nil => simp [gather]
  | cons digit rest ih =>
      unfold gather
      split
      · exact mul_pow_le_valueAfter value (digit :: rest)
      · exact ih _

/-- The count of digits up to which every integer is small enough to be kept. -/
def keptDigits : Nat := 300

theorem isTooLarge_eq_false {significand power : Nat}
    (small : significand * 10 ^ power < 10 ^ keptDigits) :
    isTooLarge significand power = false := by
  rcases Nat.eq_zero_or_pos significand with rfl | positive
  · rfl
  have lowPower : power < keptDigits :=
    (Nat.pow_lt_pow_iff_right (by decide : 1 < 10)).mp
      (Nat.lt_of_le_of_lt (Nat.le_mul_of_pos_left _ positive) small)
  have rounded : roundToBinary significand * roundToBinary (Nat.pow 10 power) < binaryLimit := by
    calc
      roundToBinary significand * roundToBinary (Nat.pow 10 power)
          ≤ 2 * significand * (2 * 10 ^ power) :=
        Nat.mul_le_mul (roundToBinary_le _) (roundToBinary_le _)
      _ = 4 * (significand * 10 ^ power) := Nat.mul_mul_mul_comm _ _ _ _
      _ < 4 * 10 ^ keptDigits := Nat.mul_lt_mul_of_pos_left small (by decide)
      _ < binaryLimit := by decide +kernel
  have noPower : ¬ (308 : Int) < power := by
    have : keptDigits = 300 := rfl
    omega
  have noProduct : ¬ binaryLimit ≤ roundToBinary significand * roundToBinary (Nat.pow 10 power) :=
    Nat.not_le.mpr rounded
  simp only [isTooLarge, Int.toNat_natCast, noPower, noProduct, decide_false, Bool.or_false,
    Bool.and_false]

/-- An integer as it is written: without zeros before it, and with a sign only below zero. -/
def NumberForm.ofInt (value : Int) : NumberForm where
  isNegative := decide (value < 0)
  whole := ⟨digits value.natAbs, digits_ne_nil _, fun _ => isDigit_of_mem_digits⟩
  leading zero := by
    rcases Nat.eq_zero_or_pos value.natAbs with none | positive
    · rw [none]
      decide +kernel
    · exact absurd zero (head?_digits_ne positive)
  fraction := none
  exponent := none

theorem NumberForm.text_ofInt_natCast (number : Nat) : (ofInt number).text = digits number := by
  simp [text, signText, fractionText, exponentText, ofInt]

theorem NumberForm.text_ofInt (value : Int) : (ofInt value).text = (toString value).toList := by
  have written (number : Nat) : (toString number).toList = digits number := by
    rw [← decimal_eq_toString, decimal, String.toList_ofList]
  cases value with
  | ofNat number =>
      change _ = (toString number).toList
      rw [written]
      exact text_ofInt_natCast number
  | negSucc number =>
      change _ = ("-" ++ toString (number + 1)).toList
      rw [String.toList_append, written]
      simp [text, signText, fractionText, exponentText, ofInt]

/-- What is wrong with an integer that is out of range. -/
def integerFault (value : Int) : Fault :=
  if -(2 : Int) ^ 63 ≤ value ∧ value < 2 ^ 64 then .outOfRange else .wrongType

theorem NumberForm.scaled_ofInt (value : Int) :
    (ofInt value).numeral.scaled =
      ((gather 0 (digits value.natAbs)).1, ((gather 0 (digits value.natAbs)).2 : Int)) := by
  simp [Numeral.scaled, numeral, ofInt, gather]

theorem NumberForm.magnitude_ofInt {value : Int}
    (short : (digits value.natAbs).length ≤ keptDigits) :
    (ofInt value).numeral.magnitude =
      if 0 ≤ value ∧ value < 2 ^ 64 then .natural value.toNat
      else if -(2 : Int) ^ 63 ≤ value ∧ value < 0 then .negative value.natAbs
      else .real := by
  have small : valueOf (digits value.natAbs) < 10 ^ keptDigits := by
    have allDigits : ∀ character ∈ digits value.natAbs, character.isDigit = true :=
      fun _ => isDigit_of_mem_digits
    have below := valueAfter_lt 0 allDigits
    rw [Nat.zero_add, Nat.one_mul] at below
    exact Nat.lt_of_lt_of_le below (Nat.pow_le_pow_right (by decide) short)
  have kept : isTooLarge (ofInt value).numeral.scaled.1 (ofInt value).numeral.scaled.2 = false := by
    rw [scaled_ofInt]
    exact isTooLarge_eq_false (Nat.lt_of_le_of_lt (gather_le 0 _) small)
  have unsigned : largestUnsigned = 2 ^ 64 - 1 := by decide
  have negative : largestNegative = 2 ^ 63 := by decide
  simp only [Numeral.magnitude, kept]
  simp only [numeral, ofInt, valueOf_digits, unsigned, negative]
  grind

/-- An integer is taken as it is or refused by its size. -/
theorem readNatural_ofInt {bound : Nat} (small : bound ≤ UInt64.size) (before : Gap) {value : Int}
    (short : (digits value.natAbs).length ≤ keptDigits) {rest : List Char} (ends : Ends rest) :
    readNatural bound (before.text ++ ((NumberForm.ofInt value).text ++ rest)) =
      if 0 ≤ value ∧ value < bound then .ok (value.toNat, rest)
      else .error (integerFault value) := by
  have size : UInt64.size = 2 ^ 64 := rfl
  rw [readNatural_number bound before _ ends, NumberForm.magnitude_ofInt short, integerFault]
  grind [asNatural, Except.map]

end LedKit.Json
