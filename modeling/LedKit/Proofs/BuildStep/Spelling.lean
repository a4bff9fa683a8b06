import LedKit.BuildStep.Interval

/-!
# The spellings of an interval

A text is accepted as an interval when it spells a positive number that fits into sixty-four bits.
A number has many spellings, one of which is its decimal text.
-/

namespace LedKit.BuildStep

open LedKit.Text

/--
The text spells the number: its decimal digits, with any zeros before them, perhaps after a plus
sign, and with blanks around.
-/
def Spells (text : List Char) (number : Nat) : Prop :=
  ∃ before sign digits after, text = before ++ (sign ++ digits) ++ after ∧
    (∀ character ∈ before, isBlank character = true) ∧
    (∀ character ∈ after, isBlank character = true) ∧ (sign = [] ∨ sign = ['+']) ∧
    digits ≠ [] ∧ (∀ character ∈ digits, character.isDigit = true) ∧
    Nat.ofDigitChars 10 digits 0 = number

/-- A text is accepted for a number when it spells the number and the number fits. -/
theorem interval?_eq_some_iff_spells {text : String} {number : Nat} :
    interval? text = some number ↔
      Spells text.toList number ∧ 0 < number ∧ number ≤ Millis.largest := by
  rw [interval?_eq_some_iff, unsigned?_eq_some_iff]
  constructor
  · rintro ⟨⟨nonempty, digits, value, bounded⟩, positive⟩
    obtain ⟨before, blankBefore, start⟩ := exists_blanks_append_trimStart text.toList
    obtain ⟨after, blankAfter, stop⟩ := exists_trimEnd_append_blanks (trimStart text.toList)
    obtain ⟨sign, plus, split⟩ := exists_sign_append_dropPlus (trim text.toList)
    refine ⟨⟨before, sign, dropPlus (trim text.toList), after, ?_, blankBefore, blankAfter, plus,
      nonempty, digits, ?_⟩, positive, bounded⟩
    · rw [← split, List.append_assoc]
      exact start.trans (congrArg (before ++ ·) stop)
    · rw [← valueAfter_eq_ofDigitChars]
      exact value
  · rintro ⟨⟨before, sign, digits, after, split, blankBefore, blankAfter, plus, nonempty, allDigits,
      value⟩, positive, bounded⟩
    have noBlank : ∀ character ∈ sign ++ digits, isBlank character = false := by
      intro character member
      rcases List.mem_append.mp member with inSign | inDigits
      · rcases plus with rfl | rfl
        · cases inSign
        · cases List.mem_singleton.mp inSign
          decide
      · exact isBlank_of_isDigit (allDigits character inDigits)
    have trimmed : trim text.toList = sign ++ digits := by
      rw [split]
      exact trim_between blankBefore blankAfter (List.append_ne_nil_of_right_ne_nil _ nonempty)
        noBlank
    have unsigned : dropPlus (sign ++ digits) = digits := by
      rcases plus with rfl | rfl
      · exact dropPlus_of_isDigit allDigits
      · rfl
    rw [trimmed, unsigned]
    refine ⟨⟨nonempty, allDigits, ?_, bounded⟩, positive⟩
    rw [valueOf, valueAfter_eq_ofDigitChars, value]

/-- A spelling has no null character. -/
theorem Spells.null_not_mem {text : List Char} {number : Nat} (spells : Spells text number) :
    '\x00' ∉ text := by
  obtain ⟨before, sign, digits, after, rfl, blankBefore, blankAfter, plus, _, allDigits, _⟩ :=
    spells
  intro null
  rcases List.mem_append.mp null with inside | inside
  · rcases List.mem_append.mp inside with inside | inside
    · exact absurd (blankBefore _ inside) (by decide)
    · rcases List.mem_append.mp inside with inside | inside
      · rcases plus with rfl | rfl
        · cases inside
        · exact absurd (List.mem_singleton.mp inside) (by decide)
      · exact absurd (allDigits _ inside) (by decide)
  · exact absurd (blankAfter _ inside) (by decide)

/-- The decimal text of a number spells it. -/
theorem spells_decimal (number : Nat) : Spells (decimal number).toList number := by
  refine ⟨[], [], digits number, [], by simp [decimal], by simp, by simp, .inl rfl,
    digits_ne_nil number, fun _ => isDigit_of_mem_digits, ?_⟩
  rw [← valueAfter_eq_ofDigitChars]
  exact valueOf_digits number

end LedKit.BuildStep
