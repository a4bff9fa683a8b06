import LedKit.Millis
import LedKit.Text.Blank

/-!
# The configured interval

The interval is configured as a text: a positive number of milliseconds that fits into sixty-four
bits, in decimal, perhaps with a plus sign and with blanks around it.
-/

namespace LedKit.BuildStep

open LedKit.Text

/-- A text without the plus sign it may begin with. -/
def dropPlus : List Char → List Char
  | '+' :: rest => rest
  | text => text

theorem exists_sign_append_dropPlus (text : List Char) :
    ∃ sign, (sign = [] ∨ sign = ['+']) ∧ text = sign ++ dropPlus text := by
  unfold dropPlus
  split
  · exact ⟨['+'], .inr rfl, rfl⟩
  · exact ⟨[], .inl rfl, rfl⟩

/-- A text that begins with a digit has no plus sign to drop. -/
theorem dropPlus_of_isDigit {text : List Char}
    (digits : ∀ character ∈ text, character.isDigit = true) : dropPlus text = text := by
  unfold dropPlus
  split
  · have plus := digits '+' List.mem_cons_self
    exact absurd plus (by decide)
  · rfl

/-- The number that a text gives in sixty-four bits: at least one digit, perhaps after a plus
sign. -/
def unsigned? (text : List Char) : Option Nat :=
  let digits := dropPlus text
  if digits ≠ [] ∧ digits.all Char.isDigit ∧ valueOf digits ≤ Millis.largest then
    some (valueOf digits)
  else none

theorem unsigned?_eq_some_iff {text : List Char} {number : Nat} :
    unsigned? text = some number ↔
      dropPlus text ≠ [] ∧ (∀ character ∈ dropPlus text, character.isDigit = true) ∧
        valueOf (dropPlus text) = number ∧ number ≤ Millis.largest := by
  simp only [unsigned?, Option.ite_none_right_eq_some, Option.some.injEq, List.all_eq_true]
  constructor
  · rintro ⟨⟨nonempty, digits, bounded⟩, rfl⟩
    exact ⟨nonempty, digits, rfl, bounded⟩
  · rintro ⟨nonempty, digits, rfl, bounded⟩
    exact ⟨⟨nonempty, digits, bounded⟩, rfl⟩

/-- The interval that a configured text gives. -/
def interval? (text : String) : Option Nat := (unsigned? (trim text.toList)).filter (0 < ·)

theorem interval?_eq_some_iff {text : String} {interval : Nat} :
    interval? text = some interval ↔
      unsigned? (trim text.toList) = some interval ∧ 0 < interval := by
  rw [interval?, Option.filter_eq_some_iff, decide_eq_true_eq]

end LedKit.BuildStep
