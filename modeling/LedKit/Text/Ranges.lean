/-!
# Ranges of code points

A property of characters is given as a list of closed ranges of code points.
-/

namespace LedKit.Text

/-- The code point of the character lies in one of the closed ranges. -/
def inRanges (ranges : List (Nat × Nat)) (character : Char) : Bool :=
  ranges.any fun (first, last) => first ≤ character.toNat && character.toNat ≤ last

theorem inRanges_iff {ranges : List (Nat × Nat)} {character : Char} :
    inRanges ranges character = true ↔
      ∃ range ∈ ranges, range.1 ≤ character.toNat ∧ character.toNat ≤ range.2 := by
  simp [inRanges]

/-- The letters and digits of ASCII. -/
def asciiRanges : List (Nat × Nat) := [(48, 57), (65, 90), (97, 122)]

theorem inRanges_of_isAlphanum {character : Char} (ascii : character.isAlphanum = true) :
    inRanges asciiRanges character = true := by
  rw [inRanges_iff]
  rcases Bool.or_eq_true_iff.mp ascii with letter | digit
  · rcases Bool.or_eq_true_iff.mp letter with upper | lower
    · obtain ⟨first, last⟩ := of_decide_eq_true upper
      exact ⟨(65, 90), .tail _ (.head _), first, last⟩
    · obtain ⟨first, last⟩ := Bool.and_eq_true_iff.mp lower
      exact ⟨(97, 122), .tail _ (.tail _ (.head _)), of_decide_eq_true first,
        of_decide_eq_true last⟩
  · obtain ⟨first, last⟩ := Bool.and_eq_true_iff.mp digit
    exact ⟨(48, 57), .head _, of_decide_eq_true first, of_decide_eq_true last⟩

end LedKit.Text
