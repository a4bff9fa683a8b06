import LedKit.Text.Decimal

/-!
# Milliseconds in sixty-four bits

The blink interval reaches the firmware as a text of digits, which is read from the left. Reading
stops at the first character that is no digit or at the first step that leaves the sixty-four
bits: each digit costs a multiplication by ten and an addition.
-/

namespace LedKit.Millis

/-- The largest number of milliseconds. -/
def largest : Nat := UInt64.size - 1

/-- Why a text gives no number of milliseconds. -/
inductive Fault where
  | notDigit
  | productTooLarge
  | sumTooLarge
  deriving DecidableEq

def Fault.message : Fault → String
  | notDigit => "BLINK_INTERVAL_MS is not a number"
  | productTooLarge => "attempt to multiply with overflow"
  | sumTooLarge => "attempt to add with overflow"

/-- Read one more character after a number. -/
def next (read : Nat) (character : Char) : Except Fault Nat :=
  if character.isDigit = false then .error .notDigit
  else if largest < read * 10 then .error .productTooLarge
  else if largest < read * 10 + Text.digitValue character then .error .sumTooLarge
  else .ok (read * 10 + Text.digitValue character)

/-- Read a text after a number. -/
def readAfter (read : Nat) : List Char → Except Fault Nat
  | [] => .ok read
  | character :: rest =>
    match next read character with
    | .error fault => .error fault
    | .ok value => readAfter value rest

/-- Read a text of digits. The empty text counts as zero. -/
def read (text : List Char) : Except Fault Nat := readAfter 0 text

@[simp] theorem readAfter_nil (read : Nat) : readAfter read [] = .ok read := rfl

theorem next_eq_ok_iff {read : Nat} {character : Char} {value : Nat} :
    next read character = .ok value ↔
      character.isDigit = true ∧ value = read * 10 + Text.digitValue character ∧
        value ≤ largest := by
  unfold next
  split
  · next notDigit => simp [notDigit]
  · split
    · next large => grind
    · split
      · next large => grind
      · next isDigit productFits sumFits =>
        simp only [Except.ok.injEq]
        grind

/-- Reading digits from within the bounds succeeds when the value stays within them. -/
theorem readAfter_of_isDigit {read : Nat} {text : List Char}
    (digits : ∀ character ∈ text, character.isDigit = true)
    (bounded : Text.valueAfter read text ≤ largest) :
    readAfter read text = .ok (Text.valueAfter read text) := by
  induction text generalizing read with
  | nil => rfl
  | cons character rest ih =>
    rw [Text.valueAfter_cons] at bounded ⊢
    have first : next read character = .ok (read * 10 + Text.digitValue character) :=
      next_eq_ok_iff.mpr ⟨digits character List.mem_cons_self, rfl,
        Nat.le_trans (Text.le_valueAfter _ rest) bounded⟩
    rw [readAfter, first]
    exact ih (fun other member => digits other (List.mem_cons_of_mem _ member)) bounded

/-- What is read without a fault are digits, and the number is their value. -/
theorem of_readAfter_eq_ok {read value : Nat} {text : List Char}
    (success : readAfter read text = .ok value) :
    (∀ character ∈ text, character.isDigit = true) ∧ value = Text.valueAfter read text := by
  induction text generalizing read with
  | nil => exact ⟨by simp, by simpa using success.symm⟩
  | cons character rest ih =>
    rw [readAfter] at success
    split at success
    · contradiction
    · next between first =>
      obtain ⟨isDigit, rfl, _⟩ := next_eq_ok_iff.mp first
      obtain ⟨others, rfl⟩ := ih success
      exact ⟨by simpa using ⟨isDigit, others⟩, rfl⟩

/-- Every number within the bounds is read back from its decimal text. -/
theorem read_digits {value : Nat} (bounded : value ≤ largest) :
    read (Text.digits value) = .ok value := by
  have exact : Text.valueAfter 0 (Text.digits value) = value := Text.valueOf_digits value
  have success : readAfter 0 (Text.digits value) = .ok (Text.valueAfter 0 (Text.digits value)) :=
    readAfter_of_isDigit (fun _ => Text.isDigit_of_mem_digits) (exact.symm ▸ bounded)
  rwa [exact] at success

end LedKit.Millis
