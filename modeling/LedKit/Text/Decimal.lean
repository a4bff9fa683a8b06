/-!
# Numbers in digits

Natural numbers are written in base ten without leading zeros. Reading a run of digits gives its
value whatever zeros it begins with, so reading what was written gives the number back. Words and
code points are written in base sixteen.
-/

namespace LedKit.Text

/-- The value of an ASCII digit. -/
def digitValue (digit : Char) : Nat := digit.toNat - '0'.toNat

/-- The digit that stands for a number below ten. -/
def digitOf (value : Nat) : Char := Char.ofNat ('0'.toNat + value)

theorem digitValue_digitOf {value : Nat} (small : value < 10) :
    digitValue (digitOf value) = value := by
  revert value
  decide

theorem isDigit_digitOf {value : Nat} (small : value < 10) :
    (digitOf value).isDigit = true := by
  revert value
  decide

theorem digitValue_lt {digit : Char} (isDigit : digit.isDigit = true) : digitValue digit < 10 := by
  simp only [Char.isDigit, Bool.and_eq_true, decide_eq_true_eq] at isDigit
  have upper : digit.toNat ≤ '9'.toNat := isDigit.2
  simp only [digitValue]
  have : '9'.toNat = 57 := rfl
  have : '0'.toNat = 48 := rfl
  omega

/-- The value of a run of digits that follows a number already read. -/
def valueAfter (read : Nat) (digits : List Char) : Nat :=
  digits.foldl (fun value digit => value * 10 + digitValue digit) read

/-- The value of a run of digits; the empty run counts as zero. -/
def valueOf (digits : List Char) : Nat := valueAfter 0 digits

@[simp] theorem valueAfter_nil (read : Nat) : valueAfter read [] = read := rfl

@[simp] theorem valueAfter_cons (read : Nat) (digit : Char) (digits : List Char) :
    valueAfter read (digit :: digits) = valueAfter (read * 10 + digitValue digit) digits := by
  simp only [valueAfter, List.foldl_cons]

/-- More digits never make a number smaller. -/
theorem le_valueAfter (read : Nat) (digits : List Char) : read ≤ valueAfter read digits := by
  induction digits generalizing read with
  | nil => exact Nat.le_refl read
  | cons digit rest ih =>
    have := ih (read * 10 + digitValue digit)
    rw [valueAfter_cons]
    omega

theorem valueAfter_append (read : Nat) (first second : List Char) :
    valueAfter read (first ++ second) = valueAfter (valueAfter read first) second :=
  List.foldl_append

@[simp] theorem valueOf_nil : valueOf [] = 0 := rfl

theorem valueOf_append_singleton (digits : List Char) (digit : Char) :
    valueOf (digits ++ [digit]) = valueOf digits * 10 + digitValue digit :=
  valueAfter_append 0 digits [digit]

/-- The digits of a number, the most significant first. -/
def digits (number : Nat) : List Char :=
  if number < 10 then [digitOf number]
  else digits (number / 10) ++ [digitOf (number % 10)]
termination_by number
decreasing_by omega

theorem digits_of_lt {number : Nat} (small : number < 10) : digits number = [digitOf number] := by
  rw [digits, if_pos small]

theorem digits_of_le {number : Nat} (large : 10 ≤ number) :
    digits number = digits (number / 10) ++ [digitOf (number % 10)] := by
  rw [digits, if_neg (by omega)]

/-- Reading the digits of a number gives the number back. -/
@[simp] theorem valueOf_digits (number : Nat) : valueOf (digits number) = number := by
  induction number using Nat.strongRecOn with
  | ind number ih =>
    by_cases small : number < 10
    · rw [digits_of_lt small]
      simp [valueOf, digitValue_digitOf small]
    · rw [digits_of_le (by omega), valueOf_append_singleton, ih _ (by omega),
        digitValue_digitOf (Nat.mod_lt _ (by omega))]
      omega

theorem isDigit_of_mem_digits {number : Nat} {digit : Char} (member : digit ∈ digits number) :
    digit.isDigit = true := by
  induction number using Nat.strongRecOn with
  | ind number ih =>
    by_cases small : number < 10
    · rw [digits_of_lt small, List.mem_singleton] at member
      exact member ▸ isDigit_digitOf small
    · rw [digits_of_le (by omega), List.mem_append, List.mem_singleton] at member
      rcases member with member | rfl
      · exact ih _ (by omega) member
      · exact isDigit_digitOf (Nat.mod_lt _ (by omega))

@[simp] theorem digits_ne_nil (number : Nat) : digits number ≠ [] := by
  by_cases small : number < 10
  · simp [digits_of_lt small]
  · simp [digits_of_le (Nat.le_of_not_lt small)]

/-- The digits of a number are those that the standard library writes. -/
theorem digits_eq_toDigits (number : Nat) : digits number = Nat.toDigits 10 number := by
  have sameDigit : ∀ value < 10, digitOf value = Nat.digitChar value := by decide
  induction number using Nat.strongRecOn with
  | ind number ih =>
    by_cases small : number < 10
    · rw [digits_of_lt small, Nat.toDigits_of_lt_base small, sameDigit number small]
    · have large : 10 ≤ number := Nat.le_of_not_lt small
      rw [digits_of_le large, Nat.toDigits_of_base_le (by decide) large, ih _ (by omega),
        sameDigit _ (Nat.mod_lt _ (by decide))]

/-- The value of digits is that which the standard library reads. -/
theorem valueAfter_eq_ofDigitChars (read : Nat) (digits : List Char) :
    valueAfter read digits = Nat.ofDigitChars 10 digits read := by
  induction digits generalizing read with
  | nil => rfl
  | cons digit rest ih =>
    rw [valueAfter_cons, ih, Nat.ofDigitChars_cons, Nat.mul_comm]
    rfl

/-- Only zero is written with a zero at its beginning. -/
theorem head?_digits_ne {number : Nat} (positive : 0 < number) :
    (digits number).head? ≠ some '0' := by
  have notZero : ∀ value < 10, 0 < value → digitOf value ≠ '0' := by decide
  induction number using Nat.strongRecOn with
  | ind number ih =>
    by_cases small : number < 10
    · rw [digits_of_lt small]
      exact fun zero => notZero number small positive (Option.some.inj zero)
    · have leading := ih (number / 10) (by omega) (by omega)
      obtain ⟨first, rest, split⟩ := List.exists_cons_of_ne_nil (digits_ne_nil (number / 10))
      rw [split] at leading
      rw [digits_of_le (Nat.le_of_not_lt small), split]
      exact leading

/-- The text of a number in base ten. -/
def decimal (number : Nat) : String := String.ofList (digits number)

theorem decimal_eq_toString (number : Nat) : decimal number = toString number := by
  rw [decimal, digits_eq_toDigits, Nat.toString_eq_ofList_toDigits]

/-- The value of a hexadecimal digit. -/
def hexValue? (digit : Char) : Option Nat :=
  if digit.isDigit then some (digit.toNat - '0'.toNat)
  else if 'a' ≤ digit && digit ≤ 'f' then some (digit.toNat - 'a'.toNat + 10)
  else if 'A' ≤ digit && digit ≤ 'F' then some (digit.toNat - 'A'.toNat + 10)
  else none

theorem hexValue?_digitChar {value : Nat} (small : value < 16) :
    hexValue? (Nat.digitChar value) = some value := by
  revert value
  decide

/-- The text of a number in base sixteen with lower-case digits, filled up with zeros. -/
def hexadecimal (width number : Nat) : String :=
  String.ofList (List.leftpad width '0' (Nat.toDigits 16 number))

/-- A number has a digit, so there is nothing to fill up to a width of one. -/
theorem toList_hexadecimal_one (number : Nat) :
    (hexadecimal 1 number).toList = Nat.toDigits 16 number := by
  have filled : 1 - (Nat.toDigits 16 number).length = 0 :=
    Nat.sub_eq_zero_of_le Nat.length_toDigits_pos
  rw [hexadecimal, String.toList_ofList, List.leftpad, filled]
  rfl

theorem exists_digitChar_of_mem_toDigits {number : Nat} {digit : Char}
    (member : digit ∈ Nat.toDigits 16 number) : ∃ value < 16, digit = Nat.digitChar value := by
  induction number using Nat.strongRecOn with
  | ind number ih =>
    by_cases small : number < 16
    · rw [Nat.toDigits_of_lt_base small, List.mem_singleton] at member
      exact ⟨number, small, member⟩
    · rw [Nat.toDigits_of_base_le (by decide) (Nat.le_of_not_lt small), List.mem_append,
        List.mem_singleton] at member
      rcases member with member | last
      · exact ih (number / 16) (by omega) member
      · exact ⟨number % 16, Nat.mod_lt _ (by decide), last⟩

example : decimal 500 = "500" := by decide +kernel
example : hexadecimal 8 32 = "00000020" := by decide +kernel

end LedKit.Text
