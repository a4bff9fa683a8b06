import LedKit.BuildStep.Interval

/-!
# Where the reading of milliseconds stops

The characters of a text are read as its bytes are: a digit is a single byte, and no other character
begins with the byte of a digit. A text is a number exactly when its bytes are digits whose value
stays within sixty-four bits. Any other text has one byte where reading stops and one reason for it,
and nothing after that byte has a say.
-/

namespace LedKit.Millis

open LedKit.Text

/-! ## The bytes of a text -/

/-- The bytes of a text. -/
def bytesOf (text : String) : List UInt8 := text.toUTF8.data.toList

/-- The byte is that of an ASCII digit. -/
def IsDigit (byte : UInt8) : Prop := 48 ≤ byte ∧ byte ≤ 57

instance (byte : UInt8) : Decidable (IsDigit byte) := inferInstanceAs (Decidable (_ ∧ _))

/-- The number that one more digit makes of a number already read. -/
def extend (before : Nat) (byte : UInt8) : Nat := before * 10 + (byte.toNat - 48)

/-- The decimal value of a run of digits; the empty run counts as zero. -/
def valueOfBytes (bytes : List UInt8) : Nat := bytes.foldl extend 0

theorem bytesOf_eq (text : String) : bytesOf text = text.toList.flatMap String.utf8EncodeChar := by
  have encoded : text.toUTF8 = text.toList.utf8Encode := by
    rw [String.toUTF8_eq_toByteArray, ← String.toByteArray_ofList, String.ofList_toList]
  rw [bytesOf, encoded, List.utf8Encode, List.data_toByteArray]

theorem toNat_ofUInt8 (byte : UInt8) : (Char.ofUInt8 byte).toNat = byte.toNat :=
  UInt8.toNat_toUInt32 byte

theorem isDigit_iff {byte : UInt8} : IsDigit byte ↔ 48 ≤ byte.toNat ∧ byte.toNat ≤ 57 := Iff.rfl

theorem isDigit_ofUInt8 {byte : UInt8} : (Char.ofUInt8 byte).isDigit = true ↔ IsDigit byte := by
  rw [isDigit_iff, ← toNat_ofUInt8, Char.isDigit, Bool.and_eq_true, decide_eq_true_iff,
    decide_eq_true_iff]
  exact Iff.rfl

theorem extend_eq (before : Nat) (byte : UInt8) :
    before * 10 + digitValue (Char.ofUInt8 byte) = extend before byte := by
  rw [digitValue, toNat_ofUInt8]
  rfl

theorem valueOf_map_ofUInt8 (bytes : List UInt8) :
    valueOf (bytes.map Char.ofUInt8) = valueOfBytes bytes := by
  simp only [valueOf, valueAfter, List.foldl_map, extend_eq]
  rfl

theorem ofUInt8_ofNat {character : Char} (ascii : character.toNat ≤ 127) :
    Char.ofUInt8 (UInt8.ofNat character.toNat) = character := by
  apply Char.toNat_inj.mp
  rw [toNat_ofUInt8, UInt8.toNat_ofNat']
  omega

/-- A digit is a single byte. -/
theorem utf8EncodeChar_of_isDigit {character : Char} (digit : character.isDigit = true) :
    ∃ byte, String.utf8EncodeChar character = [byte] ∧ Char.ofUInt8 byte = character := by
  have small : character.toNat ≤ 57 := by
    rw [Char.isDigit, Bool.and_eq_true, decide_eq_true_iff, decide_eq_true_iff] at digit
    exact digit.2
  have ascii : character.toNat ≤ 127 := by omega
  exact ⟨UInt8.ofNat character.toNat, if_pos ascii, ofUInt8_ofNat ascii⟩

/-- No other character begins with the byte of a digit. -/
theorem utf8EncodeChar_of_not_isDigit {character : Char} (other : character.isDigit = false) :
    ∃ byte rest, String.utf8EncodeChar character = byte :: rest ∧
      (Char.ofUInt8 byte).isDigit = false := by
  -- The first byte of a longer code is 192 at least.
  have beyond (value : Nat) (low : 192 ≤ value) (high : value < 256) :
      (Char.ofUInt8 (UInt8.ofNat value)).isDigit = false := by
    rw [Bool.eq_false_iff, ne_eq, isDigit_ofUInt8, isDigit_iff, UInt8.toNat_ofNat']
    omega
  simp only [String.utf8EncodeChar]
  split
  · next ascii =>
      refine ⟨_, _, rfl, ?_⟩
      change (Char.ofUInt8 (UInt8.ofNat character.toNat)).isDigit = false
      rw [ofUInt8_ofNat ascii, other]
  · split
    · exact ⟨_, _, rfl, beyond _ (by omega) (by omega)⟩
    · split
      · exact ⟨_, _, rfl, beyond _ (by omega) (by omega)⟩
      · exact ⟨_, _, rfl, beyond _ (by omega) (by omega)⟩

theorem next_of_not_isDigit (before : Nat) {character : Char} (other : character.isDigit = false) :
    next before character = .error .notDigit := if_pos other

/-- Reading the bytes of characters, each as a character of its own, is reading the characters. -/
theorem readAfter_bytes (before : Nat) (text : List Char) :
    readAfter before ((text.flatMap String.utf8EncodeChar).map Char.ofUInt8) =
      readAfter before text := by
  induction text generalizing before with
  | nil => rfl
  | cons character rest ih =>
      cases kind : character.isDigit with
      | true =>
          obtain ⟨byte, encoded, same⟩ := utf8EncodeChar_of_isDigit kind
          simp only [List.flatMap_cons, encoded, List.singleton_append, List.map_cons, same,
            readAfter, ih]
      | false =>
          obtain ⟨byte, others, encoded, unlike⟩ := utf8EncodeChar_of_not_isDigit kind
          simp only [List.flatMap_cons, encoded, List.cons_append, List.map_cons, readAfter,
            next_of_not_isDigit before unlike, next_of_not_isDigit before kind]

theorem read_bytes (text : String) :
    read ((bytesOf text).map Char.ofUInt8) = read text.toList := by
  rw [bytesOf_eq]
  exact readAfter_bytes 0 text.toList

/-! ## Where reading stops -/

/-- Why no byte can follow digits of some value, and what is said about it. -/
inductive Breaks (before : Nat) (byte : UInt8) : String → Prop where
  | notDigit (other : ¬IsDigit byte) : Breaks before byte "BLINK_INTERVAL_MS is not a number"
  | product (digit : IsDigit byte) (large : largest < 10 * before) :
      Breaks before byte "attempt to multiply with overflow"
  | sum (digit : IsDigit byte) (fits : 10 * before ≤ largest)
      (large : largest < extend before byte) : Breaks before byte "attempt to add with overflow"

/-- The bytes before a position are digits within the bounds and the byte there cannot follow. -/
structure Stops (bytes : List UInt8) (position : Nat) (message : String) : Prop where
  digits : ∀ byte ∈ bytes.take position, IsDigit byte
  bounded : valueOfBytes (bytes.take position) ≤ largest
  breaks : ∃ byte, bytes[position]? = some byte ∧
    Breaks (valueOfBytes (bytes.take position)) byte message

/-- A byte either stops the reading or is a digit that keeps the value within the bounds. -/
theorem breaks_or_extends (before : Nat) (byte : UInt8) :
    (∃ message, Breaks before byte message) ∨ IsDigit byte ∧ extend before byte ≤ largest := by
  by_cases digit : IsDigit byte
  · by_cases fits : 10 * before ≤ largest
    · by_cases within : extend before byte ≤ largest
      · exact .inr ⟨digit, within⟩
      · exact .inl ⟨_, .sum digit fits (Nat.lt_of_not_le within)⟩
    · exact .inl ⟨_, .product digit (Nat.lt_of_not_le fits)⟩
  · exact .inl ⟨_, .notDigit digit⟩

/-- A byte that stops the reading is the fault of the next step, with its message. -/
theorem Breaks.next {before : Nat} {byte : UInt8} {message : String}
    (breaks : Breaks before byte message) :
    ∃ fault : Fault, Millis.next before (Char.ofUInt8 byte) = .error fault ∧
      fault.message = message := by
  unfold Millis.next
  rw [extend_eq, Nat.mul_comm before 10]
  cases breaks with
  | notDigit other =>
      have unlike : (Char.ofUInt8 byte).isDigit = false := by
        rwa [Bool.eq_false_iff, ne_eq, isDigit_ofUInt8]
      exact ⟨.notDigit, if_pos unlike, rfl⟩
  | product digit large =>
      rw [isDigit_ofUInt8.mpr digit, if_neg nofun, if_pos large]
      exact ⟨.productTooLarge, rfl, rfl⟩
  | sum digit fits large =>
      rw [isDigit_ofUInt8.mpr digit, if_neg nofun,
        if_neg (Nat.not_lt_of_le fits), if_pos large]
      exact ⟨.sumTooLarge, rfl, rfl⟩

theorem readAfter_append (before : Nat) (first second : List Char) :
    readAfter before (first ++ second) =
      (readAfter before first).bind (readAfter · second) := by
  induction first generalizing before with
  | nil => rfl
  | cons character rest ih =>
      rw [List.cons_append, readAfter, readAfter]
      cases next before character with
      | error fault => rfl
      | ok value => exact ih value

/-- Digits within the bounds are read as their value. -/
theorem read_of_digits {bytes : List UInt8} (digits : ∀ byte ∈ bytes, IsDigit byte)
    (bounded : valueOfBytes bytes ≤ largest) :
    read (bytes.map Char.ofUInt8) = .ok (valueOfBytes bytes) := by
  rw [← valueOf_map_ofUInt8] at bounded ⊢
  refine readAfter_of_isDigit (fun character member => ?_) bounded
  obtain ⟨byte, inside, rfl⟩ := List.mem_map.mp member
  exact isDigit_ofUInt8.mpr (digits byte inside)

namespace Stops

variable {bytes : List UInt8} {position : Nat} {message : String}

/-- Reading stops where it must. -/
theorem read_eq (stops : Stops bytes position message) :
    (read (bytes.map Char.ofUInt8)).mapError Fault.message = .error message := by
  obtain ⟨byte, there, breaks⟩ := stops.breaks
  obtain ⟨inside, rfl⟩ := List.getElem?_eq_some_iff.mp there
  obtain ⟨fault, stopped, rfl⟩ := breaks.next
  have whole : bytes = bytes.take position ++ bytes[position] :: bytes.drop (position + 1) := by
    rw [List.getElem_cons_drop, List.take_append_drop]
  have before : readAfter 0 ((bytes.take position).map Char.ofUInt8) =
      .ok (valueOfBytes (bytes.take position)) := read_of_digits stops.digits stops.bounded
  rw [read, congrArg (List.map Char.ofUInt8) whole, List.map_append, readAfter_append, before,
    List.map_cons]
  change (readAfter (valueOfBytes (bytes.take position)) _).mapError _ = _
  rw [readAfter, stopped]
  rfl

/-- Nothing after the byte where reading stops has a say. -/
theorem of_take_eq (stops : Stops bytes position message) {other : List UInt8}
    (same : other.take (position + 1) = bytes.take (position + 1)) :
    Stops other position message := by
  have before : other.take position = bytes.take position := by
    simpa only [List.take_take, Nat.min_eq_left (Nat.le_succ position)]
      using congrArg (List.take position) same
  have there : other[position]? = bytes[position]? := by
    rw [← List.getElem?_take_of_lt (Nat.lt_succ_self position), same,
      List.getElem?_take_of_lt (Nat.lt_succ_self position)]
  obtain ⟨digits, bounded, breaks⟩ := stops
  exact ⟨before ▸ digits, before ▸ bounded, before ▸ there ▸ breaks⟩

end Stops

/-- However many bytes have been read, they are digits within the bounds or reading has stopped. -/
theorem digits_or_stops (bytes : List UInt8) (count : Nat) :
    ((∀ byte ∈ bytes.take count, IsDigit byte) ∧ valueOfBytes (bytes.take count) ≤ largest) ∨
      ∃ position message, Stops bytes position message := by
  induction count with
  | zero => exact .inl ⟨by simp, Nat.zero_le largest⟩
  | succ count ih =>
      rcases ih with ⟨digits, bounded⟩ | stopped
      · cases there : bytes[count]? with
        | none =>
            rw [List.take_add_one, there, Option.toList_none, List.append_nil]
            exact .inl ⟨digits, bounded⟩
        | some byte =>
            rcases breaks_or_extends (valueOfBytes (bytes.take count)) byte with
              ⟨message, breaks⟩ | ⟨digit, within⟩
            · exact .inr ⟨count, message, digits, bounded, byte, there, breaks⟩
            · refine .inl ?_
              rw [List.take_add_one, there, Option.toList_some, List.forall_mem_append,
                List.forall_mem_singleton, valueOfBytes, List.foldl_append]
              exact ⟨⟨digits, digit⟩, within⟩
      · exact .inr stopped

/-- Bytes are a number within the bounds or have a place where reading stops. -/
theorem number_or_stops (bytes : List UInt8) :
    ((∀ byte ∈ bytes, IsDigit byte) ∧ valueOfBytes bytes ≤ largest) ∨
      ∃ position message, Stops bytes position message := by
  have read := digits_or_stops bytes bytes.length
  rwa [List.take_length] at read

/-- More digits never make a value smaller. -/
theorem valueOfBytes_le_append (first second : List UInt8) :
    valueOfBytes first ≤ valueOfBytes (first ++ second) := by
  rw [← valueOf_map_ofUInt8, ← valueOf_map_ofUInt8, List.map_append, valueOf, valueOf,
    valueAfter_append]
  exact le_valueAfter _ _

namespace Breaks

variable {before : Nat} {byte : UInt8} {message : String}

theorem not_extends (breaks : Breaks before byte message) (digit : IsDigit byte) :
    largest < extend before byte := by
  cases breaks with
  | notDigit other => exact absurd digit other
  | product _ large => simp only [extend]; omega
  | sum _ _ large => exact large

/-- The sum alone is too large after one number only, and with four digits. -/
theorem eq_sum_iff (breaks : Breaks before byte message) :
    message = "attempt to add with overflow" ↔
      before = 1844674407370955161 ∧ 54 ≤ byte ∧ byte ≤ 57 := by
  have bound : largest = 18446744073709551615 := rfl
  have last : 54 ≤ byte ∧ byte ≤ 57 ↔ 54 ≤ byte.toNat ∧ byte.toNat ≤ 57 := Iff.rfl
  rw [last]
  cases breaks with
  | notDigit other =>
      rw [isDigit_iff] at other
      exact iff_of_false (by decide) (by omega)
  | product digit large => exact iff_of_false (by decide) (by omega)
  | sum digit fits large =>
      rw [isDigit_iff] at digit
      rw [extend] at large
      exact iff_of_true rfl (by omega)

end Breaks

namespace Stops

variable {bytes : List UInt8} {position other : Nat} {message reason : String}

/-- Where reading goes on, it has not stopped before. -/
theorem le_of_stops (first : Stops bytes position message) (second : Stops bytes other reason) :
    other ≤ position := by
  refine Nat.le_of_not_lt fun earlier => ?_
  obtain ⟨byte, there, breaks⟩ := first.breaks
  have read : (bytes.take other).take (position + 1) = bytes.take position ++ [byte] := by
    rw [List.take_take, Nat.min_eq_left earlier, List.take_add_one, there, Option.toList_some]
  have whole : bytes.take other =
      (bytes.take position ++ [byte]) ++ (bytes.take other).drop (position + 1) := by
    rw [← read, List.take_append_drop]
  have digit : IsDigit byte := by
    apply second.digits
    rw [whole]
    simp
  have within : extend (valueOfBytes (bytes.take position)) byte ≤ largest := by
    apply Nat.le_trans _ second.bounded
    rw [whole]
    apply Nat.le_trans _ (valueOfBytes_le_append _ _)
    rw [valueOfBytes, valueOfBytes, List.foldl_append]
    exact Nat.le_refl _
  exact Nat.not_lt_of_le within (breaks.not_extends digit)

/-- There is one place where reading stops, and one reason. -/
theorem unique (first : Stops bytes position message) (second : Stops bytes other reason) :
    other = position ∧ reason = message := by
  have same := second.read_eq.symm.trans first.read_eq
  exact ⟨Nat.le_antisymm (first.le_of_stops second) (second.le_of_stops first),
    Except.error.inj same⟩

end Stops

/-! ## The law of reading -/

/-- What holds of reading a text as milliseconds. -/
structure ReadingLaw (text : String) : Prop where
  /-- A text is read when its bytes are digits whose value is within the bounds, and as that value. -/
  accepts : ∀ value, read text.toList = .ok value ↔
    (∀ byte ∈ bytesOf text, IsDigit byte) ∧ valueOfBytes (bytesOf text) = value ∧ value ≤ largest
  /-- A message is that of the place where reading stops. -/
  refuses : ∀ message, (read text.toList).mapError Fault.message = .error message ↔
    ∃ position, Stops (bytesOf text) position message
  /-- Any other text has one such place, and one reason to stop there. -/
  stops : ¬((∀ byte ∈ bytesOf text, IsDigit byte) ∧ valueOfBytes (bytesOf text) ≤ largest) →
    ∃ position message, Stops (bytesOf text) position message ∧
      ∀ other reason, Stops (bytesOf text) other reason → other = position ∧ reason = message
  /-- The bytes after that place have no say. -/
  later : ∀ position message, Stops (bytesOf text) position message → ∀ other : String,
    (bytesOf other).take (position + 1) = (bytesOf text).take (position + 1) →
      (read other.toList).mapError Fault.message = .error message
  /-- It is the sum that is too large after this number and before one of these digits alone. -/
  sum : ∀ position message, Stops (bytesOf text) position message →
    (message = "attempt to add with overflow" ↔
      valueOfBytes ((bytesOf text).take position) = 1844674407370955161 ∧
        ∃ byte, (bytesOf text)[position]? = some byte ∧ 54 ≤ byte ∧ byte ≤ 57)
  /-- The build step reads the same number from the text. -/
  parsed : text ≠ "" → ∀ value, read text.toList = .ok value →
    BuildStep.unsigned? text.toList = some value

theorem read_eq_ok_iff {text : String} {value : Nat} :
    read text.toList = .ok value ↔
      (∀ byte ∈ bytesOf text, IsDigit byte) ∧ valueOfBytes (bytesOf text) = value ∧
        value ≤ largest := by
  rw [← read_bytes]
  constructor
  · intro success
    rcases number_or_stops (bytesOf text) with ⟨digits, bounded⟩ | ⟨position, message, stops⟩
    · rw [read_of_digits digits bounded] at success
      cases success
      exact ⟨digits, rfl, bounded⟩
    · have stopped := stops.read_eq
      rw [success] at stopped
      cases stopped
  · rintro ⟨digits, rfl, bounded⟩
    exact read_of_digits digits bounded

theorem unsigned?_of_read {text : String} (some : text ≠ "") {value : Nat}
    (success : read text.toList = .ok value) :
    BuildStep.unsigned? text.toList = .some value := by
  obtain ⟨digits, rfl⟩ := of_readAfter_eq_ok success
  have bounded := (read_eq_ok_iff.mp success).2.2
  rw [BuildStep.unsigned?_eq_some_iff, BuildStep.dropPlus_of_isDigit digits]
  exact ⟨mt String.toList_eq_nil_iff.mp some, digits, rfl, bounded⟩

/--
Every text keeps to the law of reading, and the decimal text of every number of sixty-four bits is
read as that number.
-/
theorem reading_law :
    (∀ text, ReadingLaw text) ∧
      ∀ number : UInt64, read (toString number).toList = .ok number.toNat := by
  refine ⟨fun text => ?_, fun number => ?_⟩
  · constructor
    case accepts => exact fun _ => read_eq_ok_iff
    case refuses =>
      intro message
      rw [← read_bytes]
      constructor
      · intro refused
        rcases number_or_stops (bytesOf text) with ⟨digits, bounded⟩ | ⟨position, reason, stops⟩
        · rw [read_of_digits digits bounded] at refused
          cases refused
        · rw [stops.read_eq] at refused
          cases refused
          exact ⟨position, stops⟩
      · rintro ⟨position, stops⟩
        exact stops.read_eq
    case stops =>
      intro other
      rcases number_or_stops (bytesOf text) with number | ⟨position, message, stops⟩
      · exact absurd number other
      · exact ⟨position, message, stops, fun _ _ => stops.unique⟩
    case later =>
      intro position message stops other same
      rw [← read_bytes]
      exact (stops.of_take_eq same).read_eq
    case sum =>
      intro position message stops
      obtain ⟨byte, there, breaks⟩ := stops.breaks
      rw [breaks.eq_sum_iff, there]
      simp
    case parsed => exact fun some _ => unsigned?_of_read some
  · have bounded : number.toNat ≤ largest := Nat.le_sub_one_of_lt number.toNat_lt
    have decimal : toString number = decimal number.toNat := (decimal_eq_toString _).symm
    rw [decimal, Text.decimal, String.toList_ofList]
    exact read_digits bounded

end LedKit.Millis
