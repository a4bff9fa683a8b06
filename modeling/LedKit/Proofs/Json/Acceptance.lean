import LedKit.Proofs.Json.Objects

/-!
# Which objects are descriptors

An object is accepted when each of the two keys is there once, with plain digits in range. Other
members may stand anywhere and hold anything, as long as their keys stand for texts; half of a
surrogate pair stands for none. Of two integers that are written compactly, the first that is out of
range decides what is wrong.
-/

namespace LedKit.Json

open LedKit.Text

/-! ## What an object gives for a key -/

namespace ObjectForm

/-- The key is there once, with plain digits that give the number. -/
def Gives (object : ObjectForm) (key : String) (number : Nat) : Prop :=
  ∃ literal : List Char,
    (object.members.filter (·.name? = some key.toList)).map MemberForm.value = [literal] ∧
      (literal ≠ [] ∧ ∀ character ∈ literal, character.isDigit = true) ∧
      Nat.ofDigitChars 10 literal 0 = number

/-- The keys and values of the members that a descriptor needs. -/
def needed (object : ObjectForm) : List (Option (List Char) × List Char) :=
  (object.members.map fun member => (member.name?, member.value)).filter fun entry =>
    entry.1 = some "port_index".toList ∨ entry.1 = some "pin".toList

end ObjectForm

/-- The key of a needed member as a text. -/
def Member.keyText : Member → String
  | bank => "port_index"
  | pin => "pin"

theorem Member.toList_keyText (member : Member) : member.keyText.toList = member.key := by
  cases member <;> rfl

/-- A key gives one number below its bound just when it is there once with plain digits for it. -/
theorem numbersOf_eq_singleton_iff (object : ObjectForm) {needed : Member} {number : Nat} :
    numbersOf needed object.members = [some number] ↔
      object.Gives needed.keyText number ∧ number < needed.bound := by
  rw [ObjectForm.Gives, needed.toList_keyText, numbersOf]
  simp only [List.map_eq_singleton_iff, natural?_eq_some_iff, valueOf, valueAfter_eq_ofDigitChars]
  constructor
  · rintro ⟨member, only, plain, value, within⟩
    exact ⟨⟨member.value, ⟨member, only, rfl⟩, plain, value⟩, within⟩
  · rintro ⟨⟨_, ⟨member, only, rfl⟩, plain, value⟩, within⟩
    exact ⟨member, only, plain, value, within⟩

/-- What is given for a needed key can be told from the needed members alone. -/
theorem numbersOf_eq_map_needed (object : ObjectForm) (needed : Member) :
    numbersOf needed object.members =
      (object.needed.filter (·.1 = some needed.key)).map (natural? needed.bound ·.2) := by
  have asked (key : Option (List Char)) :
      (key = some needed.key ∧ (key = some "port_index".toList ∨ key = some "pin".toList)) ↔
        key = some needed.key := by
    refine and_iff_left_of_imp ?_
    rintro rfl
    cases needed <;> decide
  simp only [numbersOf, ObjectForm.needed, List.filter_filter, List.filter_map, List.map_map,
    Function.comp_def, ← Bool.decide_and, asked]

/-! ## Two integers in a compact object -/

theorem Member.shown_key (member : Member) : ∀ character ∈ member.key, Shown character := by
  cases member <;> exact shown_of_all (by decide +kernel)

/-- A member with a needed key and an integer. -/
def MemberForm.integer (before afterKey beforeValue after : Gap) (member : Member) (value : Int) :
    MemberForm where
  before := before
  key := .plain member.key member.shown_key
  afterKey := afterKey
  beforeValue := beforeValue
  value := (NumberForm.ofInt value).text
  isValue := .number _
  after := after

section Integer

variable (before afterKey beforeValue after : Gap) (member : Member)

theorem MemberForm.value_integer (number : Nat) :
    (integer before afterKey beforeValue after member number).value = digits number :=
  NumberForm.text_ofInt_natCast number

theorem MemberForm.name?_integer (value : Int) :
    (integer before afterKey beforeValue after member value).name? = some member.key :=
  TextForm.content?_plain member.key member.shown_key

theorem MemberForm.text_integer (value : Int) :
    (integer before afterKey beforeValue after member value).text =
      before.text ++ (quoted member.key ++ (afterKey.text ++
        ':' :: (beforeValue.text ++ ((NumberForm.ofInt value).text ++ after.text)))) := by
  simp only [text, integer, TextForm.text_plain]

/-- What a member with a natural number gives. -/
theorem numbersOf_integer (needed : Member) (number : Nat) (others : List MemberForm) :
    numbersOf needed (.integer before afterKey beforeValue after member number :: others) =
      if needed = member then natural? needed.bound (digits number) :: numbersOf needed others
      else numbersOf needed others := by
  rw [numbersOf_cons (MemberForm.name?_integer ..), Member.ofKey?_key, MemberForm.value_integer]
  by_cases same : needed = member
  · rw [if_pos same, if_pos (congrArg some same.symm)]
  · rw [if_neg same, if_neg fun other => same (Option.some.inj other).symm]

end Integer

/-- A member without blanks. -/
def MemberForm.compact : Member → Int → MemberForm := integer .none .none .none .none

theorem readMember_compact {draft : Draft} {member : Member} (missing : draft.get member = none)
    {value : Int} (short : (digits value.natAbs).length ≤ keptDigits) {rest : List Char}
    (ends : Ends rest) :
    readMember draft ((MemberForm.compact member value).text ++ rest) =
      if 0 ≤ value ∧ value < member.bound then .ok (draft.put member value.toNat, rest)
      else .error (integerFault value) := by
  rw [readMember_append, MemberForm.name?, MemberForm.compact, MemberForm.integer,
    TextForm.content?_plain]
  simp only [readValueOf_missing (Member.ofKey?_key member) missing]
  simp only [Gap.none, List.nil_append]
  have read := readNatural_ofInt member.bound_le .none short ends
  rw [Gap.none, List.nil_append] at read
  rw [read]
  split <;> rfl

/-- The compact object of two integers. -/
def integerObject (bank pin : Int) : String :=
  "\x7b\"port_index\":" ++ toString bank ++ ",\"pin\":" ++ toString pin ++ "\x7d"

theorem MemberForm.text_compact (member : Member) (value : Int) :
    (compact member value).text = quoted member.key ++ ':' :: (toString value).toList := by
  simp only [compact, text_integer, Gap.none, NumberForm.text_ofInt, List.nil_append,
    List.append_nil]

/-- Two texts between three others, of which the characters are known. -/
theorem toList_between {opening between closing : String} {first second third : List Char}
    (isFirst : opening.toList = first) (isSecond : between.toList = second)
    (isThird : closing.toList = third) (text other : String) :
    (opening ++ text ++ between ++ other ++ closing).toList =
      first ++ (text.toList ++ (second ++ (other.toList ++ third))) := by
  simp only [String.toList_append, isFirst, isSecond, isThird, List.append_assoc]

theorem toList_integerObject (bank pin : Int) :
    (integerObject bank pin).toList =
      '{' :: ((MemberForm.compact .bank bank).text ++
        ',' :: ((MemberForm.compact .pin pin).text ++ ['}'])) := by
  have opening : "\x7b\"port_index\":".toList = '{' :: (quoted Member.bank.key ++ [':']) := by
    decide +kernel
  have between : ",\"pin\":".toList = ',' :: (quoted Member.pin.key ++ [':']) := by
    decide +kernel
  have closing : "\x7d".toList = ['}'] := by decide +kernel
  refine (toList_between opening between closing (toString bank) (toString pin)).trans ?_
  simp only [MemberForm.text_compact, List.append_assoc, List.cons_append, List.nil_append]

theorem decode_of_fault {α : Type} (codec : Codec α) {text : String} {fault : Fault}
    (read : codec.read text.toList = .error fault) : codec.decode text = .error fault := by
  simp only [Codec.decode, read]

/-- The two members of the compact object are read one after the other. -/
theorem readDescriptor_integerObject (bank pin : Int) :
    readDescriptor (integerObject bank pin).toList =
      (readMember .empty ((MemberForm.compact .bank bank).text ++
        ',' :: ((MemberForm.compact .pin pin).text ++ ['}']))).bind fun (after, rest) =>
          readMembers after false rest := by
  rw [toList_integerObject, ← readMembers_first _ ((MemberForm.begins _).append_right _)]
  exact readDescriptor_brace .none _

theorem decode_integerObject_of_bank {bank pin : Int}
    (short : (digits bank.natAbs).length ≤ keptDigits)
    (outside : ¬ (0 ≤ bank ∧ bank < Member.bank.bound)) :
    descriptorCodec.decode (integerObject bank pin) = .error (integerFault bank) := by
  refine decode_of_fault descriptorCodec ((readDescriptor_integerObject bank pin).trans ?_)
  rw [readMember_compact (Draft.get_empty .bank) short (ends_cons (by decide) _), if_neg outside]
  rfl

theorem decode_integerObject_of_pin {bank pin : Int}
    (shortBank : (digits bank.natAbs).length ≤ keptDigits)
    (within : 0 ≤ bank ∧ bank < Member.bank.bound)
    (shortPin : (digits pin.natAbs).length ≤ keptDigits)
    (outside : ¬ (0 ≤ pin ∧ pin < Member.pin.bound)) :
    descriptorCodec.decode (integerObject bank pin) = .error (integerFault pin) := by
  refine decode_of_fault descriptorCodec ((readDescriptor_integerObject bank pin).trans ?_)
  rw [readMember_compact (Draft.get_empty .bank) shortBank (ends_cons (by decide) _), if_pos within]
  refine (readMembers_comma _ .none _).trans ?_
  rw [readMember_compact (by rfl) shortPin (ends_cons (by decide) _), if_neg outside]
  rfl

/-! ## The law -/

/-- Of two integers that are not both in range the first that is not. -/
def leftmostOutside (bank pin : Int) : Int := if 0 ≤ bank ∧ bank ≤ 255 then pin else bank

/-- Decoding a descriptor from an object accepts exactly the right objects. -/
structure ObjectLaw : Prop where
  /-- The two keys are there once each, with plain digits for just the two numbers. -/
  decoded : ∀ (object : ObjectForm) (descriptor : Descriptor),
    descriptorCodec.decode (String.ofList object.text) = .ok descriptor ↔
      object.Named ∧ object.Gives "port_index" descriptor.bank.toNat ∧
        object.Gives "pin" descriptor.pin.toNat
  /-- Some descriptor is decoded just when both numbers are in range. -/
  accepted : ∀ object : ObjectForm,
    (∃ descriptor, descriptorCodec.decode (String.ofList object.text) = .ok descriptor) ↔
      object.Named ∧ (∃ bank ≤ 255, object.Gives "port_index" bank) ∧
        ∃ pin ≤ 65535, object.Gives "pin" pin
  /-- Neither the order of the members nor any other member matters. -/
  unordered : ∀ (object other : ObjectForm) (descriptor : Descriptor),
    other.Named → other.needed.Perm object.needed →
      descriptorCodec.decode (String.ofList object.text) = .ok descriptor →
        descriptorCodec.decode (String.ofList other.text) = .ok descriptor
  /-- Of two integers the first that is out of range decides why the object is refused. -/
  outOfRange : ∀ bank pin : Int,
    (Nat.toDigits 10 bank.natAbs).length ≤ 300 → (Nat.toDigits 10 pin.natAbs).length ≤ 300 →
      ¬ ((0 ≤ bank ∧ bank ≤ 255) ∧ 0 ≤ pin ∧ pin ≤ 65535) →
        (descriptorCodec.decode (integerObject bank pin)).mapError Fault.text =
          .error (if -(2 : Int) ^ 63 ≤ leftmostOutside bank pin ∧
              leftmostOutside bank pin < 2 ^ 64 then "invalid value" else "invalid type")

theorem decode_object_iff_gives (object : ObjectForm) (descriptor : Descriptor) :
    descriptorCodec.decode (String.ofList object.text) = .ok descriptor ↔
      object.Named ∧ object.Gives "port_index" descriptor.bank.toNat ∧
        object.Gives "pin" descriptor.pin.toNat := by
  rw [decode_object_iff]
  simp only [numbersOf_eq_singleton_iff, and_iff_left (Member.of_lt _ _)]
  refine and_congr_right fun _ => ⟨fun gives => ⟨gives .bank, gives .pin⟩, ?_⟩
  rintro ⟨bank, pin⟩ (_ | _)
  · exact bank
  · exact pin

theorem integerFault_text (value : Int) :
    (integerFault value).text =
      if -(2 : Int) ^ 63 ≤ value ∧ value < 2 ^ 64 then "invalid value" else "invalid type" := by
  unfold integerFault
  split <;> rfl

theorem descriptor_objects_accepted : ObjectLaw := by
  constructor
  case decoded => exact decode_object_iff_gives
  case accepted =>
    intro object
    simp only [decode_object_iff_gives]
    constructor
    · rintro ⟨descriptor, named, bank, pin⟩
      exact ⟨named, ⟨_, Nat.le_of_lt_succ descriptor.bank.toNat_lt, bank⟩,
        ⟨_, Nat.le_of_lt_succ descriptor.pin.toNat_lt, pin⟩⟩
    · rintro ⟨named, ⟨bank, smallBank, givesBank⟩, ⟨pin, smallPin, givesPin⟩⟩
      refine ⟨⟨UInt8.ofNat bank, UInt16.ofNat pin⟩, named, ?_, ?_⟩
      · rwa [UInt8.toNat_ofNat_of_lt' (Nat.lt_succ_of_le smallBank)]
      · rwa [UInt16.toNat_ofNat_of_lt' (Nat.lt_succ_of_le smallPin)]
  case unordered =>
    intro object other descriptor named same decoded
    rw [decode_object_iff] at decoded ⊢
    refine ⟨named, fun needed => ?_⟩
    have given := decoded.2 needed
    rw [numbersOf_eq_map_needed] at given ⊢
    have permuted := (same.filter (·.1 = some needed.key)).map (natural? needed.bound ·.2)
    rw [given] at permuted
    exact List.perm_singleton.mp permuted
  case outOfRange =>
    intro bank pin shortBank shortPin outside
    rw [← digits_eq_toDigits] at shortBank shortPin
    have bankBound : Member.bank.bound = 256 := rfl
    have pinBound : Member.pin.bound = 65536 := rfl
    have refused : descriptorCodec.decode (integerObject bank pin) =
        .error (integerFault (leftmostOutside bank pin)) := by
      by_cases within : 0 ≤ bank ∧ bank ≤ 255
      · rw [leftmostOutside, if_pos within]
        exact decode_integerObject_of_pin shortBank (by omega) shortPin (by omega)
      · rw [leftmostOutside, if_neg within]
        exact decode_integerObject_of_bank shortBank (by omega)
    rw [refused, ← integerFault_text]
    rfl

theorem descriptor_objects_accepted_beyond_bytes :
    (descriptorCodec.decode (integerObject 0 65536)).mapError Fault.text =
        .error "invalid value" ∧
      (descriptorCodec.decode (integerObject 18446744073709551616 (-1))).mapError Fault.text =
        .error "invalid type" :=
  ⟨descriptor_objects_accepted.outOfRange 0 65536 (by decide) (by decide) (by decide),
    descriptor_objects_accepted.outOfRange 18446744073709551616 (-1) (by decide) (by decide)
      (by decide)⟩

/-- A member with half of a surrogate pair for its key. -/
def strayMember : MemberForm :=
  { MemberForm.compact .bank 0 with
    key := ⟨[.unit ⟨'d', 13, rfl⟩ ⟨'8', 8, rfl⟩ ⟨'0', 0, rfl⟩ ⟨'0', 0, rfl⟩]⟩ }

theorem name?_strayMember : strayMember.name? = none := rfl

/-- An object with such a member before the two that are needed. -/
def strayKey : ObjectForm where
  before := .none
  inside := .none
  members := [strayMember, .compact .bank 0, .compact .pin 5]
  after := .none

theorem numbersOf_strayKey (needed : Member) :
    numbersOf needed strayKey.members = [some (needed.of ⟨0, 5⟩)] := by
  have others : numbersOf needed strayKey.members =
      numbersOf needed [.compact .bank (0 : Nat), .compact .pin (5 : Nat)] := by
    rw [numbersOf, strayKey, List.filter_cons_of_neg (by simp [name?_strayMember]), numbersOf]
    rfl
  rw [others, MemberForm.compact, numbersOf_integer, numbersOf_integer]
  cases needed with
  | bank => rw [if_pos rfl, natural?_digits (by decide)]; rfl
  | pin => rw [if_neg (by decide), if_pos rfl, natural?_digits (by decide)]; rfl

/-- A key that stands for no text is refused, whatever the needed members give. -/
theorem strayKey_refused :
    String.ofList strayKey.text = "\x7b\"\\ud800\":0,\"port_index\":0,\"pin\":5\x7d" ∧
      strayKey.Gives "port_index" 0 ∧ strayKey.Gives "pin" 5 ∧
      ¬ ∃ descriptor, descriptorCodec.decode (String.ofList strayKey.text) = .ok descriptor := by
  refine ⟨by decide +kernel, ?_, ?_, ?_⟩
  · exact ((numbersOf_eq_singleton_iff strayKey).mp (numbersOf_strayKey .bank)).1
  · exact ((numbersOf_eq_singleton_iff strayKey).mp (numbersOf_strayKey .pin)).1
  rintro ⟨descriptor, decoded⟩
  have named := ((decode_object_iff strayKey descriptor).mp decoded).1 strayMember
    List.mem_cons_self
  rw [name?_strayMember] at named
  cases named

end LedKit.Json
