import LedKit.Proofs.Json.Acceptance
import LedKit.Proofs.Json.Extension

/-!
# Reading back what was written

Each value has a few forms, lists of tokens, of which the first without blanks is what is written.
Every form is read as the value, wherever blanks stand between the tokens. The rest follows for any
such reader that takes the same from a longer text: writing tells values apart, and no text that is
accepted can be followed by more than blanks.
-/

namespace LedKit.Json

open LedKit.Text

/-! ## Tokens with blanks around them -/

/-- The text consists of the tokens, with blanks before, between and after them. -/
inductive Laid : List (List Char) → List Char → Prop where
  | nil (gap : Gap) : Laid [] gap.text
  | cons (gap : Gap) (token : List Char) {tokens : List (List Char)} {text : List Char}
      (laid : Laid tokens text) : Laid (token :: tokens) (gap.text ++ (token ++ text))

theorem laid_nil_iff {text : List Char} : Laid [] text ↔ ∃ gap : Gap, text = gap.text := by
  constructor
  · rintro ⟨gap⟩
    exact ⟨gap, rfl⟩
  · rintro ⟨gap, rfl⟩
    exact .nil gap

theorem laid_cons_iff {token : List Char} {tokens : List (List Char)} {text : List Char} :
    Laid (token :: tokens) text ↔
      ∃ (gap : Gap) (rest : List Char), text = gap.text ++ (token ++ rest) ∧ Laid tokens rest := by
  constructor
  · rintro (_ | ⟨gap, _, laid⟩)
    exact ⟨gap, _, rfl, laid⟩
  · rintro ⟨gap, rest, rfl, laid⟩
    exact .cons gap token laid

/-- The tokens without any blanks. -/
theorem laid_flatten (tokens : List (List Char)) : Laid tokens tokens.flatten := by
  induction tokens with
  | nil => exact .nil .none
  | cons token others ih => exact .cons .none token ih

/-! ## Codecs that keep their values -/

/-- A text decoded and written again. -/
def Codec.recode {α : Type} (codec : Codec α) (text : String) : Except Fault String :=
  (codec.decode text).map codec.write

/-- Values are read back from what is written, and from nothing longer. -/
structure RoundTripLaw {α : Type} (codec : Codec α) (forms : α → List (List (List Char))) :
    Prop where
  /-- The first form without blanks is what is written. -/
  compact : ∀ value, ∃ tokens others,
    forms value = tokens :: others ∧ codec.write value = String.ofList tokens.flatten
  /-- What is written is read as the value. -/
  written : ∀ value, codec.decode (codec.write value) = .ok value
  /-- Every form is read as the value, with any blanks around its tokens. -/
  decoded : ∀ value, ∀ tokens ∈ forms value, ∀ text, Laid tokens text →
    codec.decode (String.ofList text) = .ok value
  /-- Whatever was read as a value is written as the one text of the value. -/
  canonical : ∀ text value,
    codec.decode text = .ok value → codec.recode text = .ok (codec.write value)
  /-- Decoding and writing a second time changes nothing. -/
  idempotent : ∀ text recoded, codec.recode text = .ok recoded → codec.recode recoded = .ok recoded
  /-- Texts are written alike just when they are read alike. -/
  separated : ∀ text other value otherValue,
    codec.decode text = .ok value → codec.decode other = .ok otherValue →
      (codec.recode text = codec.recode other ↔ value = otherValue)
  /-- Only blanks may follow a text that is accepted. -/
  ended : ∀ (text more : String) (value : α),
    codec.decode text = .ok value → (∃ character ∈ more.toList, isBlank character = false) →
      (codec.decode (text ++ more)).mapError Fault.text = .error "syntax"

theorem dropBlanks_ne_nil_of_mem {text : List Char} {character : Char} (member : character ∈ text)
    (solid : isBlank character = false) : dropBlanks text ≠ [] := by
  intro none
  have parts := List.takeWhile_append_dropWhile (p := isBlank) (l := text)
  rw [← dropBlanks, none, List.append_nil] at parts
  have blank := List.all_eq_true.mp List.all_takeWhile character (parts.symm ▸ member)
  rw [solid] at blank
  cases blank

theorem read_of_decode {α : Type} {codec : Codec α} {text : String} {value : α}
    (decoded : codec.decode text = .ok value) :
    ∃ rest, codec.read text.toList = .ok (value, rest) := by
  unfold Codec.decode at decoded
  split at decoded
  · cases decoded
  · next found read =>
    split at decoded
    · cases decoded
      exact ⟨_, read⟩
    · cases decoded

/-- A reader that takes the same from a longer text refuses what is no blank. -/
theorem decode_append_of_solid {α : Type} {codec : Codec α}
    (keeps : ∀ {text rest : List Char} {value : α}, codec.read text = .ok (value, rest) →
      ∀ more, codec.read (text ++ more) = .ok (value, rest ++ more))
    {text more : String} {value : α} (decoded : codec.decode text = .ok value)
    {character : Char} (member : character ∈ more.toList) (solid : isBlank character = false) :
    codec.decode (text ++ more) = .error .malformed := by
  obtain ⟨rest, read⟩ := read_of_decode decoded
  have left : dropBlanks (rest ++ more.toList) ≠ [] :=
    dropBlanks_ne_nil_of_mem (List.mem_append_right rest member) solid
  rw [Codec.decode, String.toList_append, keeps read]
  simp [left]

/-- It is enough that the forms are read and that a reader takes the same from a longer text. -/
theorem roundTripLaw_of_forms {α : Type} {codec : Codec α} {forms : α → List (List (List Char))}
    (compact : ∀ value, ∃ tokens others,
      forms value = tokens :: others ∧ codec.write value = String.ofList tokens.flatten)
    (decoded : ∀ value, ∀ tokens ∈ forms value, ∀ text, Laid tokens text →
      codec.decode (String.ofList text) = .ok value)
    (keeps : ∀ {text rest : List Char} {value : α}, codec.read text = .ok (value, rest) →
      ∀ more, codec.read (text ++ more) = .ok (value, rest ++ more)) :
    RoundTripLaw codec forms := by
  have written (value : α) : codec.decode (codec.write value) = .ok value := by
    obtain ⟨tokens, others, first, same⟩ := compact value
    rw [same]
    exact decoded value tokens (first ▸ List.mem_cons_self) _ (laid_flatten tokens)
  have canonical (text : String) (value : α) (read : codec.decode text = .ok value) :
      codec.recode text = .ok (codec.write value) := by
    rw [Codec.recode, read]
    rfl
  constructor
  case compact => exact compact
  case written => exact written
  case decoded => exact decoded
  case canonical => exact canonical
  case idempotent =>
    intro text recoded same
    cases read : codec.decode text with
    | error fault =>
        rw [Codec.recode, read] at same
        cases same
    | ok value =>
        cases (canonical text value read).symm.trans same
        exact canonical _ value (written value)
  case separated =>
    intro text other value otherValue read otherRead
    rw [canonical text value read, canonical other otherValue otherRead]
    constructor
    · intro same
      have texts : codec.write value = codec.write otherValue := Except.ok.inj same
      have values := written value
      rw [texts, written otherValue] at values
      exact (Except.ok.inj values).symm
    · rintro rfl
      rfl
  case ended =>
    rintro text more value read ⟨character, member, solid⟩
    rw [decode_append_of_solid keeps read member solid]
    rfl

/-! ## The forms of choices -/

/-- A name, or an object with the name as its one key. -/
def choiceForms (name : String) : List (List (List Char)) :=
  [[quoted name.toList], [['{'], quoted name.toList, [':'], "null".toList, ['}']]]

theorem decode_of_read {α : Type} {codec : Codec α} (gap : Gap) {text : List Char} {value : α}
    (read : codec.read text = .ok (value, gap.text)) :
    codec.decode (String.ofList text) = .ok value := by
  rw [← toOption_eq_some_iff]
  refine toOption_decode codec gap ?_
  rw [read]
  rfl

theorem dropBlanks_quoted (gap : Gap) (content rest : List Char) :
    dropBlanks (gap.text ++ (quoted content ++ rest)) = quoted content ++ rest :=
  gap.dropBlanks_append_cons (by decide) _

theorem takeText?_quoted {content : List Char} (shown : ∀ character ∈ content, Shown character)
    (rest : List Char) : takeText? (quoted content ++ rest) = some (content, rest) := by
  rw [← TextForm.text_plain content shown, TextForm.takeText?_append,
    TextForm.content?_plain]
  rfl

theorem readName_quoted {α : Type} {ofName? : String → Option α} {name : String} {chosen : α}
    (known : ofName? name = some chosen) (shown : ∀ character ∈ name.toList, Shown character)
    (gap : Gap) (rest : List Char) :
    readName ofName? (gap.text ++ (quoted name.toList ++ rest)) = .ok (chosen, rest) := by
  have text : readText (gap.text ++ (quoted name.toList ++ rest)) = .ok (name.toList, rest) := by
    rw [readText, dropBlanks_quoted, takeText?_quoted shown]
  have looked : lookUp ofName? name.toList = .ok chosen := by
    rw [lookUp, String.ofList_toList, known]
  exact bind_eq_ok_iff.mpr ⟨_, text, bind_eq_ok_iff.mpr ⟨_, looked, rfl⟩⟩

theorem expectNull_append (gap : Gap) (rest : List Char) :
    expectNull (gap.text ++ ("null".toList ++ rest)) = .ok rest := by
  have solid : dropBlanks (gap.text ++ ("null".toList ++ rest)) = "null".toList ++ rest := by
    rw [gap.dropBlanks_append]
    rfl
  have dropped : dropWord? "null".toList ("null".toList ++ rest) = some rest :=
    dropWord?_eq_some_iff.mpr rfl
  simp only [expectNull, solid, dropped]

/-- Every form of a known name is read as what it stands for. -/
theorem readChoice_laid {α : Type} {ofName? : String → Option α} {name : String} {chosen : α}
    (known : ofName? name = some chosen) (shown : ∀ character ∈ name.toList, Shown character)
    {tokens : List (List Char)} (form : tokens ∈ choiceForms name) {text : List Char}
    (laid : Laid tokens text) : ∃ gap : Gap, readChoice ofName? text = .ok (chosen, gap.text) := by
  simp only [choiceForms, List.mem_cons, List.not_mem_nil, or_false] at form
  rcases form with rfl | rfl
  · simp only [laid_cons_iff, laid_nil_iff] at laid
    obtain ⟨before, _, rfl, after, rfl⟩ := laid
    refine ⟨after, ?_⟩
    rw [readChoice, dropBlanks_quoted]
    exact readName_quoted known shown .none after.text
  · simp only [laid_cons_iff, laid_nil_iff] at laid
    obtain ⟨before, _, rfl, beforeName, _, rfl, afterName, _, rfl, beforeNull, _, rfl,
      afterNull, _, rfl, after, rfl⟩ := laid
    refine ⟨after, ?_⟩
    rw [List.singleton_append, readChoice, before.dropBlanks_append_cons (by decide)]
    refine bind_eq_ok_iff.mpr ⟨_, readName_quoted known shown beforeName _, ?_⟩
    refine bind_eq_ok_iff.mpr ⟨_, expect_append afterName isBlank_colon _, ?_⟩
    refine bind_eq_ok_iff.mpr ⟨_, expectNull_append beforeNull _, ?_⟩
    exact bind_eq_ok_iff.mpr ⟨_, expect_append afterNull (by decide) _, rfl⟩

theorem quotedName_eq (name : String) :
    quotedName name = String.ofList (quoted name.toList) := by
  have quote : "\"".toList = ['"'] := by decide +kernel
  rw [← String.toList_inj, String.toList_ofList, quotedName, String.toList_append,
    String.toList_append, quote, quoted]
  rfl

/-! ## The forms of descriptors -/

/-- A needed key with its number. -/
def memberTokens (descriptor : Descriptor) (member : Member) : List (List Char) :=
  [quoted member.key, [':'], digits (member.of descriptor)]

/-- An object with two members. -/
def objectTokens (first second : List (List Char)) : List (List Char) :=
  ['{'] :: (first ++ [','] :: (second ++ [['}']]))

/-- The object, the object with its keys swapped and the list of the two numbers. -/
def descriptorForms (descriptor : Descriptor) : List (List (List Char)) :=
  [objectTokens (memberTokens descriptor .bank) (memberTokens descriptor .pin),
    objectTokens (memberTokens descriptor .pin) (memberTokens descriptor .bank),
    [['['], digits descriptor.bank.toNat, [','], digits descriptor.pin.toNat, [']']]]

/-- An object with the two members, in either order, is read as the descriptor. -/
theorem decode_laid_object {first second : Member} (different : first ≠ second)
    (descriptor : Descriptor) {text : List Char}
    (laid : Laid (objectTokens (memberTokens descriptor first) (memberTokens descriptor second))
      text) :
    descriptorCodec.decode (String.ofList text) = .ok descriptor := by
  simp only [objectTokens, memberTokens, List.cons_append, List.nil_append, laid_cons_iff,
    laid_nil_iff] at laid
  obtain ⟨before, _, rfl, beforeFirst, _, rfl, afterFirst, _, rfl, beforeNumber, _, rfl,
    afterNumber, _, rfl, beforeSecond, _, rfl, afterSecond, _, rfl, beforeOther, _, rfl,
    afterOther, _, rfl, after, rfl⟩ := laid
  let object : ObjectForm :=
    { before := before
      inside := .none
      members :=
        [.integer beforeFirst afterFirst beforeNumber afterNumber first (first.of descriptor),
          .integer beforeSecond afterSecond beforeOther afterOther second (second.of descriptor)]
      after := after }
  have named : object.Named := by
    intro member among
    simp only [object, List.mem_cons, List.not_mem_nil, or_false] at among
    rcases among with rfl | rfl
    · rw [MemberForm.name?_integer]
      rfl
    · rw [MemberForm.name?_integer]
      rfl
  have gives (needed : Member) :
      numbersOf needed object.members = [some (needed.of descriptor)] := by
    have own := natural?_digits (needed.of_lt descriptor)
    rw [numbersOf_integer, numbersOf_integer]
    cases first <;> cases second <;> cases needed <;>
      first | exact congrArg (fun given => [given]) own | exact absurd rfl different
  have written : object.text = before.text ++ (['{'] ++ (beforeFirst.text ++ (quoted first.key ++
      (afterFirst.text ++ ([':'] ++ (beforeNumber.text ++ (digits (first.of descriptor) ++
        (afterNumber.text ++ ([','] ++ (beforeSecond.text ++ (quoted second.key ++
          (afterSecond.text ++ ([':'] ++ (beforeOther.text ++ (digits (second.of descriptor) ++
            (afterOther.text ++ (['}'] ++ after.text))))))))))))))))) := by
    simp only [ObjectForm.text, object, body, followers, MemberForm.text_integer,
      NumberForm.text_ofInt_natCast, Gap.none, List.flatMap_cons, List.flatMap_nil,
      List.append_assoc, List.nil_append, List.append_nil, List.cons_append]
  exact written ▸ (decode_object_iff object descriptor).mpr ⟨named, gives⟩

theorem derives_digits (number : Nat) : Derives .value (digits number) :=
  NumberForm.text_ofInt_natCast number ▸ .number _

theorem readNatural_digits {bound number : Nat} (small : bound ≤ UInt64.size)
    (within : number < bound) (gap : Gap) {rest : List Char} (ends : Ends rest) :
    readNatural bound (gap.text ++ (digits number ++ rest)) = .ok (number, rest) := by
  rw [← toOption_eq_some_iff, readNatural_append small gap (derives_digits number) ends,
    natural?_digits within]
  rfl

theorem head?_dropBlanks_digits_ne (gap : Gap) (number : Nat) (rest : List Char) :
    (dropBlanks (gap.text ++ (digits number ++ rest))).head? ≠ some ']' :=
  (((derives_digits number).begins.append_right rest).append_left gap).head?_dropBlanks_ne
    (by decide)

theorem readItem_digits {bound number : Nat} (small : bound ≤ UInt64.size)
    (within : number < bound) (gap : Gap) {rest : List Char} (ends : Ends rest) :
    readItem bound (gap.text ++ (digits number ++ rest)) = .ok (number, rest) := by
  rw [readItem, if_neg (head?_dropBlanks_digits_ne gap number rest)]
  exact readNatural_digits small within gap ends

theorem expectNext_digits (gap next : Gap) (number : Nat) (rest : List Char) :
    expectNext (gap.text ++ ',' :: (next.text ++ (digits number ++ rest))) =
      .ok (next.text ++ (digits number ++ rest)) := by
  have comma : isBlank ',' = false := by decide
  have goesOn : ¬ ((',' :: (next.text ++ (digits number ++ rest))).head? = some ']') :=
    fun same => absurd (Option.some.inj same) (by decide)
  rw [expectNext, gap.dropBlanks_append_cons comma, if_neg goesOn, expect_append gap comma]
  exact if_neg (head?_dropBlanks_digits_ne next number rest)

/-- A list of the two numbers is read as the descriptor. -/
theorem readPair_append (descriptor : Descriptor) (beforeBank afterBank beforePin afterPin : Gap)
    (rest : List Char) :
    readPair (beforeBank.text ++ (digits descriptor.bank.toNat ++ (afterBank.text ++
      ',' :: (beforePin.text ++ (digits descriptor.pin.toNat ++ (afterPin.text ++ ']' :: rest)))))) =
        .ok (descriptor, rest) := by
  have behindBank (others : List Char) : Ends (afterBank.text ++ ',' :: others) :=
    afterBank.ends_append (ends_cons (by decide) others)
  have behindPin : Ends (afterPin.text ++ ']' :: rest) :=
    afterPin.ends_append (ends_cons (by decide) rest)
  have bank (others : List Char) := readItem_digits Member.bank.bound_le
    (Member.bank.of_lt descriptor) beforeBank (behindBank others)
  have pin := readNatural_digits Member.pin.bound_le (Member.pin.of_lt descriptor) beforePin
    behindPin
  refine bind_eq_ok_iff.mpr ⟨_, bank _, ?_⟩
  refine bind_eq_ok_iff.mpr ⟨_, expectNext_digits afterBank beforePin _ _, ?_⟩
  refine bind_eq_ok_iff.mpr ⟨_, pin, ?_⟩
  refine bind_eq_ok_iff.mpr ⟨_, expect_append afterPin (by decide) rest, ?_⟩
  simp only [Member.of, UInt8.ofNat_toNat, UInt16.ofNat_toNat]
  rfl

theorem decode_laid_list (descriptor : Descriptor) {text : List Char}
    (laid : Laid [['['], digits descriptor.bank.toNat, [','], digits descriptor.pin.toNat, [']']]
      text) :
    descriptorCodec.decode (String.ofList text) = .ok descriptor := by
  simp only [laid_cons_iff, laid_nil_iff] at laid
  obtain ⟨before, _, rfl, beforeBank, _, rfl, afterBank, _, rfl, beforePin, _, rfl,
    afterPin, _, rfl, after, rfl⟩ := laid
  refine decode_of_read after ?_
  change readDescriptor _ = _
  rw [List.singleton_append, readDescriptor, before.dropBlanks_append_cons (by decide)]
  exact readPair_append descriptor beforeBank afterBank beforePin afterPin after.text

/-! ## The laws -/

theorem objectText_eq (descriptor : Descriptor) :
    objectText descriptor = String.ofList
      (objectTokens (memberTokens descriptor .bank) (memberTokens descriptor .pin)).flatten := by
  have object : objectText descriptor =
      integerObject descriptor.bank.toNat descriptor.pin.toNat := by
    unfold objectText
    rewrite [decimal_eq_toString, decimal_eq_toString]
    rfl
  rw [object, ← String.toList_inj, toList_integerObject, String.toList_ofList]
  simp [MemberForm.compact, MemberForm.text_integer, NumberForm.text_ofInt_natCast, objectTokens,
    memberTokens, Gap.none, Member.of]

theorem slot_round_trip :
    RoundTripLaw slotCodec fun slot => choiceForms (Slot.nameOf slot) := by
  refine roundTripLaw_of_forms ?_ ?_ readChoice_extends
  · intro slot
    exact ⟨_, _, rfl, (quotedName_eq _).trans (by simp)⟩
  · intro slot tokens form text laid
    have shown : ∀ character ∈ (Slot.nameOf slot).toList, Shown character := by
      rcases slot with _ | _ | _ | _ <;> exact shown_of_all (by decide +kernel)
    obtain ⟨gap, read⟩ := readChoice_laid (Slot.ofName?_nameOf slot) shown form laid
    exact decode_of_read gap read

theorem state_round_trip : RoundTripLaw stateCodec fun state => choiceForms state.name := by
  refine roundTripLaw_of_forms ?_ ?_ readChoice_extends
  · intro state
    exact ⟨_, _, rfl, (quotedName_eq _).trans (by simp)⟩
  · intro state tokens form text laid
    have shown : ∀ character ∈ state.name.toList, Shown character := by
      cases state <;> exact shown_of_all (by decide +kernel)
    obtain ⟨gap, read⟩ := readChoice_laid (LedState.ofName?_name state) shown form laid
    exact decode_of_read gap read

theorem descriptor_round_trip : RoundTripLaw descriptorCodec descriptorForms := by
  refine roundTripLaw_of_forms ?_ ?_ readDescriptor_extends
  · intro descriptor
    exact ⟨_, _, rfl, objectText_eq descriptor⟩
  · intro descriptor tokens form text laid
    simp only [descriptorForms, List.mem_cons, List.not_mem_nil, or_false] at form
    rcases form with rfl | rfl | rfl
    · exact decode_laid_object (by decide) descriptor laid
    · exact decode_laid_object (by decide) descriptor laid
    · exact decode_laid_list descriptor laid

/-- Slots, states and descriptors are read back as they were written. -/
theorem values_round_trip :
    RoundTripLaw slotCodec (fun slot => choiceForms (Slot.nameOf slot)) ∧
      RoundTripLaw stateCodec (fun state => choiceForms state.name) ∧
      RoundTripLaw descriptorCodec descriptorForms :=
  ⟨slot_round_trip, state_round_trip, descriptor_round_trip⟩

theorem values_round_trip_largest :
    descriptorCodec.decode "[255,65535]" = .ok ⟨255, 65535⟩ ∧
      (descriptorCodec.decode ("[255,65535]" ++ " ]")).mapError Fault.text = .error "syntax" := by
  have form : [['['], digits 255, [','], digits 65535, [']']] ∈ descriptorForms ⟨255, 65535⟩ :=
    List.mem_cons_of_mem _ (List.mem_cons_of_mem _ (List.mem_singleton_self _))
  have text : String.ofList [['['], digits 255, [','], digits 65535, [']']].flatten =
      "[255,65535]" := by decide +kernel
  have read := values_round_trip.2.2.decoded ⟨255, 65535⟩ _ form _ (laid_flatten _)
  rw [text] at read
  exact ⟨read, values_round_trip.2.2.ended _ " ]" _ read ⟨']', by decide, by decide⟩⟩

end LedKit.Json
