import LedKit.Json.Codec
import LedKit.Proofs.Json.Literals

/-!
# Descriptors among the members of an object

An object is a list of members, each a key in any spelling with any well-formed value. Reading goes
from member to member with a draft of what was found. What the members give for each needed key,
put behind what the draft already has, never changes on the way; at the end it is one number each,
and these are the descriptor.
-/

namespace LedKit.Json

open LedKit.Text

/-! ## Objects as they are written -/

/-- A member of an object as it is written. -/
structure MemberForm where
  before : Gap
  key : TextForm
  afterKey : Gap
  beforeValue : Gap
  value : List Char
  isValue : Derives .value value
  after : Gap

namespace MemberForm

/-- The member as it is written. -/
def text (form : MemberForm) : List Char :=
  form.before.text ++ (form.key.text ++ (form.afterKey.text ++
    ':' :: (form.beforeValue.text ++ (form.value ++ form.after.text))))

/-- The text that the key stands for. A key with a unit that has no partner stands for none. -/
def name? (form : MemberForm) : Option (List Char) := form.key.content?

end MemberForm

/-- An object as it is written, with the blanks around it. -/
structure ObjectForm where
  before : Gap
  inside : Gap
  members : List MemberForm
  after : Gap

/-- Members after the first, each behind a comma. -/
def followers (members : List MemberForm) : List Char :=
  members.flatMap fun member => ',' :: member.text

/-- The members between the braces. -/
def body : List MemberForm → List Char
  | [] => []
  | first :: others => first.text ++ followers others

namespace ObjectForm

/-- The object as it is written. -/
def text (object : ObjectForm) : List Char :=
  object.before.text ++ '{' ::
    (object.inside.text ++ (body object.members ++ '}' :: object.after.text))

/-- Every key stands for a text. -/
def Named (object : ObjectForm) : Prop := ∀ member ∈ object.members, member.name?.isSome

end ObjectForm

/-! ## Results without their faults -/

theorem toOption_bind {α β : Type} (result : Except Fault α) (next : α → Except Fault β) :
    (result.bind next).toOption = result.toOption.bind fun value => (next value).toOption := by
  cases result <;> rfl

theorem toOption_eq_some_iff {α : Type} {result : Except Fault α} {value : α} :
    result.toOption = some value ↔ result = .ok value := by
  cases result <;> simp [Except.toOption]

/-! ## One member -/

theorem expect_append (gap : Gap) {expected : Char} (solid : isBlank expected = false)
    (rest : List Char) : expect [expected] (gap.text ++ expected :: rest) = .ok rest := by
  simp [expect, gap.dropBlanks_append_cons solid, dropWord?]

theorem isBlank_colon : isBlank ':' = false := by decide

/-- What a member adds to a draft. -/
def Draft.take (draft : Draft) (form : MemberForm) : Option Draft :=
  form.name?.bind fun name =>
    match Member.ofKey? name with
    | none => some draft
    | some member =>
      if (draft.get member).isSome then none
      else (natural? member.bound form.value).map (draft.put member)

theorem readMember_append (draft : Draft) (form : MemberForm) (rest : List Char) :
    readMember draft (form.text ++ rest) =
      match form.name? with
      | none => .error .malformed
      | some name => readValueOf draft name (form.afterKey.text ++
          ':' :: (form.beforeValue.text ++ (form.value ++ (form.after.text ++ rest)))) := by
  simp only [MemberForm.text, List.append_assoc, List.cons_append]
  rw [readMember, form.before.dropBlanks_append, form.key.text_append,
    dropBlanks_cons_of_not (by decide), ← form.key.text_append, form.key.takeText?_append,
    MemberForm.name?]
  cases form.key.content? with
  | none => rfl
  | some name => rfl

theorem Member.bound_le (member : Member) : member.bound ≤ UInt64.size := by
  cases member <;> decide

/-- Behind the key of a member that is still missing, its number is read. -/
theorem readValueOf_missing {draft : Draft} {name : List Char} {member : Member}
    (known : Member.ofKey? name = some member) (missing : draft.get member = none) (gap : Gap)
    (text : List Char) :
    readValueOf draft name (gap.text ++ ':' :: text) =
      (readNatural member.bound text).map fun (number, rest) => (draft.put member number, rest) := by
  have absent : ¬ (draft.get member).isSome = true := by simp [missing]
  simp only [readValueOf, known, if_neg absent, expect_append gap isBlank_colon]
  cases readNatural member.bound text <;> rfl

/-- Reading a member takes what it adds to the draft. -/
theorem toOption_readMember (draft : Draft) (form : MemberForm) {rest : List Char}
    (ends : Ends rest) :
    (readMember draft (form.text ++ rest)).toOption =
      (draft.take form).map fun after => (after, form.after.text ++ rest) := by
  have stops := form.after.ends_append ends
  rw [readMember_append, Draft.take]
  cases form.name? with
  | none => rfl
  | some name =>
      simp only [Option.bind_some]
      cases known : Member.ofKey? name with
      | none =>
          simp only [readValueOf, known, expect_append form.afterKey isBlank_colon,
            skipValue?_append form.beforeValue form.isValue stops]
          rfl
      | some member =>
          have number := readNatural_append member.bound_le form.beforeValue form.isValue stops
          cases present : draft.get member with
          | some found =>
              simp only [readValueOf, known, present]
              rfl
          | none =>
              have absent : ¬ (draft.get member).isSome = true := by simp [present]
              simp only [readValueOf_missing known present, toOption_map, number, if_neg absent,
                Option.map_map]
              rfl

/-! ## The members one after the other -/

theorem readMembers_closing (draft : Draft) (isFirst : Bool) (gap : Gap) (rest : List Char) :
    readMembers draft isFirst (gap.text ++ '}' :: rest) =
      draft.finish.map fun descriptor => (descriptor, rest) := by
  have closed : dropWord? ['}'] (dropBlanks (gap.text ++ '}' :: rest)) = some rest := by
    rw [gap.dropBlanks_append_cons (by decide)]
    rfl
  rw [readMembers]
  split
  · next after found =>
      cases closed.symm.trans found
      cases draft.finish <;> rfl
  · next unclosed => cases closed.symm.trans unclosed

theorem readMembers_comma (draft : Draft) (gap : Gap) (text : List Char) :
    readMembers draft false (gap.text ++ ',' :: text) =
      (readMember draft text).bind fun (after, rest) => readMembers after false rest := by
  have unclosed : dropWord? ['}'] (dropBlanks (gap.text ++ ',' :: text)) = none := by
    rw [gap.dropBlanks_append_cons (by decide)]
    rfl
  have separated := expect_append gap (by decide : isBlank ',' = false) text
  rw [readMembers]
  grind [Except.bind]

theorem readMembers_first (draft : Draft) {text : List Char} (begins : Begins text) :
    readMembers draft true text =
      (readMember draft text).bind fun (after, rest) => readMembers after false rest := by
  have unclosed : dropWord? ['}'] (dropBlanks text) = none := by
    have other := begins.head?_dropBlanks_ne (by decide : isEnd '}' = true)
    cases same : dropBlanks text with
    | nil => rfl
    | cons first others =>
        rw [same] at other
        exact if_neg fun closing => other (congrArg some closing.symm)
  rw [readMembers]
  grind [Except.bind]

theorem ends_followers (members : List MemberForm) (rest : List Char) :
    Ends (followers members ++ '}' :: rest) := by
  cases members with
  | nil => exact ends_cons (by decide) rest
  | cons first others => exact ends_cons (by decide) _

/-- Reading the members that are left takes one after the other. -/
theorem toOption_readMembers_followers (members : List MemberForm) (draft : Draft) (gap : Gap)
    (rest : List Char) :
    (readMembers draft false (gap.text ++ (followers members ++ '}' :: rest))).toOption =
      (members.foldlM Draft.take draft).bind fun final =>
        final.finish.toOption.map fun descriptor => (descriptor, rest) := by
  induction members generalizing draft gap with
  | nil =>
      rw [followers, List.flatMap_nil, List.nil_append, readMembers_closing, toOption_map]
      rfl
  | cons first others ih =>
      have split : followers (first :: others) ++ '}' :: rest =
          ',' :: (first.text ++ (followers others ++ '}' :: rest)) := by
        simp [followers]
      rw [split, readMembers_comma, toOption_bind,
        toOption_readMember draft first (ends_followers others rest), List.foldlM_cons]
      cases draft.take first with
      | none => rfl
      | some after => exact ih after first.after

theorem MemberForm.begins (form : MemberForm) : Begins form.text :=
  ((begins_cons (by decide) _).append_right _).append_left form.before

theorem toOption_readMembers_body (members : List MemberForm) (gap : Gap) (rest : List Char) :
    (readMembers .empty true (gap.text ++ (body members ++ '}' :: rest))).toOption =
      (members.foldlM Draft.take .empty).bind fun final =>
        final.finish.toOption.map fun descriptor => (descriptor, rest) := by
  cases members with
  | nil =>
      rw [body, List.nil_append, readMembers_closing, toOption_map]
      rfl
  | cons first others =>
      have begins : Begins (gap.text ++ (first.text ++ (followers others ++ '}' :: rest))) :=
        (first.begins.append_right _).append_left gap
      have passed (text : List Char) :
          readMember .empty (gap.text ++ text) = readMember .empty text := by
        rw [readMember, readMember, gap.dropBlanks_append]
      rw [body, List.append_assoc, readMembers_first _ begins, passed, toOption_bind,
        toOption_readMember .empty first (ends_followers others rest), List.foldlM_cons]
      cases Draft.empty.take first with
      | none => rfl
      | some after => exact toOption_readMembers_followers others after first.after rest

theorem readDescriptor_brace (gap : Gap) (text : List Char) :
    readDescriptor (gap.text ++ '{' :: text) = readMembers .empty true text := by
  rw [readDescriptor, gap.dropBlanks_append_cons (by decide)]
  rfl

/-- A text decodes to what is read when only blanks are left. -/
theorem toOption_decode {α : Type} (codec : Codec α) (gap : Gap) {text : List Char}
    {value? : Option α} (read : (codec.read text).toOption = value?.map fun value => (value, gap.text)) :
    (codec.decode (String.ofList text)).toOption = value? := by
  have blank : dropBlanks gap.text = [] := by
    rw [← List.append_nil gap.text, gap.dropBlanks_append]
    rfl
  rw [Codec.decode, String.toList_ofList]
  cases found : codec.read text with
  | error fault =>
      rw [found] at read
      cases value? with
      | none => rfl
      | some value => cases read
  | ok result =>
      rw [found] at read
      cases value? with
      | none => cases read
      | some value =>
          cases read
          simp only [blank, if_pos]
          rfl

/-- An object decodes to what its members give one after the other. -/
theorem toOption_decode_object (object : ObjectForm) :
    (descriptorCodec.decode (String.ofList object.text)).toOption =
      (object.members.foldlM Draft.take .empty).bind fun final => final.finish.toOption := by
  refine toOption_decode descriptorCodec object.after ?_
  change (readDescriptor object.text).toOption = _
  rw [ObjectForm.text, readDescriptor_brace, toOption_readMembers_body]
  cases object.members.foldlM Draft.take .empty <;> rfl

/-! ## What the members give -/

/-- What each member with a needed key gives for it. -/
def numbersOf (needed : Member) (members : List MemberForm) : List (Option Nat) :=
  (members.filter (·.name? = some needed.key)).map fun member =>
    natural? needed.bound member.value

theorem numbersOf_cons {first : MemberForm} {name : List Char} (named : first.name? = some name)
    (needed : Member) (others : List MemberForm) :
    numbersOf needed (first :: others) =
      if Member.ofKey? name = some needed then
        natural? needed.bound first.value :: numbersOf needed others
      else numbersOf needed others := by
  have same : first.name? = some needed.key ↔ Member.ofKey? name = some needed := by
    rw [named, Member.ofKey?_eq_some_iff, Option.some.injEq]
  by_cases asked : Member.ofKey? name = some needed
  · simp [numbersOf, same.mpr asked, asked]
  · simp [numbersOf, mt same.mp asked, asked]

/-- What a draft already has for a member. -/
def Draft.found (draft : Draft) (needed : Member) : List (Option Nat) :=
  (draft.get needed).toList.map some

namespace Draft

theorem found_of_none {draft : Draft} {needed : Member} (missing : draft.get needed = none) :
    draft.found needed = [] := by
  rw [found, missing]
  rfl

theorem found_of_some {draft : Draft} {needed : Member} {number : Nat}
    (present : draft.get needed = some number) : draft.found needed = [some number] := by
  rw [found, present]
  rfl

theorem found_put (draft : Draft) (member needed : Member) (number : Nat) :
    (draft.put member number).found needed =
      if needed = member then [some number] else draft.found needed := by
  unfold found
  rw [get_put]
  split <;> rfl

theorem length_found_le (draft : Draft) (needed : Member) : (draft.found needed).length ≤ 1 := by
  rw [found, List.length_map]
  exact Option.length_toList_le

theorem none_not_mem_found (draft : Draft) (needed : Member) : none ∉ draft.found needed := by
  simp [found]

/-- Drafts are told apart by what they have. -/
theorem eq_of_found {draft final : Draft}
    (same : ∀ needed : Member, draft.found needed = final.found needed) : draft = final := by
  have equal (needed : Member) : draft.get needed = final.get needed := by
    have lists := (List.map_inj_right fun _ _ => Option.some.inj).mp (same needed)
    simpa using congrArg List.head? lists
  obtain ⟨bank, pin⟩ := draft
  obtain ⟨otherBank, otherPin⟩ := final
  cases equal .bank
  cases equal .pin
  rfl

end Draft

/-- The draft and what is still to come give what the final draft has, each number once. -/
theorem foldlM_take_eq_some_iff {members : List MemberForm} {draft final : Draft} :
    members.foldlM Draft.take draft = some final ↔
      (∀ member ∈ members, member.name?.isSome) ∧ ∀ needed : Member,
        draft.found needed ++ numbersOf needed members = final.found needed := by
  induction members generalizing draft with
  | nil =>
      simp only [List.foldlM_nil, numbersOf, List.filter_nil, List.map_nil, List.append_nil]
      constructor
      · rintro ⟨⟩
        exact ⟨nofun, fun _ => rfl⟩
      · rintro ⟨_, same⟩
        rw [Draft.eq_of_found same]
        rfl
  | cons first others ih =>
      rw [List.foldlM_cons, Option.bind_eq_bind, List.forall_mem_cons]
      cases named : first.name? with
      | none => simp [Draft.take, named]
      | some name =>
          simp only [Draft.take, named, numbersOf_cons named, Option.bind_some, Option.isSome_some,
            true_and]
          cases known : Member.ofKey? name with
          | none => simp [ih]
          | some member =>
              cases present : draft.get member with
              | some number =>
                  -- A second value behind the first is one too many.
                  refine iff_of_false (by simp [present]) ?_
                  rintro ⟨_, gives⟩
                  have short := final.length_found_le member
                  rw [← gives member, if_pos rfl, Draft.found_of_some present] at short
                  simp at short
              | none =>
                  cases given : natural? member.bound first.value with
                  | none =>
                      -- What is no number in range stays in the list and in no draft.
                      refine iff_of_false (by simp [present, given]) ?_
                      rintro ⟨_, gives⟩
                      refine final.none_not_mem_found member ?_
                      rw [← gives member, if_pos rfl, given]
                      simp
                  | some number =>
                      simp only [present, given, Option.isSome_none, Bool.false_eq_true, if_false,
                        Option.map_some, Option.bind_some, ih]
                      refine and_congr_right fun _ => forall_congr' fun needed => ?_
                      rw [Draft.found_put]
                      by_cases same : needed = member
                      · subst same
                        simp [given, Draft.found_of_none present]
                      · simp [same, Ne.symm same]

/-! ## Which objects are accepted -/

/-- The number that a descriptor has for a member. -/
def Member.of (descriptor : Descriptor) : Member → Nat
  | bank => descriptor.bank.toNat
  | pin => descriptor.pin.toNat

theorem Member.of_lt (descriptor : Descriptor) (member : Member) :
    member.of descriptor < member.bound := by
  cases member with
  | bank => exact descriptor.bank.toNat_lt
  | pin => exact descriptor.pin.toNat_lt

/-- A draft with numbers below their bounds becomes the descriptor of just these numbers. -/
theorem Draft.finish_eq_ok_iff {draft : Draft} {descriptor : Descriptor}
    (within : ∀ (member : Member) (number : Nat),
      draft.get member = some number → number < member.bound) :
    draft.finish = .ok descriptor ↔
      ∀ member : Member, draft.get member = some (member.of descriptor) := by
  constructor
  · intro finished
    unfold finish at finished
    split at finished
    · next bank pin bankFound pinFound =>
      cases finished
      rintro (_ | _)
      · have small : bank < UInt8.size := within .bank bank bankFound
        simpa [Draft.get, Member.of, UInt8.toNat_ofNat_of_lt' small] using bankFound
      · have small : pin < UInt16.size := within .pin pin pinFound
        simpa [Draft.get, Member.of, UInt16.toNat_ofNat_of_lt' small] using pinFound
    · cases finished
  · intro found
    have bank : draft.bank = some descriptor.bank.toNat := found .bank
    have pin : draft.pin = some descriptor.pin.toNat := found .pin
    simp [finish, bank, pin]

theorem Draft.found_eq_singleton_iff {draft : Draft} {needed : Member} {number : Nat} :
    draft.found needed = [some number] ↔ draft.get needed = some number := by
  unfold found
  cases draft.get needed with
  | none => simp
  | some other => simp

theorem lt_of_mem_numbersOf {needed : Member} (members : List MemberForm) {number : Nat}
    (given : some number ∈ numbersOf needed members) : number < needed.bound := by
  obtain ⟨member, _, same⟩ := List.mem_map.mp given
  exact (natural?_eq_some_iff.mp same).2.2

/-- An object is accepted when each needed key gives one number, and those are the descriptor. -/
theorem decode_object_iff (object : ObjectForm) (descriptor : Descriptor) :
    descriptorCodec.decode (String.ofList object.text) = .ok descriptor ↔
      object.Named ∧ ∀ needed : Member,
        numbersOf needed object.members = [some (needed.of descriptor)] := by
  rw [← toOption_eq_some_iff, toOption_decode_object, Option.bind_eq_some_iff]
  simp only [foldlM_take_eq_some_iff, toOption_eq_some_iff,
    Draft.found_of_none (Draft.get_empty _), List.nil_append]
  constructor
  · rintro ⟨final, ⟨named, gives⟩, finished⟩
    have within (member : Member) (number : Nat) (got : final.get member = some number) :
        number < member.bound := by
      refine lt_of_mem_numbersOf object.members ?_
      rw [gives member, Draft.found_eq_singleton_iff.mpr got]
      exact List.mem_singleton_self _
    refine ⟨named, fun needed => ?_⟩
    rw [gives needed, Draft.found_eq_singleton_iff]
    exact (Draft.finish_eq_ok_iff within).mp finished needed
  · rintro ⟨named, gives⟩
    have found : ∀ member : Member, (Draft.mk (some descriptor.bank.toNat)
        (some descriptor.pin.toNat)).get member = some (member.of descriptor) := by
      rintro (_ | _) <;> rfl
    refine ⟨⟨some descriptor.bank.toNat, some descriptor.pin.toNat⟩, ⟨named, fun needed => ?_⟩, ?_⟩
    · rw [gives needed, Draft.found_eq_singleton_iff.mpr (found needed)]
    · refine (Draft.finish_eq_ok_iff fun member number got => ?_).mpr found
      cases (found member).symm.trans got
      exact member.of_lt descriptor

end LedKit.Json
