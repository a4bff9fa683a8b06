import LedKit.Descriptor
import LedKit.Json.Value

/-!
# Descriptors in JSON

A descriptor is an object with a bank number and a pin number, in any order and among any other
members, or a list of the two numbers. Each member may be there only once. A key that is there a
second time is refused before its value is looked at.
-/

namespace LedKit.Json

/-- A member that a descriptor needs. -/
inductive Member where
  | bank
  | pin
  deriving DecidableEq

namespace Member

def key : Member → List Char
  | bank => "port_index".toList
  | pin => "pin".toList

/-- Values from here on are out of range. -/
def bound : Member → Nat
  | bank => UInt8.size
  | pin => UInt16.size

def ofKey? (key : List Char) : Option Member := [bank, pin].find? (·.key = key)

@[simp] theorem ofKey?_key (member : Member) : ofKey? member.key = some member := by
  cases member <;> decide

theorem ofKey?_eq_some_iff {key : List Char} {member : Member} :
    ofKey? key = some member ↔ key = member.key := by
  constructor
  · intro named
    have found := List.find?_some named
    exact (of_decide_eq_true found).symm
  · rintro rfl
    exact ofKey?_key member

end Member

/-- The members of a descriptor that have been read. -/
structure Draft where
  bank : Option Nat
  pin : Option Nat
  deriving DecidableEq

namespace Draft

def empty : Draft := ⟨none, none⟩

def get (draft : Draft) : Member → Option Nat
  | .bank => draft.bank
  | .pin => draft.pin

def put (draft : Draft) (member : Member) (value : Nat) : Draft :=
  match member with
  | .bank => { draft with bank := some value }
  | .pin => { draft with pin := some value }

@[simp] theorem get_empty (member : Member) : empty.get member = none := by cases member <;> rfl

theorem get_put (draft : Draft) (member other : Member) (value : Nat) :
    (draft.put member value).get other =
      if other = member then some value else draft.get other := by
  cases member <;> cases other <;> simp [put, get]

/-- The descriptor, once both members are there. -/
def finish (draft : Draft) : Except Fault Descriptor :=
  match draft.bank, draft.pin with
  | some bank, some pin => .ok ⟨UInt8.ofNat bank, UInt16.ofNat pin⟩
  | _, _ => .error .missingMember

end Draft

/-- Read what follows a key: the value of a member that is needed, or any value to pass over. -/
def readValueOf (draft : Draft) (key text : List Char) : Read Draft :=
  match Member.ofKey? key with
  | none =>
    match expect [':'] text with
    | .error fault => .error fault
    | .ok rest =>
      match skipValue? rest with
      | none => .error .malformed
      | some after => .ok (draft, after)
  | some member =>
    if (draft.get member).isSome then .error .repeatedMember
    else
      match expect [':'] text with
      | .error fault => .error fault
      | .ok rest =>
        match readNatural member.bound rest with
        | .error fault => .error fault
        | .ok (value, after) => .ok (draft.put member value, after)

theorem length_lt_of_readValueOf {draft after : Draft} {key text rest : List Char}
    (found : readValueOf draft key text = .ok (after, rest)) : rest.length < text.length := by
  unfold readValueOf at found
  split at found
  · split at found
    · contradiction
    · next colon =>
      have := length_lt_of_expect colon
      split at found
      · contradiction
      · next skipped =>
        have := length_lt_of_skipValue? skipped
        simp only [Except.ok.injEq, Prod.mk.injEq] at found
        rw [← found.2]
        omega
  · split at found
    · contradiction
    · split at found
      · contradiction
      · next colon =>
        have := length_lt_of_expect colon
        split at found
        · contradiction
        · next value =>
          have := (of_readNatural value).2
          simp only [Except.ok.injEq, Prod.mk.injEq] at found
          rw [← found.2]
          omega

/-- Read one member of an object, its key first. -/
def readMember (draft : Draft) (text : List Char) : Read Draft :=
  match takeText? (dropBlanks text) with
  | none => .error .malformed
  | some (key, rest) => readValueOf draft key rest

theorem length_lt_of_readMember {draft after : Draft} {text rest : List Char}
    (found : readMember draft text = .ok (after, rest)) : rest.length < text.length := by
  unfold readMember at found
  split at found
  · contradiction
  · next taken =>
    have := length_dropBlanks_le text
    have := length_lt_of_takeText? taken
    have := length_lt_of_readValueOf found
    omega

/-- Read the members of an object up to its end. After the first member, each follows a comma. -/
def readMembers (draft : Draft) (isFirst : Bool) (text : List Char) : Read Descriptor :=
  match dropWord? ['}'] (dropBlanks text) with
  | some rest =>
    match draft.finish with
    | .error fault => .error fault
    | .ok descriptor => .ok (descriptor, rest)
  | none =>
    match _separated : if isFirst then .ok text else expect [','] text with
    | .error fault => .error fault
    | .ok rest =>
      match _read : readMember draft rest with
      | .error fault => .error fault
      | .ok (after, rest) => readMembers after false rest
termination_by text.length
decreasing_by
  have shorter := length_lt_of_readMember _read
  split at _separated
  · simp only [Except.ok.injEq] at _separated
    exact _separated ▸ shorter
  · have := length_lt_of_expect _separated
    omega

/-- Read one number of a list. Where the list ends instead, it is too short. -/
def readItem (bound : Nat) (text : List Char) : Read Nat :=
  if (dropBlanks text).head? = some ']' then .error .tooShort else readNatural bound text

/-- The text after the comma between two numbers of a list. Where the list ends instead, it is too
short; right after the comma it may not end. -/
def expectNext (text : List Char) : Except Fault (List Char) :=
  if (dropBlanks text).head? = some ']' then .error .tooShort
  else
    match expect [','] text with
    | .error fault => .error fault
    | .ok rest => if (dropBlanks rest).head? = some ']' then .error .malformed else .ok rest

/-- Read the two numbers of a list up to its end. -/
def readPair (text : List Char) : Except Fault (Descriptor × List Char) := do
  let (bank, rest) ← readItem Member.bank.bound text
  let rest ← expectNext rest
  let (pin, rest) ← readNatural Member.pin.bound rest
  let rest ← expect [']'] rest
  return (⟨UInt8.ofNat bank, UInt16.ofNat pin⟩, rest)

/-- Read a descriptor. -/
def readDescriptor (text : List Char) : Read Descriptor :=
  match dropBlanks text with
  | '{' :: rest => readMembers .empty true rest
  | '[' :: rest => readPair rest
  | solid => .error (mismatch solid)

end LedKit.Json
