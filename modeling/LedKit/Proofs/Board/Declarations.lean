import LedKit.Board

/-!
# What a list of lines declares

A board keeps the last line for each of its slots and nothing else. What it answers about a slot
decides it: two lists of lines declare the same board exactly when they answer alike, so lines for
no slot, lines that a later one overwrites and the order of lines for different slots do not count.
Having declared the zero descriptor is an answer of its own.
-/

namespace LedKit

namespace Slot

/-- A number from zero up to the count of slots names a slot, which stands at that place. -/
theorem exists_ofNumber? {number : Int} (low : 0 ≤ number) (high : number < all.length) :
    ∃ slot, ofNumber? number = some slot ∧ number = slot.index := by
  cases named : ofNumber? number with
  | none =>
      rcases ofNumber?_eq_none_iff.mp named with below | above
      · exact absurd below (Int.not_lt.mpr low)
      · exact absurd high (Int.not_lt.mpr above)
  | some slot => exact ⟨slot, rfl, ofNumber?_eq_some_iff.mp named⟩

theorem index_inj {first second : Slot} : first.index = second.index ↔ first = second := by
  cases first <;> cases second <;> simp [index]

/-- The number of a slot is one from zero up to the count of slots. -/
theorem index_lt (slot : Slot) : (0 : Int) ≤ slot.index ∧ (slot.index : Int) < all.length := by
  refine ⟨Int.natCast_nonneg _, Int.not_le.mp fun above => ?_⟩
  have unnamed := ofNumber?_eq_none_iff.mpr (Or.inr above)
  rw [ofNumber?_index] at unnamed
  cases unnamed

theorem pairwise_all : all.Pairwise fun first second => first.index < second.index := by decide

end Slot

namespace Board

/-! ## The last line for a slot -/

theorem declared?_eq_none_iff {entries : List Entry} {slot : Slot} :
    declared? entries slot = none ↔ ∀ entry ∈ entries, entry.slot ≠ slot.index := by
  rw [declared?, Option.map_eq_none_iff, List.getLast?_eq_none_iff, List.filter_eq_nil_iff]
  exact forall₂_congr fun entry _ => not_congr decide_eq_true_iff

/-- Something is declared for a slot exactly when there is a line for it. -/
theorem isSome_declared?_iff {entries : List Entry} {slot : Slot} :
    (declared? entries slot).isSome = true ↔ ∃ entry ∈ entries, entry.slot = slot.index := by
  rw [Option.isSome_iff_ne_none, ne_eq, declared?_eq_none_iff]
  simp

/-- One more line at the end is what counts for its slot. -/
theorem declared?_append_singleton (entries : List Entry) (entry : Entry) (slot : Slot) :
    declared? (entries ++ [entry]) slot =
      if entry.slot = slot.index then some entry.descriptor else declared? entries slot := by
  have single : declared? [entry] slot =
      if entry.slot = slot.index then some entry.descriptor else none := by
    rw [declared?_cons]
    rfl
  rw [declared?_append, single]
  split
  · rfl
  · rfl

theorem wiring_ofEntries_apply (entries : List Entry) (slot : Slot) :
    (ofEntries entries).wiring slot = declared? entries slot :=
  congrFun (wiring_ofEntries entries) slot

/-- Lines declare the same board exactly when the last of them for each slot declare the same. -/
theorem ofEntries_eq_iff {first second : List Entry} :
    ofEntries first = ofEntries second ↔ ∀ slot, declared? first slot = declared? second slot := by
  constructor
  · intro same slot
    rw [← wiring_ofEntries_apply, same, wiring_ofEntries_apply]
  · intro same
    apply ext_wiring
    intro slot
    rw [wiring_ofEntries_apply, wiring_ofEntries_apply, same slot]

/-- A board is what it answers about its slots. -/
theorem ext_answers {first second : Board}
    (descriptors : ∀ slot, first.descriptor (some slot) = second.descriptor (some slot))
    (supported : ∀ slot, first.isSupported (some slot) = second.isSupported (some slot)) :
    first = second := by
  apply ext_wiring
  intro slot
  have descriptor : (first.wiring slot).getD Descriptor.zero =
      (second.wiring slot).getD Descriptor.zero := Option.some.inj (descriptors slot)
  have present := supported slot
  rw [isSupported_some, isSupported_some] at present
  cases wired : first.wiring slot with
  | none =>
      rw [wired, Option.isSome_none] at present
      exact (Option.isNone_iff_eq_none.mp (Option.isSome_eq_false_iff.mp present.symm)).symm
  | some given =>
      rw [wired, Option.isSome_some] at present
      obtain ⟨other, held⟩ := Option.isSome_iff_exists.mp present.symm
      rw [wired, held, Option.getD_some, Option.getD_some] at descriptor
      rw [held, descriptor]

/-- Lines for no slot, and lines for other slots around it, have no say in a slot. -/
theorem declared?_congr {first second : List Entry} {slot : Slot}
    (same : (first.filter fun entry => entry.slot = (slot.index : Int)) =
      second.filter fun entry => entry.slot = (slot.index : Int)) :
    declared? first slot = declared? second slot := by
  rw [declared?, same]
  rfl

/-- Lines for no slot declare nothing. -/
theorem ofEntries_filter (entries : List Entry) :
    ofEntries (entries.filter fun entry => 0 ≤ entry.slot ∧ entry.slot < Slot.all.length) =
      ofEntries entries := by
  apply ofEntries_eq_iff.mpr
  intro slot
  apply declared?_congr
  rw [List.filter_filter]
  apply List.filter_congr
  intro entry _
  by_cases named : entry.slot = slot.index
  · rw [named, decide_eq_true slot.index_lt, Bool.and_true]
  · rw [decide_eq_false named, Bool.false_and]

section Undeclared

variable {entries : List Entry} {slot : Slot}
  (undeclared : ∀ entry ∈ entries, entry.slot ≠ slot.index)

include undeclared

/-- A first line for a slot makes another board, whatever it declares. -/
theorem ofEntries_append_ne (descriptor : Descriptor) :
    ofEntries (entries ++ [⟨slot.index, descriptor⟩]) ≠ ofEntries entries := by
  intro same
  have after := ofEntries_eq_iff.mp same slot
  rw [declared?_append_singleton, if_pos rfl, declared?_eq_none_iff.mpr undeclared] at after
  cases after

/-- To declare the zero descriptor first for a slot changes no descriptor. -/
theorem descriptor_append_zero (other : Option Slot) :
    (ofEntries (entries ++ [⟨slot.index, Descriptor.zero⟩])).descriptor other =
      (ofEntries entries).descriptor other := by
  cases other with
  | none => rfl
  | some other =>
      rw [descriptor_some, descriptor_some, wiring_ofEntries_apply, wiring_ofEntries_apply,
        declared?_append_singleton]
      split
      · next same =>
          have there : slot = other := Slot.index_inj.mp (Int.ofNat.inj same)
          rw [← there, declared?_eq_none_iff.mpr undeclared]
          rfl
      · rfl

end Undeclared

/-! ## The law of tables -/

/-- What holds of the board that a list of lines declares. -/
structure TableLaw (entries : List Entry) : Prop where
  /-- A number that names no slot has no descriptor and no LED. -/
  outside : ∀ number : Int, number < 0 ∨ Slot.all.length ≤ number →
    (ofEntries entries).descriptor (Slot.ofNumber? number) = none ∧
      (ofEntries entries).isSupported (Slot.ofNumber? number) = false
  /-- A slot has an LED exactly when there is a line for it. -/
  supported : ∀ number : Int, 0 ≤ number → number < Slot.all.length →
    ((ofEntries entries).isSupported (Slot.ofNumber? number) = true ↔
      ∃ entry ∈ entries, entry.slot = number)
  /-- The descriptor of a slot is that on its last line, or else the zero descriptor. -/
  descriptor : ∀ number : Int, 0 ≤ number → number < Slot.all.length →
    (ofEntries entries).descriptor (Slot.ofNumber? number) =
      some (((entries.filter fun entry => entry.slot = number).getLast?.map
        Entry.descriptor).getD Descriptor.zero)
  /-- The slots with an LED are listed, each of them once and in table order. -/
  listed : ∀ slot, slot ∈ (ofEntries entries).supportedSlots ↔
    (ofEntries entries).isSupported (some slot) = true
  ordered : (ofEntries entries).supportedSlots.Pairwise fun first second =>
    first.index < second.index
  /-- Boards are the same exactly when they answer alike. -/
  same : ∀ other, ofEntries entries = ofEntries other ↔ ∀ number : Int,
    (ofEntries entries).descriptor (Slot.ofNumber? number) =
        (ofEntries other).descriptor (Slot.ofNumber? number) ∧
      (ofEntries entries).isSupported (Slot.ofNumber? number) =
        (ofEntries other).isSupported (Slot.ofNumber? number)
  /-- Lines for no slot can be dropped. -/
  dropped : ofEntries (entries.filter fun entry =>
    0 ≤ entry.slot ∧ entry.slot < Slot.all.length) = ofEntries entries
  /-- Lines can change places as long as those for one slot keep their order. -/
  reordered : ∀ other : List Entry,
    (∀ slot : Slot, (entries.filter fun entry => entry.slot = (slot.index : Int)) =
      other.filter fun entry => entry.slot = (slot.index : Int)) →
    ofEntries entries = ofEntries other
  /-- A line that a later one overwrites can be dropped. -/
  overwritten : ∀ earlier entry later, entries = earlier ++ entry :: later →
    (∃ again ∈ later, again.slot = entry.slot) →
      ofEntries entries = ofEntries (earlier ++ later)
  /-- Declaring the zero descriptor for a slot without a line makes another board, which gives the
  same descriptors. -/
  zero : ∀ slot : Slot, (∀ entry ∈ entries, entry.slot ≠ slot.index) →
    ofEntries (entries ++ [⟨slot.index, Descriptor.zero⟩]) ≠ ofEntries entries ∧
      ∀ other, (ofEntries (entries ++ [⟨slot.index, Descriptor.zero⟩])).descriptor other =
        (ofEntries entries).descriptor other

/-- Every list of lines keeps to the law of tables. -/
theorem table_law (entries : List Entry) : TableLaw entries := by
  constructor
  case outside =>
    intro number outside
    rw [Slot.ofNumber?_eq_none_iff.mpr outside]
    exact ⟨rfl, rfl⟩
  case supported =>
    intro number low high
    obtain ⟨slot, named, rfl⟩ := Slot.exists_ofNumber? low high
    rw [named, isSupported_some, wiring_ofEntries_apply, isSome_declared?_iff]
  case descriptor =>
    intro number low high
    obtain ⟨slot, named, rfl⟩ := Slot.exists_ofNumber? low high
    rw [named, descriptor_some, wiring_ofEntries_apply]
    rfl
  case listed => exact fun _ => mem_supportedSlots
  case ordered => exact Slot.pairwise_all.filter _
  case same =>
    intro other
    constructor
    · intro same number
      rw [same]
      exact ⟨rfl, rfl⟩
    · intro alike
      apply ext_answers
      · intro slot
        rw [← Slot.ofNumber?_index slot]
        exact (alike slot.index).1
      · intro slot
        rw [← Slot.ofNumber?_index slot]
        exact (alike slot.index).2
  case dropped => exact ofEntries_filter entries
  case reordered =>
    intro other same
    apply ofEntries_eq_iff.mpr
    intro slot
    exact declared?_congr (same slot)
  case overwritten =>
    rintro earlier entry later rfl overwritten
    apply ofEntries_eq_iff.mpr
    intro slot
    rw [declared?_of_overwritten overwritten]
  case zero =>
    intro slot undeclared
    exact ⟨ofEntries_append_ne undeclared Descriptor.zero, descriptor_append_zero undeclared⟩

end Board

end LedKit
