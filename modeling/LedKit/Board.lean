import LedKit.Descriptor
import LedKit.Slot

/-!
# Board tables

A board says for each slot whether an LED is there and which pin drives it. A table is built by
declaring slots one after another: the last declaration of a slot counts. Asking for the
descriptor of a slot that was never declared gives the zero descriptor, which is not the same as
having declared it so.
-/

namespace LedKit

/-- What was declared for each slot. -/
structure Board where
  led1 : Option Descriptor
  led2 : Option Descriptor
  led3 : Option Descriptor
  deriving DecidableEq

namespace Board

/-- The board with no LED. -/
def empty : Board := ⟨none, none, none⟩

/-- What the board declares for a slot. -/
def wiring (board : Board) : Slot → Option Descriptor
  | .led1 => board.led1
  | .led2 => board.led2
  | .led3 => board.led3

@[simp] theorem wiring_empty (slot : Slot) : empty.wiring slot = none := by cases slot <;> rfl

/-- Two boards that declare the same are the same. -/
@[ext] theorem ext_wiring {first second : Board}
    (same : ∀ slot, first.wiring slot = second.wiring slot) : first = second := by
  cases first
  cases second
  simp only [Board.mk.injEq]
  exact ⟨same .led1, same .led2, same .led3⟩

/-- The board with a slot declared anew. -/
def declare (board : Board) (slot : Slot) (descriptor : Descriptor) : Board :=
  match slot with
  | .led1 => { board with led1 := some descriptor }
  | .led2 => { board with led2 := some descriptor }
  | .led3 => { board with led3 := some descriptor }

theorem wiring_declare (board : Board) (slot other : Slot) (descriptor : Descriptor) :
    (board.declare slot descriptor).wiring other =
      if other = slot then some descriptor else board.wiring other := by
  cases slot <;> cases other <;> simp [declare, wiring]

/-- A line of a table: a slot number from outside and the descriptor to declare for it. -/
structure Entry where
  slot : Int
  descriptor : Descriptor
  deriving DecidableEq

/-- The board after one more line. A number that names no slot changes nothing. -/
def add (board : Board) (entry : Entry) : Board :=
  match Slot.ofNumber? entry.slot with
  | none => board
  | some slot => board.declare slot entry.descriptor

/-- The board that a list of lines declares, one after another. -/
def ofEntries (entries : List Entry) : Board := entries.foldl add empty

theorem wiring_add (board : Board) (entry : Entry) (slot : Slot) :
    (board.add entry).wiring slot =
      if entry.slot = slot.index then some entry.descriptor else board.wiring slot := by
  unfold add
  split
  · next unnamed =>
    rw [if_neg]
    intro same
    rw [Slot.ofNumber?_eq_some_iff.mpr same] at unnamed
    contradiction
  · next named declared =>
    rw [wiring_declare]
    have same := Slot.ofNumber?_eq_some_iff.mp declared
    rw [same]
    cases slot <;> cases named <;> simp [Slot.index]

/-- The descriptor on the last line for a slot, if there is such a line. -/
def declared? (entries : List Entry) (slot : Slot) : Option Descriptor :=
  (entries.filter fun entry => entry.slot = (slot.index : Int)).getLast?.map Entry.descriptor

theorem declared?_cons (entry : Entry) (rest : List Entry) (slot : Slot) :
    declared? (entry :: rest) slot =
      (declared? rest slot).or
        (if entry.slot = slot.index then some entry.descriptor else none) := by
  unfold declared?
  by_cases same : entry.slot = slot.index
  · rw [List.filter_cons_of_pos (by simpa using same), List.getLast?_cons, if_pos same]
    cases (rest.filter fun entry => entry.slot = (slot.index : Int)).getLast? <;> rfl
  · rw [List.filter_cons_of_neg (by simpa using same), if_neg same, Option.or_none]

theorem declared?_append (first second : List Entry) (slot : Slot) :
    declared? (first ++ second) slot = (declared? second slot).or (declared? first slot) := by
  rw [declared?, List.filter_append, List.getLast?_append, Option.map_or]
  rfl

/-- A line counts for nothing where a later one is for the same slot. -/
theorem declared?_of_overwritten {earlier later : List Entry} {entry : Entry}
    (overwritten : ∃ again ∈ later, again.slot = entry.slot) :
    declared? (earlier ++ entry :: later) = declared? (earlier ++ later) := by
  funext slot
  rw [declared?_append, declared?_append, declared?_cons]
  obtain ⟨again, member, sameSlot⟩ := overwritten
  by_cases named : entry.slot = slot.index
  · have kept : again ∈ later.filter fun entry => entry.slot = (slot.index : Int) := by
      rw [List.mem_filter, decide_eq_true_iff]
      exact ⟨member, sameSlot.trans named⟩
    have found : (declared? later slot).isSome := by
      rw [declared?, Option.isSome_map, Option.isSome_iff_ne_none, ne_eq, List.getLast?_eq_none_iff]
      exact List.ne_nil_of_mem kept
    rw [Option.or_of_isSome found, Option.or_of_isSome found]
  · rw [if_neg named, Option.or_none]

/-- Lines added to a board take the place of what it declared for their slots. -/
theorem wiring_foldl_add (entries : List Entry) (board : Board) (slot : Slot) :
    (entries.foldl add board).wiring slot = (declared? entries slot).or (board.wiring slot) := by
  induction entries generalizing board with
  | nil => rfl
  | cons entry rest ih =>
    rw [List.foldl_cons, ih, wiring_add, declared?_cons, Option.or_assoc]
    split <;> rfl

/-- The last line for a slot is what counts. -/
theorem wiring_ofEntries (entries : List Entry) :
    (ofEntries entries).wiring = declared? entries := by
  funext slot
  rw [ofEntries, wiring_foldl_add, wiring_empty, Option.or_none]

/-- An LED was declared for the slot. What is no slot has none. -/
def isSupported (board : Board) (slot : Option Slot) : Bool :=
  (slot.bind board.wiring).isSome

/-- The descriptor that the board gives for a slot: the declared one, or the zero descriptor. -/
def descriptor (board : Board) (slot : Option Slot) : Option Descriptor :=
  slot.map fun slot => (board.wiring slot).getD Descriptor.zero

@[simp] theorem descriptor_none (board : Board) : board.descriptor none = none := rfl

@[simp] theorem isSupported_some (board : Board) (slot : Slot) :
    board.isSupported (some slot) = (board.wiring slot).isSome := rfl

@[simp] theorem descriptor_some (board : Board) (slot : Slot) :
    board.descriptor (some slot) = some ((board.wiring slot).getD Descriptor.zero) := rfl

@[simp] theorem isSupported_none (board : Board) : board.isSupported none = false := rfl

/-- The slots with an LED, in table order. -/
def supportedSlots (board : Board) : List Slot :=
  Slot.all.filter fun slot => board.isSupported (some slot)

theorem mem_supportedSlots {board : Board} {slot : Slot} :
    slot ∈ board.supportedSlots ↔ board.isSupported (some slot) = true := by
  rw [supportedSlots, List.mem_filter]
  exact and_iff_right (Slot.mem_all slot)

/-- Items between square brackets. -/
def listText (items : List String) : String := "[" ++ ", ".intercalate items ++ "]"

/-- The text of the table: what is given for each slot and whether it was declared. -/
def text (board : Board) : String :=
  "BoardConfig \x7b descriptors: " ++
    listText (Slot.all.map fun slot => ((board.wiring slot).getD Descriptor.zero).text) ++
    ", present: " ++ listText (Slot.all.map fun slot => toString (board.wiring slot).isSome) ++
    " \x7d"

end Board

end LedKit
