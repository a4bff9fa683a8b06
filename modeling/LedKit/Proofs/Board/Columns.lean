import LedKit.Proofs.Board.Declarations

/-!
# A table in two columns

A table can be kept in two columns, one with a descriptor for each slot and one that tells whether
the slot was declared. Columns that start empty and are filled by the same lines as a board give
the same answers and print the same, and they are equal exactly when the boards are, because a slot
that was never declared holds the zero descriptor.
-/

namespace LedKit

/-- The place of the slot in a column. -/
def Slot.place (slot : Slot) : Fin 3 := ⟨slot.index, by cases slot <;> decide⟩

namespace Board

/-- A descriptor for each slot, and whether the slot was declared. -/
structure Columns where
  descriptors : Vector Descriptor 3
  present : Vector Bool 3
  deriving DecidableEq

namespace Columns

def empty : Columns := ⟨.replicate 3 Descriptor.zero, .replicate 3 false⟩

/-- The columns with a slot declared anew. -/
def declare (columns : Columns) (slot : Slot) (descriptor : Descriptor) : Columns :=
  ⟨columns.descriptors.set slot.place descriptor, columns.present.set slot.place true⟩

/-- The columns after one more line. -/
def add (columns : Columns) (entry : Entry) : Columns :=
  match Slot.ofNumber? entry.slot with
  | none => columns
  | some slot => columns.declare slot entry.descriptor

/-- The columns that a list of lines fills, one after another. -/
def ofEntries (entries : List Entry) : Columns := entries.foldl add empty

def descriptor (columns : Columns) (slot : Option Slot) : Option Descriptor :=
  slot.map fun slot => columns.descriptors.get slot.place

def isSupported (columns : Columns) (slot : Option Slot) : Bool :=
  slot.any fun slot => columns.present.get slot.place

def supportedSlots (columns : Columns) : List Slot :=
  Slot.all.filter fun slot => columns.isSupported (some slot)

/-- The text of the columns, one after the other. -/
def text (columns : Columns) : String :=
  "BoardConfig \x7b descriptors: " ++
    listText (columns.descriptors.toList.map Descriptor.text) ++
    ", present: " ++ listText (columns.present.toList.map toString) ++ " \x7d"

end Columns

/-- The columns of what a board declares. -/
def columns (board : Board) : Columns :=
  ⟨#v[board.led1.getD .zero, board.led2.getD .zero, board.led3.getD .zero],
    #v[board.led1.isSome, board.led2.isSome, board.led3.isSome]⟩

/-! ## Building -/

theorem columns_empty : empty.columns = .empty := rfl

theorem columns_declare (board : Board) (slot : Slot) (descriptor : Descriptor) :
    (board.declare slot descriptor).columns = board.columns.declare slot descriptor := by
  cases slot <;> rfl

theorem columns_add (board : Board) (entry : Entry) :
    (board.add entry).columns = board.columns.add entry := by
  cases named : Slot.ofNumber? entry.slot with
  | none => rw [add, Columns.add, named]
  | some slot =>
      rw [add, Columns.add, named]
      exact columns_declare board slot entry.descriptor

/-- Lines fill the columns of the board that they declare. -/
theorem columns_ofEntries (entries : List Entry) :
    (ofEntries entries).columns = .ofEntries entries := by
  rw [ofEntries, Columns.ofEntries, ← columns_empty]
  exact (List.foldl_hom columns fun board entry => (columns_add board entry).symm).symm

/-! ## Asking -/

theorem descriptor_columns (board : Board) (slot : Option Slot) :
    board.columns.descriptor slot = board.descriptor slot := by
  rcases slot with _ | slot
  · rfl
  · cases slot <;> rfl

theorem isSupported_columns (board : Board) (slot : Option Slot) :
    board.columns.isSupported slot = board.isSupported slot := by
  rcases slot with _ | slot
  · rfl
  · cases slot <;> rfl

theorem supportedSlots_columns (board : Board) :
    board.columns.supportedSlots = board.supportedSlots :=
  List.filter_congr fun slot _ => isSupported_columns board (some slot)

theorem text_columns (board : Board) : board.columns.text = board.text := rfl

/-- Boards with the same columns are the same. -/
theorem columns_inj {first second : Board} : first.columns = second.columns ↔ first = second := by
  refine ⟨fun same => ?_, congrArg columns⟩
  apply ext_answers
  · intro slot
    rw [← descriptor_columns, same, descriptor_columns]
  · intro slot
    rw [← isSupported_columns, same, isSupported_columns]

/-- Columns answer as the board that the same lines declare, and tell the same boards apart. -/
theorem columns_answer (entries : List Entry) :
    (∀ slot, (Columns.ofEntries entries).descriptor slot = (ofEntries entries).descriptor slot ∧
        (Columns.ofEntries entries).isSupported slot = (ofEntries entries).isSupported slot) ∧
      (Columns.ofEntries entries).supportedSlots = (ofEntries entries).supportedSlots ∧
      (Columns.ofEntries entries).text = (ofEntries entries).text ∧
      ∀ others, Columns.ofEntries entries = Columns.ofEntries others ↔
        ofEntries entries = ofEntries others := by
  rw [← columns_ofEntries]
  refine ⟨fun slot => ⟨descriptor_columns _ slot, isSupported_columns _ slot⟩,
    supportedSlots_columns _, text_columns _, fun others => ?_⟩
  rw [← columns_ofEntries]
  exact columns_inj

end Board

end LedKit
