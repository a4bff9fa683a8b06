import LedKit.Proofs.Hardware.Reach
import LedKit.Proofs.Session.Calls

/-!
# Confinement to the wiring

A session that names LEDs by what its board declares, and leaves the pins and registers alone
otherwise, drives the declared pins and no other. What counts for a slot is its last line in the
table. What was declared for a bank or a pin that is not there drives nothing.
-/

namespace LedKit

/-! ## The pins of a wiring -/

/-- What is declared for each slot. -/
abbrev Wiring := Slot → Option Descriptor

namespace Wiring

variable (wiring : Wiring)

/-- Some slot is wired to a bank, to a pin that is there or not. -/
def HasBank (bank : Bank) : Prop :=
  ∃ slot descriptor, wiring slot = some descriptor ∧ descriptor.bank = bank.number

/-- Some slot is wired to exactly this pin. -/
def HasPin (bank : Bank) (index : Nat) : Prop :=
  ∃ slot, ∃ pin : Pin, wiring slot = some pin.descriptor ∧ pin.bank = bank ∧ pin.number = index

/-- A descriptor, where there is one, is that of some slot. -/
def Gives (descriptor : Option Descriptor) : Prop :=
  ∀ given, descriptor = some given → ∃ slot, wiring slot = some given

variable {wiring}

theorem HasPin.lt {bank : Bank} {index : Nat} (wired : wiring.HasPin bank index) : index < 16 := by
  obtain ⟨_, pin, _, _, rfl⟩ := wired
  exact pin.number.isLt

theorem gives_none : wiring.Gives none := by rintro given ⟨⟩

/-- The pins that a given descriptor selects are wired. -/
theorem Gives.of_resolve {descriptor : Option Descriptor} (given : wiring.Gives descriptor)
    {bank : Bank} {mask : Mask} (resolved : Descriptor.resolve descriptor = some (bank, mask)) :
    wiring.HasBank bank ∧ ∀ index, mask.getLsbD index = true → wiring.HasPin bank index := by
  obtain ⟨descriptor, rfl, known, rfl⟩ := Descriptor.resolve_eq_some_iff.mp resolved
  obtain ⟨slot, wired⟩ := given descriptor rfl
  refine ⟨⟨slot, descriptor, wired, known.symm⟩, ?_⟩
  intro index selected
  have inside : index < 16 := BitVec.lt_of_getLsbD selected
  have exact : descriptor = Pin.descriptor ⟨bank, index, inside⟩ :=
    (Pin.eq_descriptor_iff (Bank.ofNumber?_eq_some_iff.mpr known.symm)).mpr ⟨rfl, selected⟩
  exact ⟨slot, ⟨bank, index, inside⟩, exact ▸ wired, rfl, rfl⟩

end Wiring

/-! ## Commands -/

namespace Register

/-- Obeying a command sets no bit that the command does not name. -/
theorem set_of_getLsbD_obey {output command : Word} {index : Nat}
    (set : (obey output command).getLsbD index = true) :
    output.getLsbD index = true ∨ (command.getLsbD index = true ∧ index < 16) := by
  rw [getLsbD_obey, Bool.or_eq_true, Bool.and_eq_true, Bool.and_eq_true, decide_eq_true_iff] at set
  exact set.imp_left And.left

end Register

/-! ## Confined benches -/

/-- An event accesses a register of a wired bank, where it sees and names wired pins alone. -/
def Event.Confined (wiring : Wiring) : Event → Prop
  | .outputRead bank word =>
      wiring.HasBank bank ∧ ∀ index, word.getLsbD index = true → wiring.HasPin bank index
  | .inputRead bank _ => wiring.HasBank bank
  | .commanded bank command =>
      wiring.HasBank bank ∧
        ∀ index, command.getLsbD index = true → wiring.HasPin bank (index % 16)
  | _ => False

namespace Bench

/-- A bench on which wired pins alone are high and nothing else was accessed. -/
structure Confined (wiring : Wiring) (bench : Bench) : Prop where
  output : ∀ bank index, bench.bit bank index = true → wiring.HasPin bank index
  trace : ∀ event ∈ bench.trace.toList, event.Confined wiring

namespace Confined

variable {wiring : Wiring} {bench : Bench}

theorem fresh : Confined wiring Bench.fresh where
  output bank index set := by
    have clear : Bench.fresh.bit bank index = false := by
      rw [bit, Bench.fresh, start, PerBank.get_fill]
      exact BitVec.getLsbD_zero
    rw [clear] at set
    cases set
  trace := by rintro event ⟨⟩

theorem quiet (confined : Confined wiring bench) : Confined wiring bench.quiet where
  output := confined.output
  trace := by rintro event ⟨⟩

theorem record (confined : Confined wiring bench) {event : Event} (inside : event.Confined wiring) :
    Confined wiring (bench.record event) where
  output := confined.output
  trace := by
    intro recorded member
    rw [trace_record, List.mem_append, List.mem_singleton] at member
    rcases member with earlier | rfl
    · exact confined.trace recorded earlier
    · exact inside

theorem command (confined : Confined wiring bench) {bank : Bank} {word : Word}
    (inside : (Event.commanded bank word).Confined wiring) :
    Confined wiring (bench.command bank word) where
  output written index set := by
    rw [Bench.command, bit_setOutput] at set
    by_cases same : written = bank
    · subst same
      rw [if_pos rfl] at set
      rcases Register.set_of_getLsbD_obey set with before | ⟨named, low⟩
      · exact confined.output written index before
      · rw [← Nat.mod_eq_of_lt low]
        exact inside.2 index named
    · rw [if_neg same] at set
      exact confined.output written index set
  trace := (confined.record inside).trace

/-- An access of the registers through the mask of wired pins stays with them. -/
theorem access (confined : Confined wiring bench) {bank : Bank} {mask : Mask}
    (named : wiring.HasBank bank)
    (wired : ∀ index, mask.getLsbD index = true → wiring.HasPin bank index) (call : LedCall) :
    Confined wiring (registers.access bank mask bench call) := by
  cases call with
  | set descriptor lit =>
      exact confined.command
        ⟨named, fun index within => wired _ ((Register.names_drive _ mask).mask_of_getLsbD within)⟩
  | toggle descriptor =>
      have read : (Event.outputRead bank (bench.output.get bank)).Confined wiring :=
        ⟨named, confined.output bank⟩
      exact (confined.record read).command
        ⟨named, fun index within => wired _ ((Register.names_invert _ mask).mask_of_getLsbD within)⟩
  | get descriptor =>
      have read : (Event.inputRead bank (bench.input bank)).Confined wiring := named
      exact confined.record read

theorem serve (confined : Confined wiring bench) {call : LedCall}
    (given : wiring.Gives call.descriptor) :
    Confined wiring (registers.leds.serve bench call).2 := by
  cases resolved : Descriptor.resolve call.descriptor with
  | none => rwa [PinDriver.serve_of_none resolved]
  | some place =>
      obtain ⟨named, wired⟩ := given.of_resolve resolved
      rw [PinDriver.serve_of_some resolved]
      exact confined.access named wired call

theorem replay (confined : Confined wiring bench) {calls : List LedCall}
    (given : ∀ call ∈ calls, wiring.Gives call.descriptor) :
    Confined wiring (registers.leds.replay bench calls) := by
  induction calls generalizing bench with
  | nil => exact confined
  | cons call rest ih =>
      obtain ⟨first, others⟩ := List.forall_mem_cons.mp given
      exact ih (confined.serve first) others

end Confined

end Bench

/-! ## Operations that name LEDs by the table -/

/-- A target names no LED, or the LED that the board declares for a slot. -/
def Target.Declared (board : Board) (target : Target) : Prop :=
  target.descriptor board = none ∨
    ∃ slot, board.isSupported slot = true ∧ target.descriptor board = board.descriptor slot

instance (board : Board) (target : Target) : Decidable (target.Declared board) :=
  decidable_of_iff
    (target.descriptor board = none ∨
      ∃ slot ∈ Slot.choices,
        board.isSupported slot = true ∧ target.descriptor board = board.descriptor slot)
    (or_congr_right (exists_congr fun slot => and_iff_right (Slot.mem_choices slot)))

theorem Target.Declared.gives {board : Board} {target : Target} (declared : target.Declared board) :
    Wiring.Gives board.wiring (target.descriptor board) := by
  intro descriptor named
  rcases declared with absent | ⟨slot, supported, same⟩
  · rw [absent] at named
    cases named
  · cases slot with
    | none => cases supported
    | some slot =>
        obtain ⟨declared, wired⟩ := Option.isSome_iff_exists.mp supported
        change board.wiring slot = some declared at wired
        rw [same, Board.descriptor_some, wired] at named
        exact ⟨slot, wired.trans named⟩

/-- The targets that an operation on a handle names. -/
def HandleOp.targets : HandleOp → List Target
  | .bind target | .drive target _ => [target]
  | .isBound | .binding | .setState _ | .toggle | .getState | .getStateInto _ | .blinkStep => []

/-- The targets that an operation names, those on handles included. -/
def Op.targets : Op → List Target
  | .ledSet target _ | .ledToggle target | .ledGet target | .release _ target => [target]
  | .borrow operations => operations.flatMap HandleOp.targets
  | .onHandle _ operation => operation.targets
  | .new | .descriptor _ | .supported _ | .supportedSlots | .pinWrite _ _ _ | .pinToggle _ _
  | .pinRead _ _ | .script _ | .poke _ _ | .pull _ _ => []

/-- The operation overwrites an output register. -/
def Op.pokes : Op → Bool
  | .poke _ _ => true
  | _ => false

namespace HandleOp

variable {board : Board} {binding : Option Descriptor}

theorem gives_rebind {operation : HandleOp}
    (declared : ∀ target ∈ operation.targets, target.Declared board)
    (bound : Wiring.Gives board.wiring binding) :
    Wiring.Gives board.wiring (operation.rebind board binding) := by
  cases operation with
  | bind target =>
      change Wiring.Gives board.wiring ((target.descriptor board).or binding)
      cases named : target.descriptor board with
      | none => exact bound
      | some descriptor =>
          have given := (declared target List.mem_cons_self).gives
          rwa [named] at given
  | _ => exact bound

theorem gives_ledCalls {operation : HandleOp}
    (declared : ∀ target ∈ operation.targets, target.Declared board)
    (bound : Wiring.Gives board.wiring binding) {call : LedCall}
    (member : call ∈ operation.ledCalls board binding) :
    Wiring.Gives board.wiring call.descriptor := by
  cases through : operation.drives with
  | false =>
      obtain ⟨descriptor, rfl, called⟩ := descriptor_of_mem_ledCalls board through member
      rw [called]
      exact bound
  | true =>
      cases operation with
      | drive target lit =>
          cases List.mem_singleton.mp member
          exact (declared target List.mem_cons_self).gives
      | _ => cases through

theorem gives_ledCallsAll {operations : List HandleOp}
    (declared : ∀ target ∈ operations.flatMap targets, target.Declared board)
    (bound : Wiring.Gives board.wiring binding) {call : LedCall}
    (member : call ∈ ledCallsAll board binding operations) :
    Wiring.Gives board.wiring call.descriptor := by
  induction operations generalizing binding with
  | nil => cases member
  | cons operation rest ih =>
      rw [List.flatMap_cons, List.forall_mem_append] at declared
      rcases List.mem_append.mp member with own | later
      · exact gives_ledCalls declared.1 bound own
      · exact ih declared.2 (gives_rebind declared.1 bound) later

end HandleOp

/-- A handle that is not given up is bound to nothing or to what the wiring gives. -/
def Handle.Wired (wiring : Wiring) : Handle → Prop
  | live binding => wiring.Gives binding
  | gone => True

namespace Handle

variable {wiring : Wiring} {handles : List Handle}

theorem gives_of_bindingAt? (wired : ∀ handle ∈ handles, handle.Wired wiring) {number : Nat}
    {binding : Option Descriptor} (found : bindingAt? handles number = some binding) :
    wiring.Gives binding :=
  wired _ (List.mem_of_getElem? (bindingAt?_eq_some_iff.mp found))

theorem wired_modify (wired : ∀ handle ∈ handles, handle.Wired wiring) (number : Nat)
    {change : Handle → Handle}
    (changed : ∀ handle, handle.Wired wiring → (change handle).Wired wiring) :
    ∀ handle ∈ handles.modify number change, handle.Wired wiring := by
  intro handle member
  obtain ⟨place, there⟩ := List.mem_iff_getElem?.mp member
  rw [List.getElem?_modify] at there
  obtain ⟨earlier, found, same⟩ := Option.map_eq_some_iff.mp there
  have held := wired earlier (List.mem_of_getElem? found)
  subst same
  split
  · exact changed earlier held
  · exact held

end Handle

/-! ## Confined sessions -/

theorem Op.gives_ledCalls {board : Board} {operation : Op} {handles : List Handle}
    (declared : ∀ target ∈ operation.targets, target.Declared board)
    (wired : ∀ handle ∈ handles, handle.Wired board.wiring) {call : LedCall}
    (member : call ∈ operation.ledCalls board handles) :
    Wiring.Gives board.wiring call.descriptor := by
  cases operation with
  | ledSet target | ledToggle target | ledGet target =>
      cases List.mem_singleton.mp member
      exact (declared target List.mem_cons_self).gives
  | borrow operations =>
      exact HandleOp.gives_ledCallsAll declared Wiring.gives_none member
  | release number target =>
      rw [ledCalls] at member
      split at member
      · cases List.mem_singleton.mp member
        exact (declared target List.mem_cons_self).gives
      · cases member
  | onHandle number operation =>
      rw [ledCalls] at member
      split at member
      · next binding found =>
          exact HandleOp.gives_ledCalls declared (Handle.gives_of_bindingAt? wired found) member
      · cases member
  | _ => cases member

theorem Op.wired_handlesAfter {board : Board} {operation : Op} {handles : List Handle}
    (declared : ∀ target ∈ operation.targets, target.Declared board)
    (wired : ∀ handle ∈ handles, handle.Wired board.wiring) :
    ∀ handle ∈ operation.handlesAfter board handles, handle.Wired board.wiring := by
  cases operation with
  | new =>
      change ∀ handle ∈ handles ++ [.live none], _
      rw [List.forall_mem_append, List.forall_mem_singleton]
      exact ⟨wired, Wiring.gives_none⟩
  | release number target => exact Handle.wired_modify wired number fun _ _ => trivial
  | onHandle number operation =>
      refine Handle.wired_modify wired number fun handle held => ?_
      cases handle with
      | live binding => exact HandleOp.gives_rebind declared held
      | gone => trivial
  | _ => exact wired

/-- An operation that names LEDs by the table and leaves pins and output registers alone. -/
structure Op.ByTable (board : Board) (operation : Op) : Prop where
  leds : operation.usesPins = false
  unpoked : operation.pokes = false
  declared : ∀ target ∈ operation.targets, target.Declared board

instance (board : Board) (operation : Op) : Decidable (operation.ByTable board) :=
  decidable_of_iff
    (operation.usesPins = false ∧ operation.pokes = false ∧
      ∀ target ∈ operation.targets, target.Declared board)
    ⟨fun ⟨leds, unpoked, declared⟩ => ⟨leds, unpoked, declared⟩,
      fun byTable => ⟨byTable.leds, byTable.unpoked, byTable.declared⟩⟩

/-- An observation that stays with the wiring, at the registers and in the record. -/
structure Observation.Confined (wiring : Wiring) (seen : Observation) : Prop where
  output : ∀ bank index, (seen.output.get bank).getLsbD index = true → wiring.HasPin bank index
  /-- The upper half of every output register stays clear. -/
  upper : ∀ bank index, 16 ≤ index → (seen.output.get bank).getLsbD index = false
  trace : ∀ event ∈ seen.trace.toList, event.Confined wiring

namespace Session

/-- A session whose bench and handles stay with the wiring. -/
structure Confined (wiring : Wiring) (session : Session) : Prop where
  bench : session.bench.Confined wiring
  handles : ∀ handle ∈ session.handles, handle.Wired wiring

namespace Confined

variable {board : Board} {session : Session}

theorem step (confined : Confined board.wiring session) {operation : Op}
    (byTable : operation.ByTable board) :
    Confined board.wiring (Session.step .registers board session operation).2 where
  bench := by
    cases uses : operation.arranges with
    | false =>
        rw [bench_step .registers board session uses byTable.leds]
        exact confined.bench.replay fun call member =>
          Op.gives_ledCalls byTable.declared confined.handles member
    | true =>
        -- Scripts and pulls leave the output registers and the record alone.
        cases operation with
        | script high => exact confined.bench
        | poke bank word => cases byTable.unpoked
        | pull bank word => exact ⟨confined.bench.output, confined.bench.trace⟩
        | _ => cases uses
  handles := by
    rw [handles_step]
    exact Op.wired_handlesAfter byTable.declared confined.handles

theorem observe (confined : Confined board.wiring session) {operation : Op}
    (byTable : operation.ByTable board) :
    (Session.observe .registers board session operation).1.Confined board.wiring ∧
      Confined board.wiring (Session.observe .registers board session operation).2 := by
  have quiet : Confined board.wiring session.quiet := ⟨confined.bench.quiet, confined.handles⟩
  have after := quiet.step byTable
  refine ⟨⟨after.bench.output, fun bank index high => ?_, after.bench.trace⟩, after⟩
  rw [Bool.eq_false_iff]
  intro set
  exact absurd (after.bench.output bank index set).lt (Nat.not_lt_of_le high)

theorem runFrom (confined : Confined board.wiring session) {operations : List Op}
    (byTable : ∀ operation ∈ operations, operation.ByTable board) :
    ∀ seen ∈ Session.runFrom .registers board session operations, seen.Confined board.wiring := by
  induction operations generalizing session with
  | nil => rintro seen ⟨⟩
  | cons operation rest ih =>
      obtain ⟨first, others⟩ := List.forall_mem_cons.mp byTable
      obtain ⟨seen, after⟩ := confined.observe first
      rw [runFrom_cons, List.forall_mem_cons]
      exact ⟨seen, ih after others⟩

end Confined

/--
A session that names LEDs by its table drives the pins on the last lines for the slots and accesses
the banks on those lines, nothing else. A line that a later one overwrites has no part in it.
-/
theorem confined_to_wiring (entries : List Board.Entry) {operations : List Op}
    (byTable : ∀ operation ∈ operations, operation.ByTable (.ofEntries entries)) :
    (∀ seen ∈ run .registers (.ofEntries entries) operations,
        seen.Confined (Board.declared? entries)) ∧
      ∀ earlier entry later, entries = earlier ++ entry :: later →
        (∃ again ∈ later, again.slot = entry.slot) →
          ∀ seen ∈ run .registers (.ofEntries entries) operations,
            seen.Confined (Board.declared? (earlier ++ later)) := by
  have fresh : Confined (Board.ofEntries entries).wiring Session.fresh :=
    ⟨.fresh, by rintro handle ⟨⟩⟩
  have confined := fresh.runFrom byTable
  rw [Board.wiring_ofEntries] at confined
  refine ⟨confined, ?_⟩
  rintro earlier entry later rfl overwritten
  rw [Board.declared?_of_overwritten overwritten] at confined
  exact confined

/-- A table with an overwritten line, a slot and a pin that are not there, and a shared bank. -/
theorem confined_to_wiring_overwritten :
    let entries : List Board.Entry :=
      [⟨0, 2, 7⟩, ⟨5, 1, 1⟩, ⟨0, 0, 5⟩, ⟨1, 0, 40⟩, ⟨2, 9, 3⟩]
    let operations : List Op :=
      [.new, .onHandle 0 (.bind (.slot 0)), .onHandle 0 .blinkStep, .ledSet (.slot 1) true,
        .borrow [.bind (.slot 2), .toggle, .drive (.slot 7) true], .pull .a (some 0),
        .ledToggle (.direct ⟨0, 5⟩), .release 0 .absent]
    (∀ operation ∈ operations, operation.ByTable (.ofEntries entries)) ∧
      (∀ seen ∈ run .registers (.ofEntries entries) operations,
        seen.Confined (Board.declared? entries)) ∧
      (run .registers (.ofEntries entries) operations).map (·.output.a) =
        [0, 0, 0x20, 0x20, 0x20, 0x20, 0, 0] := by
  intro entries operations
  have byTable : ∀ operation ∈ operations, operation.ByTable (.ofEntries entries) := by
    decide +kernel
  exact ⟨byTable, (confined_to_wiring entries byTable).1, by decide +kernel⟩

end Session

end LedKit
