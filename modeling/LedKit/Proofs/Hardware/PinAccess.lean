import LedKit.Proofs.Hardware.Reach
import LedKit.Proofs.Session.Calls

/-!
# Accesses to the pins of a mask

On the registers a write is one command and a toggle is one read followed by one command. Whatever
happens to the bench before the command lands, the pins of the mask get the levels that the access
decided on and nothing else is changed. LEDs on pins make one access for each call whose descriptor
reaches a bank, with the mask of its pin, and none for any other call.
-/

namespace LedKit

/-! ## Accesses of the registers -/

namespace Bench

/--
A command to a bank names each pin of a mask in one half. Wherever it lands, it gives those pins
their levels and leaves every other bit of every output register.
-/
structure Precise (bank : Bank) (mask : Mask) (levels : Nat → Bool) (command : Word) : Prop where
  disjoint : Register.setPins command &&& Register.clearedPins command = 0
  union : Register.setPins command ||| Register.clearedPins command = mask
  selected : ∀ (landing : Bench) index, mask.getLsbD index = true →
    (landing.command bank command).bit bank index = levels index
  others : ∀ (landing : Bench) index, mask.getLsbD index = false →
    (landing.command bank command).bit bank index = landing.bit bank index
  elsewhere : ∀ (landing : Bench) other, other ≠ bank →
    (landing.command bank command).output.get other = landing.output.get other

/-- What an access to the pins of a mask does on the registers. -/
structure PinAccessLaw (bank : Bank) (mask : Mask) (bench : Bench) : Prop where
  /-- A write is one command and reads nothing. -/
  write : ∀ level, ∃ command, Precise bank mask (fun _ => level.isHigh) command ∧
    (registers.write bank mask level bench).trace.toList =
      bench.trace.toList ++ [.commanded bank command] ∧
    (registers.write bank mask level bench).output = (bench.command bank command).output
  /-- A toggle reads the output register and then is one command, which inverts what was read. -/
  toggle : ∃ command, Precise bank mask (fun index => !bench.bit bank index) command ∧
    (registers.toggle bank mask bench).trace.toList = bench.trace.toList ++
      [.outputRead bank (bench.output.get bank), .commanded bank command] ∧
    (registers.toggle bank mask bench).output = (bench.command bank command).output
  /-- A read looks at the input register and commands nothing. -/
  read : (registers.read bank mask bench).2.trace.toList =
      bench.trace.toList ++ [.inputRead bank (bench.input bank)] ∧
    (registers.read bank mask bench).2.output = bench.output
  level : (registers.read bank mask bench).1 = .high ↔
    ∃ index, mask.getLsbD index = true ∧ (bench.input bank).getLsbD index = true

/-- A command that names a mask is precise, with the levels of its halves. -/
theorem precise_of_names {mask : Mask} {command : Word} (names : Register.Names command mask)
    (bank : Bank) {levels : Nat → Bool}
    (chosen : ∀ index, mask.getLsbD index = true →
      (Register.setPins command).getLsbD index = levels index) :
    Precise bank mask levels command where
  disjoint := names.disjoint
  union := names.union
  selected landing index selected := by
    rw [bit, get_output_command, if_pos rfl, names.getLsbD_obey, if_pos selected,
      chosen index selected]
  others landing index unselected := by
    rw [bit, get_output_command, if_pos rfl, names.getLsbD_obey, unselected]
    rfl
  elsewhere landing other ne := by
    rw [get_output_command, if_neg ne]

theorem precise_drive (bank : Bank) (mask : Mask) (level : Level) :
    Precise bank mask (fun _ => level.isHigh) (Register.drive level mask) := by
  apply precise_of_names (Register.names_drive level mask)
  intro index selected
  cases level with
  | low =>
      rw [Register.setPins_drive_low]
      exact BitVec.getLsbD_zero
  | high =>
      rw [Register.setPins_drive_high]
      exact selected

theorem precise_invert (bank : Bank) (mask : Mask) (bench : Bench) :
    Precise bank mask (fun index => !bench.bit bank index)
      (Register.invert (bench.output.get bank) mask) := by
  apply precise_of_names (Register.names_invert _ mask)
  intro index selected
  have low : index < 16 := BitVec.lt_of_getLsbD selected
  rw [Register.getLsbD_setPins _ low, Register.getLsbD_invert, if_pos low, selected, Bool.and_true]
  rfl

theorem pinAccess_law (bank : Bank) (mask : Mask) (bench : Bench) :
    PinAccessLaw bank mask bench := by
  constructor
  case write =>
    intro level
    exact ⟨_, precise_drive bank mask level, trace_command bench bank _, rfl⟩
  case toggle =>
    refine ⟨_, precise_invert bank mask bench, ?_, rfl⟩
    change ((bench.record _).command bank _).trace.toList = _
    rw [trace_command, trace_record, List.append_assoc]
    rfl
  case read => exact ⟨trace_record bench _, rfl⟩
  case level => exact Register.levelOf_eq_high_iff

end Bench

/-! ## Accesses of LEDs on pins -/

/-- An access to the pins of a bank. -/
inductive PinCall where
  | write (bank : Bank) (mask : Mask) (level : Level)
  | toggle (bank : Bank) (mask : Mask)
  | read (bank : Bank) (mask : Mask)
  deriving DecidableEq

namespace LedCall

/-- The access to pins that stands for a call of LEDs. -/
def onPins (bank : Bank) (mask : Mask) : LedCall → PinCall
  | .set _ lit => .write bank mask (.ofBool lit)
  | .toggle _ => .toggle bank mask
  | .get _ => .read bank mask

/-- The accesses that a call makes of the pins below the LEDs. -/
def pinCalls (call : LedCall) : List PinCall :=
  (Descriptor.resolve call.descriptor).toList.map fun (bank, mask) => call.onPins bank mask

end LedCall

/-- The same driver with a record of the accesses that reach it. -/
def PinDriver.watched {σ : Type} (driver : PinDriver σ) : PinDriver (σ × List PinCall) where
  write bank mask level state :=
    (driver.write bank mask level state.1, state.2 ++ [.write bank mask level])
  toggle bank mask state := (driver.toggle bank mask state.1, state.2 ++ [.toggle bank mask])
  read bank mask state :=
    let (level, after) := driver.read bank mask state.1
    (level, after, state.2 ++ [.read bank mask])

namespace LedCall

theorem pinCalls_of_none {call : LedCall}
    (unreachable : Descriptor.resolve call.descriptor = none) : call.pinCalls = [] := by
  rw [pinCalls, unreachable]
  rfl

theorem pinCalls_of_some {call : LedCall} {bank : Bank} {mask : Mask}
    (reached : Descriptor.resolve call.descriptor = some (bank, mask)) :
    call.pinCalls = [call.onPins bank mask] := by
  rw [pinCalls, reached]
  rfl

end LedCall

/-- Being watched changes no answer and no state, and adds the accesses of the call. -/
theorem PinDriver.serve_watched {σ : Type} (driver : PinDriver σ) (state : σ)
    (record : List PinCall) (call : LedCall) :
    driver.watched.leds.serve (state, record) call =
      ((driver.leds.serve state call).1, (driver.leds.serve state call).2,
        record ++ call.pinCalls) := by
  cases reached : Descriptor.resolve call.descriptor with
  | none =>
      rw [serve_eq_of_none reached, serve_eq_of_none reached, LedCall.pinCalls_of_none reached,
        List.append_nil]
  | some place =>
      rw [serve_eq_of_some reached, serve_eq_of_some reached, LedCall.pinCalls_of_some reached]
      cases call <;> rfl

/-- What a call of LEDs on pins does. -/
structure LedAccessLaw (call : LedCall) : Prop where
  /-- On every driver one access is made at most, and none if the bank is not there. The access is
  to the pin of the descriptor. -/
  accesses : ∀ {σ : Type} (driver : PinDriver σ) (state : σ), ∃ own : List PinCall,
    driver.watched.leds.serve (state, []) call =
      ((driver.leds.serve state call).1, (driver.leds.serve state call).2, own) ∧
    own.length ≤ 1 ∧
    (own.length = 1 ↔ ∃ given, call.descriptor = some given ∧ given.bank ≤ 3) ∧
    ∀ access ∈ own, ∃ given bank, call.descriptor = some given ∧ bank.number = given.bank ∧
      access = call.onPins bank (pinMask given.pin)
  /-- On the registers a command has the one bit of the pin, or none if the pin is not there. -/
  commands : ∀ (bench : Bench) bank command,
    .commanded bank command ∈ (Bench.registers.leds.serve bench.quiet call).2.trace.toList →
      ∃ given, call.descriptor = some given ∧ bank.number = given.bank ∧
        if given.pin ≤ 15 then
          ∃ index, index % 16 = given.pin.toNat ∧
            ∀ other, command.getLsbD other = decide (other = index)
        else command = 0

namespace LedCall

theorem length_pinCalls_le (call : LedCall) : call.pinCalls.length ≤ 1 := by
  cases reached : Descriptor.resolve call.descriptor with
  | none => rw [pinCalls_of_none reached]; exact Nat.zero_le 1
  | some place => rw [pinCalls_of_some reached]; exact Nat.le_refl 1

theorem length_pinCalls_eq_one_iff (call : LedCall) :
    call.pinCalls.length = 1 ↔ ∃ given, call.descriptor = some given ∧ given.bank ≤ 3 := by
  cases reached : Descriptor.resolve call.descriptor with
  | none =>
      rw [pinCalls_of_none reached]
      refine iff_of_false (by decide) ?_
      rintro ⟨given, held, near⟩
      exact absurd (Descriptor.resolve_eq_none_iff.mp reached given held) (UInt8.not_lt.mpr near)
  | some place =>
      obtain ⟨given, held, known, _⟩ := Descriptor.resolve_eq_some_iff.mp reached
      rw [pinCalls_of_some reached]
      refine iff_of_true rfl ⟨given, held, UInt8.not_lt.mp fun far => ?_⟩
      rw [← Bank.ofNumber?_eq_none_iff, ← known, Bank.ofNumber?_number] at far
      cases far

theorem eq_onPins_of_mem_pinCalls {call : LedCall} {access : PinCall}
    (member : access ∈ call.pinCalls) :
    ∃ given bank, call.descriptor = some given ∧ bank.number = given.bank ∧
      access = call.onPins bank (pinMask given.pin) := by
  obtain ⟨⟨bank, mask⟩, reached, rfl⟩ := List.mem_map.mp member
  obtain ⟨given, held, known, rfl⟩ :=
    Descriptor.resolve_eq_some_iff.mp (Option.mem_toList.mp reached)
  exact ⟨given, bank, held, known, rfl⟩

end LedCall

/-- A command that an access of the registers writes names the mask of the access. -/
theorem Bench.names_of_commanded {bench : Bench} {bank other : Bank} {mask : Mask} {call : LedCall}
    {command : Word} (member : .commanded other command ∈
      (registers.access bank mask bench.quiet call).trace.toList) :
    other = bank ∧ Register.Names command mask := by
  cases call with
  | set descriptor lit =>
      change _ ∈ (bench.quiet.command bank _).trace.toList at member
      rw [trace_command] at member
      cases List.mem_singleton.mp member
      exact ⟨rfl, Register.names_drive _ mask⟩
  | toggle descriptor =>
      change _ ∈ ((bench.quiet.record _).command bank _).trace.toList at member
      rw [trace_command, trace_record] at member
      rcases List.mem_cons.mp member with read | written
      · cases read
      · cases List.mem_singleton.mp written
        exact ⟨rfl, Register.names_invert _ mask⟩
  | get descriptor =>
      change _ ∈ (bench.quiet.record _).trace.toList at member
      rw [trace_record] at member
      cases List.mem_singleton.mp member

theorem ledAccess_law (call : LedCall) : LedAccessLaw call := by
  constructor
  case accesses =>
    intro σ driver state
    exact ⟨call.pinCalls, driver.serve_watched state [] call, call.length_pinCalls_le,
      call.length_pinCalls_eq_one_iff, fun _ => LedCall.eq_onPins_of_mem_pinCalls⟩
  case commands =>
    intro bench bank command member
    cases reached : Descriptor.resolve call.descriptor with
    | none =>
        rw [PinDriver.serve_of_none reached] at member
        cases member
    | some place =>
        obtain ⟨given, held, known, selected⟩ := Descriptor.resolve_eq_some_iff.mp reached
        rw [PinDriver.serve_of_some reached] at member
        obtain ⟨rfl, names⟩ := Bench.names_of_commanded member
        rw [selected] at names
        refine ⟨given, held, known, ?_⟩
        split
        · next inside => exact names.single inside
        · next beyond =>
            rw [pinMask, if_pos (UInt16.not_le.mp beyond)] at names
            exact names.eq_zero

/--
Every access to pins on the registers is exact: its one command gives the pins of the mask their
levels, whatever happened since the read, and changes nothing else. Every call of LEDs is one such
access to the pin of its descriptor, or none where the bank is not there.
-/
theorem accesses_exact :
    (∀ bank mask bench, Bench.PinAccessLaw bank mask bench) ∧ ∀ call, LedAccessLaw call :=
  ⟨Bench.pinAccess_law, ledAccess_law⟩

end LedKit
