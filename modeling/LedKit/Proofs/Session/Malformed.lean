import LedKit.Proofs.Hardware.Checked
import LedKit.Proofs.Hardware.PinAccess
import LedKit.Proofs.Session.Steady

/-!
# Descriptors of no pin

A descriptor with a bank or a pin that is not there is harmless. Every operation on a handle bound
to it and every call of the hardware with it succeeds, and no output register changes. Without the
bank nothing is accessed at all and every read is dark; with the bank alone its registers are
accessed through a mask of no pin, which commands nothing.
-/

namespace LedKit

/-! ## Accesses through a mask of no pin -/

/-- The bank or the pin of the descriptor is not there. -/
def Descriptor.Malformed (descriptor : Descriptor) : Prop :=
  3 < descriptor.bank ∨ 15 < descriptor.pin

/-- A malformed descriptor reaches nothing, or a bank of which it selects no pin. -/
theorem Descriptor.Malformed.resolve {descriptor : Descriptor} (malformed : descriptor.Malformed) :
    Descriptor.resolve (some descriptor) = none ∨
      ∃ bank : Bank, bank.number = descriptor.bank ∧
        Descriptor.resolve (some descriptor) = some (bank, 0) := by
  cases reached : Descriptor.resolve (some descriptor) with
  | none => exact .inl rfl
  | some place =>
      obtain ⟨bank, mask⟩ := place
      obtain ⟨_, ⟨rfl⟩, known, rfl⟩ := resolve_eq_some_iff.mp reached
      refine .inr ⟨bank, known, ?_⟩
      rcases malformed with far | beyond
      · rw [← Bank.ofNumber?_eq_none_iff, ← known, Bank.ofNumber?_number] at far
        cases far
      · rw [pinMask, if_pos beyond]

namespace Register

theorem drive_zero (level : Level) : drive level 0 = 0 := (names_drive level 0).eq_zero

theorem invert_zero (output : Word) : invert output 0 = 0 := (names_invert output 0).eq_zero

/-- A command that names no pin leaves the output register as it is. -/
theorem obey_zero (output : Word) : obey output 0 = output := by
  apply BitVec.eq_of_getLsbD_eq
  intro index _
  rw [← drive_zero .low, (names_drive .low 0).getLsbD_obey]
  exact if_neg (by simp)

theorem levelOf_zero (input : Word) : levelOf input 0 = .low := by
  cases read : levelOf input 0 with
  | low => rfl
  | high =>
      obtain ⟨index, selected, _⟩ := levelOf_eq_high_iff.mp read
      exact absurd selected (by simp)

end Register

/-- The event accesses a bank without naming a pin of it. -/
def Event.Idle (bank : Bank) : Event → Prop
  | .outputRead other _ | .inputRead other _ => other = bank
  | .commanded other command => other = bank ∧ command = 0
  | .pinsWritten other mask _ | .pinsToggled other mask | .pinsRead other mask =>
      other = bank ∧ mask = 0
  | _ => False

namespace Bench

/-- A bench with given output registers that recorded idle accesses to one bank. Its script is the
given one or used up. -/
structure Idle (bank : Bank) (output : PerBank Word) (script : Option Bool) (bench : Bench) :
    Prop where
  output : bench.output = output
  script : bench.scripted = script ∨ bench.scripted = none
  trace : ∀ event ∈ bench.trace.toList, event.Idle bank

namespace Idle

variable {bank : Bank} {output : PerBank Word} {script : Option Bool} {bench : Bench}

theorem quiet (idle : Idle bank output script bench) : Idle bank output script bench.quiet where
  output := idle.output
  script := idle.script
  trace := by rintro event ⟨⟩

theorem record (idle : Idle bank output script bench) (event : Event) (own : event.Idle bank) :
    Idle bank output script (bench.record event) where
  output := idle.output
  script := idle.script
  trace := by
    rw [trace_record, List.forall_mem_append, List.forall_mem_singleton]
    exact ⟨idle.trace, own⟩

/-- A command that names no pin is recorded and changes nothing. -/
theorem command_zero (idle : Idle bank output script bench) :
    Idle bank output script (bench.command bank 0) where
  output := by
    have kept : (bench.command bank 0).output = bench.output := by
      rw [command, Register.obey_zero]
      exact PerBank.set_get_self bench.output bank
    rw [kept, idle.output]
  script := idle.script
  trace := (idle.record (.commanded bank 0) ⟨rfl, rfl⟩).trace

theorem answer (idle : Idle bank output script bench) (otherwise : Bool) :
    Idle bank output script (bench.answer otherwise).2 := by
  unfold Bench.answer
  split
  · exact ⟨idle.output, .inr rfl, idle.trace⟩
  · exact idle

/-- An access of the registers through a mask of no pin changes nothing. -/
theorem registers_access (idle : Idle bank output script bench) (call : LedCall) :
    Idle bank output script (registers.access bank 0 bench call) := by
  cases call with
  | set descriptor lit =>
      change Idle bank output script (bench.command bank (Register.drive _ 0))
      rw [Register.drive_zero]
      exact idle.command_zero
  | toggle descriptor =>
      change Idle bank output script ((bench.record _).command bank (Register.invert _ 0))
      rw [Register.invert_zero]
      exact (idle.record (.outputRead bank _) rfl).command_zero
  | get descriptor => exact idle.record (.inputRead bank _) rfl

/-- An access of the recorder through a mask of no pin changes no output register either. -/
theorem recorder_access (idle : Idle bank output script bench) (call : LedCall) :
    Idle bank output script (recorder.access bank 0 bench call) := by
  cases call with
  | set descriptor lit =>
      constructor
      case output =>
        exact (output_recorder_write bench bank 0 _).trans
          (idle.registers_access (.set descriptor lit)).output
      case script => exact idle.script
      case trace => exact (idle.record (.pinsWritten bank 0 _) ⟨rfl, rfl⟩).trace
  | toggle descriptor =>
      constructor
      case output =>
        exact (output_recorder_toggle bench bank 0).trans
          (idle.registers_access (.toggle descriptor)).output
      case script => exact idle.script
      case trace => exact (idle.record (.pinsToggled bank 0) ⟨rfl, rfl⟩).trace
  | get descriptor => exact (idle.record (.pinsRead bank 0) ⟨rfl, rfl⟩).answer _

/-- Through a mask of no pin the recorder reads low when no answer is scripted. -/
theorem recorder_read (idle : Idle bank output script bench) (unscripted : script = none) :
    (recorder.read bank 0 bench).1 = .low := by
  have none : bench.scripted = none := idle.script.elim (·.trans unscripted) id
  rw [recorder_read_of_unscripted none, Register.levelOf_zero]

end Idle

end Bench

/-! ## Steady hardware -/

/-- A descriptor that resolves to nothing leaves the whole state alone and reads dark. -/
theorem PinDriver.steady_of_none {σ : Type} (driver : PinDriver σ) {descriptor : Descriptor}
    (unreachable : Descriptor.resolve (some descriptor) = none) (state : σ) :
    driver.leds.Steady descriptor (· = state) (· = false) where
  serve _ _ called same := by rw [serve_of_none (by rwa [called]), same]
  read _ same := by rw [leds_get_of_none unreachable]

namespace Bench

section MaskOfNoPin

variable {descriptor : Descriptor} {bank : Bank}
  (reached : Descriptor.resolve (some descriptor) = some (bank, 0)) (output : PerBank Word)
  (script : Option Bool)

include reached

theorem registers_steady :
    registers.leds.Steady descriptor (Idle bank output script) (· = false) where
  serve _ _ called idle := by
    rw [PinDriver.serve_of_some (by rwa [called])]
    exact idle.registers_access _
  read _ idle := by
    rw [PinDriver.leds_get_of_some reached]
    exact congrArg Level.isHigh (Register.levelOf_zero _)

theorem recorder_steady :
    recorder.leds.Steady descriptor (Idle bank output script)
      fun lit => script = none → lit = false where
  serve _ _ called idle := by
    rw [PinDriver.serve_of_some (by rwa [called])]
    exact idle.recorder_access _
  read _ idle unscripted := by
    rw [PinDriver.leds_get_of_some reached]
    exact congrArg Level.isHigh (idle.recorder_read unscripted)

end MaskOfNoPin

end Bench

namespace Kind

theorem exists_pins? {kind : Kind} (pins : kind ≠ .lamp) : ∃ driver, kind.pins? = some driver := by
  cases kind with
  | registers | recorder | sharedRecorder => exact ⟨_, rfl⟩
  | lamp => exact absurd rfl pins

/-- Through a mask of no pin every kind with pins stays as it is. -/
theorem steady_of_zero {kind : Kind} (pins : kind ≠ .lamp) {descriptor : Descriptor} {bank : Bank}
    (reached : Descriptor.resolve (some descriptor) = some (bank, 0)) (output : PerBank Word)
    (script : Option Bool) :
    kind.leds.Steady descriptor (Bench.Idle bank output script)
      fun lit => kind = .registers ∨ script = none → lit = false := by
  have recorder := Bench.recorder_steady reached output script
  cases kind with
  | registers =>
      have registers := Bench.registers_steady reached output script
      exact ⟨registers.serve, fun state idle _ => registers.read state idle⟩
  | recorder | sharedRecorder =>
      refine ⟨recorder.serve, fun state idle unscripted => recorder.read state idle ?_⟩
      exact unscripted.resolve_left (by simp)
  | lamp => exact absurd rfl pins

end Kind

/-! ## The law of malformed descriptors -/

/-- What is seen of an operation with a malformed descriptor in a session that began like this. -/
structure Observation.Harmless (kind : Kind) (descriptor : Descriptor) (session : Session)
    (operation : Op) (seen : Observation) : Prop where
  /-- The operation succeeds. -/
  succeeds : ∃ lit, seen.answer = operation.reading lit
  /-- A read is dark, unless the bank is there and the answer of a stand-in was scripted. -/
  dark : kind = .registers ∨ 3 < descriptor.bank ∨ session.bench.scripted = none →
    seen.answer = operation.reading false
  output : seen.output = session.bench.output
  handles : seen.handles = session.handles
  /-- Without the bank nothing is accessed. -/
  unreached : 3 < descriptor.bank → seen.trace = #[]
  /-- With the bank alone it is accessed through a mask of no pin. -/
  idle : ∀ bank : Bank, bank.number = descriptor.bank →
    ∀ event ∈ seen.trace.toList, event.Idle bank

/-- What operations with a malformed descriptor do in a session. -/
structure MalformedLaw (kind : Kind) (board : Board) (descriptor : Descriptor) (session : Session)
    (operations : List Op) : Prop where
  turns : ∀ (position : Nat) (operation : Op), operations[position]? = some operation →
    ∃ seen : Observation,
      (Session.runFrom kind board session operations)[position]? = some seen ∧
        seen.Harmless kind descriptor session operation
  output : (Session.after kind board session operations).bench.output = session.bench.output
  handles : (Session.after kind board session operations).handles = session.handles
  /-- Without the bank a scripted answer is left for a later read, as is everything else. -/
  unreached : 3 < descriptor.bank →
    (Session.after kind board session operations).quiet = session.quiet

namespace MalformedLaw

variable {kind : Kind} {board : Board} {descriptor : Descriptor} {session : Session}
  {operations : List Op}
  (addressed : ∀ operation ∈ operations, operation.Addresses board session.handles descriptor)

include addressed

/-- Without the bank the hardware is never reached. -/
theorem of_none {driver : PinDriver Bench} (pins : kind.pins? = some driver)
    (unreachable : Descriptor.resolve (some descriptor) = none) :
    MalformedLaw kind board descriptor session operations := by
  have steady : kind.leds.Steady descriptor (· = session.bench.quiet) (· = false) := by
    rw [Session.leds_of_pins? pins]
    exact driver.steady_of_none unreachable session.bench.quiet
  have quiet : ∀ bench : Bench, bench = session.bench.quiet →
      bench.quiet = session.bench.quiet := by
    rintro _ rfl
    rfl
  obtain ⟨same, handles⟩ := Session.after_steady steady quiet addressed rfl
  constructor
  case turns =>
    intro position operation there
    obtain ⟨seen, observed, answer, handles, bench, rfl, trace, output⟩ :=
      Session.runFrom_steady steady quiet addressed rfl there
    obtain ⟨lit, rfl, answered⟩ := answer
    refine ⟨seen, observed, ⟨false, answered⟩, fun _ => answered, output, handles, fun _ => trace,
      fun bank known event member => ?_⟩
    rw [trace] at member
    cases member
  case output =>
    have kept := congrArg Bench.output same
    exact kept
  case handles => exact handles
  case unreached =>
    intro _
    rw [Session.quiet, Session.quiet, same, handles]

/-- With the bank alone its registers are accessed through a mask of no pin. -/
theorem of_zero (pins : kind ≠ .lamp) {bank : Bank} (known : bank.number = descriptor.bank)
    (reached : Descriptor.resolve (some descriptor) = some (bank, 0)) :
    MalformedLaw kind board descriptor session operations := by
  have near : ¬3 < descriptor.bank := by
    rw [← Bank.ofNumber?_eq_none_iff, ← known, Bank.ofNumber?_number]
    exact Option.some_ne_none bank
  have steady := Kind.steady_of_zero pins reached session.bench.output session.bench.scripted
  have start : session.bench.quiet.Idle bank session.bench.output session.bench.scripted :=
    ⟨rfl, .inl rfl, by rintro event ⟨⟩⟩
  obtain ⟨kept, handles⟩ := Session.after_steady steady (fun _ => Bench.Idle.quiet) addressed start
  constructor
  case turns =>
    intro position operation there
    obtain ⟨seen, observed, answer, handles, bench, idle, trace, output⟩ :=
      Session.runFrom_steady steady (fun _ => Bench.Idle.quiet) addressed start there
    obtain ⟨lit, lawful, answered⟩ := answer
    refine ⟨seen, observed, ⟨lit, answered⟩, fun unscripted => ?_, output.trans idle.output,
      handles, fun far => absurd far near, fun other same event member => ?_⟩
    · rw [answered, lawful (unscripted.imp_right fun either => either.resolve_left near)]
    · obtain rfl : other = bank := by
        apply Option.some.inj
        rw [← Bank.ofNumber?_number other, ← Bank.ofNumber?_number bank, same, known]
      rw [trace] at member
      exact idle.trace event member
  case output => exact kept.output
  case handles => exact handles
  case unreached => exact fun far => absurd far near

end MalformedLaw

/--
Operations with a malformed descriptor succeed and change no output register, whatever the
registers, the inputs and the script are. No shift and no look-up of a call can fail, whatever the
bank and the pin of its descriptor are.
-/
theorem malformed_harmless :
    (∀ (kind : Kind) (board : Board) (descriptor : Descriptor) (session : Session)
        (operations : List Op), kind ≠ .lamp → descriptor.Malformed →
      (∀ operation ∈ operations, operation.Addresses board session.handles descriptor) →
        MalformedLaw kind board descriptor session operations) ∧
      ∀ (bench : Bench) (call : LedCall),
        Bench.checkedRegisters.serve? bench call = some (Bench.registers.leds.serve bench call) ∧
          Bench.checkedRecorder.serve? bench call =
            some (Bench.recorder.leds.serve bench call) := by
  constructor
  · intro kind board descriptor session operations pins malformed addressed
    rcases malformed.resolve with unreachable | ⟨bank, known, reached⟩
    · obtain ⟨driver, driven⟩ := Kind.exists_pins? pins
      exact .of_none addressed driven unreachable
    · exact .of_zero addressed pins known reached
  · intro bench call
    exact ⟨Bench.checkedRegisters_total.serve?_eq bench call,
      Bench.checkedRecorder_total.serve?_eq bench call⟩

/-- A scripted recorder without the bank, and registers without the pin under a forced input. -/
theorem malformed_harmless_two :
    let scripted : Session :=
      ⟨{ Bench.start ⟨0x20, 0, 0, 0xFFFF0000⟩ (.fill none) with scripted := some true },
        [.live (some ⟨7, 5⟩)]⟩
    let pulled : Session :=
      ⟨Bench.start ⟨0x20, 0, 0, 0xFFFF0000⟩ (.fill (some 0xFFFFFFFF)), [.live (some ⟨3, 20⟩)]⟩
    let operations (descriptor : Descriptor) : List Op :=
      [.onHandle 0 (.setState .on), .onHandle 0 .blinkStep,
        .onHandle 0 (.getStateInto (some .on)), .ledToggle (.direct descriptor),
        .ledGet (.direct descriptor)]
    MalformedLaw .recorder .empty ⟨7, 5⟩ scripted (operations ⟨7, 5⟩) ∧
      MalformedLaw .registers .empty ⟨3, 20⟩ pulled (operations ⟨3, 20⟩) := by
  intro scripted pulled operations
  have addressed : ∀ descriptor : Descriptor, ∀ operation ∈ operations descriptor,
      operation.Addresses .empty [.live (some descriptor)] descriptor := by
    intro descriptor
    simp only [operations, List.forall_mem_cons]
    exact ⟨⟨rfl, trivial⟩, ⟨rfl, trivial⟩, ⟨rfl, trivial⟩, rfl, rfl, List.forall_mem_nil _⟩
  exact ⟨malformed_harmless.1 .recorder .empty ⟨7, 5⟩ scripted _ (by decide) (.inl (by decide))
      (addressed ⟨7, 5⟩),
    malformed_harmless.1 .registers .empty ⟨3, 20⟩ pulled _ (by decide) (.inr (by decide))
      (addressed ⟨3, 20⟩)⟩

end LedKit
