import LedKit.Event
import LedKit.Hardware
import LedKit.PerBank

/-!
# The test bench

A bench holds the registers of the four banks, the levels that something outside forces on their
inputs, and what the stand-ins for real hardware need: one scripted answer and one lamp. Every
access is recorded as an event. Four kinds of hardware run on it: the real registers, a recorder
of pin accesses, the same recorder behind a reference, and a recorder of LED accesses.
-/

namespace LedKit

structure Bench where
  /-- The output registers. -/
  output : PerBank Word
  /-- The words forced on the input registers. A bank without one reads its own output. -/
  forced : PerBank (Option Word)
  /-- The answer that the next read of a recorder gives; that read uses it up. -/
  scripted : Option Bool
  /-- The state of the one lamp that stands for every LED. -/
  lit : Bool
  /-- What happened, the oldest event first. -/
  trace : Array Event
  deriving DecidableEq

namespace Bench

/-- A bench whose registers hold the given words. -/
def start (output : PerBank Word) (forced : PerBank (Option Word)) : Bench :=
  ⟨output, forced, none, false, #[]⟩

/-- The bench after a reset. -/
def fresh : Bench := start (.fill 0) (.fill none)

def record (bench : Bench) (event : Event) : Bench :=
  { bench with trace := bench.trace.push event }

/-- The bench with nothing recorded. -/
def quiet (bench : Bench) : Bench := { bench with trace := #[] }

def setOutput (bench : Bench) (bank : Bank) (word : Word) : Bench :=
  { bench with output := bench.output.set bank word }

/-- Force a word on an input register, or stop doing so. -/
def force (bench : Bench) (bank : Bank) (word : Option Word) : Bench :=
  { bench with forced := bench.forced.set bank word }

/-- The word that the input register of a bank shows. -/
def input (bench : Bench) (bank : Bank) : Word :=
  (bench.forced.get bank).getD (bench.output.get bank)

def log (bench : Bench) (message : Message) : Bench := bench.record (.logged message)

@[simp] theorem trace_record (bench : Bench) (event : Event) :
    (bench.record event).trace.toList = bench.trace.toList ++ [event] := Array.toList_push

@[simp] theorem output_record (bench : Bench) (event : Event) :
    (bench.record event).output = bench.output := rfl

@[simp] theorem forced_record (bench : Bench) (event : Event) :
    (bench.record event).forced = bench.forced := rfl

@[simp] theorem scripted_record (bench : Bench) (event : Event) :
    (bench.record event).scripted = bench.scripted := rfl

@[simp] theorem lit_record (bench : Bench) (event : Event) :
    (bench.record event).lit = bench.lit := rfl

@[simp] theorem input_record (bench : Bench) (event : Event) (bank : Bank) :
    (bench.record event).input bank = bench.input bank := rfl

/-- Write a command to a bank, whose output register obeys it. -/
def command (bench : Bench) (bank : Bank) (word : Word) : Bench :=
  (bench.record (.commanded bank word)).setOutput bank
    (Register.obey (bench.output.get bank) word)

/-- The registers of the chip: a write is one command, a toggle reads the output register and then
writes one command, a read looks at the input register. -/
def registers : PinDriver Bench where
  write bank mask level bench := bench.command bank (Register.drive level mask)
  toggle bank mask bench :=
    let word := bench.output.get bank
    (bench.record (.outputRead bank word)).command bank (Register.invert word mask)
  read bank mask bench :=
    let word := bench.input bank
    (Register.levelOf word mask, bench.record (.inputRead bank word))

/-- A read of a stand-in: the scripted answer, used up, or else the given one. -/
def answer (bench : Bench) (otherwise : Bool) : Bool × Bench :=
  match bench.scripted with
  | some scripted => (scripted, { bench with scripted := none })
  | none => (otherwise, bench)

/-- A stand-in for the registers that records each access and keeps the levels of the pins in the
output registers. -/
def recorder : PinDriver Bench where
  write bank mask level bench :=
    let pins := mask.setWidth 32
    let word := bench.output.get bank
    let after := match level with
      | .high => word ||| pins
      | .low => word &&& ~~~pins
    (bench.record (.pinsWritten bank mask level)).setOutput bank after
  toggle bank mask bench :=
    (bench.record (.pinsToggled bank mask)).setOutput bank
      (bench.output.get bank ^^^ mask.setWidth 32)
  read bank mask bench :=
    let (high, after) := (bench.record (.pinsRead bank mask)).answer
      (bench.output.get bank &&& mask.setWidth 32 != 0)
    (Level.ofBool high, after)

theorem get_output_command (bench : Bench) (bank other : Bank) (word : Word) :
    (bench.command bank word).output.get other =
      if other = bank then Register.obey (bench.output.get bank) word
      else bench.output.get other :=
  PerBank.get_set bench.output bank other _

@[simp] theorem trace_command (bench : Bench) (bank : Bank) (word : Word) :
    (bench.command bank word).trace.toList = bench.trace.toList ++ [.commanded bank word] :=
  trace_record bench (.commanded bank word)

theorem output_registers_write (bench : Bench) (bank : Bank) (mask : Mask) (level : Level) :
    (registers.write bank mask level bench).output =
      bench.output.set bank
        (Register.obey (bench.output.get bank) (Register.drive level mask)) := rfl

theorem output_registers_toggle (bench : Bench) (bank : Bank) (mask : Mask) :
    (registers.toggle bank mask bench).output =
      bench.output.set bank
        (Register.obey (bench.output.get bank)
          (Register.invert (bench.output.get bank) mask)) := rfl

/-- The recorder writes pins as the registers do. -/
theorem output_recorder_write (bench : Bench) (bank : Bank) (mask : Mask) (level : Level) :
    (recorder.write bank mask level bench).output =
      (registers.write bank mask level bench).output := by
  cases level
  · exact congrArg (bench.output.set bank) (Register.obey_drive_low _ mask).symm
  · exact congrArg (bench.output.set bank) (Register.obey_drive_high _ mask).symm

/-- The recorder toggles pins as the registers do. -/
theorem output_recorder_toggle (bench : Bench) (bank : Bank) (mask : Mask) :
    (recorder.toggle bank mask bench).output = (registers.toggle bank mask bench).output :=
  congrArg (bench.output.set bank) (Register.obey_invert _ mask).symm

/-- Without a script the recorder reads its output register as the registers read their input. -/
theorem recorder_read_of_unscripted {bench : Bench} (unscripted : bench.scripted = none)
    (bank : Bank) (mask : Mask) :
    recorder.read bank mask bench =
      (Register.levelOf (bench.output.get bank) mask, bench.record (.pinsRead bank mask)) := by
  simp [recorder, answer, unscripted, Register.levelOf]

/-- A stand-in for all LEDs that records each access and keeps a single lamp. -/
def lamp : LedHardware Bench where
  set descriptor lit bench := { bench.record (.lampSet descriptor lit) with lit := lit }
  toggle descriptor bench := { bench.record (.lampToggled descriptor) with lit := !bench.lit }
  get descriptor bench := (bench.record (.lampRead descriptor)).answer bench.lit

end Bench

/-- The hardware that a bench runs. -/
inductive Kind where
  | registers
  | recorder
  | sharedRecorder
  | lamp
  deriving DecidableEq

namespace Kind

/-- The pin driver, for those kinds that have pins. -/
def pins? : Kind → Option (PinDriver Bench)
  | registers => some Bench.registers
  | recorder => some Bench.recorder
  | sharedRecorder => some Bench.recorder.shared
  | lamp => none

/-- The LED hardware. -/
def leds (kind : Kind) : LedHardware Bench :=
  match kind.pins? with
  | some driver => driver.leds
  | none => Bench.lamp

/-- Script the answer of the next read. The registers take no script. -/
def script (kind : Kind) (high : Bool) (bench : Bench) : Bench :=
  match kind with
  | registers => bench
  | recorder | sharedRecorder | lamp => { bench with scripted := some high }

theorem pins?_registers : registers.pins? = some Bench.registers := rfl

theorem pins?_recorder : recorder.pins? = some Bench.recorder := rfl

end Kind

end LedKit
