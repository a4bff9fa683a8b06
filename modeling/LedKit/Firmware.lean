import LedKit.Blink
import LedKit.Board

/-!
# The firmware

A build of the firmware is made for one board and one blink interval. At boot it configures the
pin of the board's LED as an output, binds the application's LED and starts the blink task; after
that it only idles. A run is seen through its clock, its registers and its trace.
-/

namespace LedKit

/-- What a build of the firmware is made for. -/
structure Build where
  /-- The name of the board. -/
  name : String
  board : Board
  /-- The pin that boot makes an output. -/
  ledPin : Bank × UInt16
  /-- The milliseconds between two blink steps. -/
  interval : Nat
  interval_pos : 0 < interval

namespace Build

/-- The table of a board whose one LED is on pin 5 of bank A. -/
def ledOnPinFive : Board := Board.empty.declare .led1 ⟨0, 5⟩

def g431rb : Build where
  name := "NUCLEO-G431RB"
  board := ledOnPinFive
  ledPin := (.a, 5)
  interval := 500
  interval_pos := by decide

def g474re : Build where
  name := "NUCLEO-G474RE"
  board := ledOnPinFive
  ledPin := (.a, 5)
  interval := 250
  interval_pos := by decide

/-- The build that a short name stands for. -/
def ofKey? (key : String) : Option Build :=
  if key = "g431rb" then some g431rb
  else if key = "g474re" then some g474re
  else none

end Build

/-- What is seen of a run after it ends. -/
structure Run where
  clock : Nat
  bench : Bench
  deriving DecidableEq

namespace Run

def ofPair (pair : Nat × Bench) : Run := ⟨pair.1, pair.2⟩

/-- The number of events. -/
def eventCount (run : Run) : Nat := run.bench.trace.size

/-- The last events of the run; all of them if no count is given. -/
def lastEvents (run : Run) (count : Option Nat) : Array Event :=
  match count with
  | none => run.bench.trace
  | some count => run.bench.trace.extract (run.eventCount - count) run.eventCount

end Run

namespace Firmware

/-- The slot whose LED the application blinks. -/
def appSlot : Slot := .led1

/-- The milliseconds between two idle rounds: one hour. -/
def idleInterval : Nat := 3600 * 1000

/-- The hardware that the firmware drives LEDs with. -/
def hardware : Kind := .registers

variable (build : Build)

/-- Make a pin an output that starts at a level. No command is written for this. -/
def configure (bank : Bank) (pin : UInt16) (level : Level) (bench : Bench) : Bench :=
  (bench.record (.configured bank pin.toNat level)).setOutput bank
    (Register.obey (bench.output.get bank) (Register.drive level (pinMask pin)))

/-- The descriptor that the application's LED is bound to. -/
def appDescriptor : Option Descriptor := build.board.descriptor (some appSlot)

/-- A new handle on some hardware, bound as the application asks. -/
def bindApp {σ : Type} (hardware : σ) : Except LedError Unit × Led σ :=
  (Led.new hardware).bind (appDescriptor build)

/-- There is a descriptor for every slot, so the binding is never refused. -/
theorem bindApp_eq {σ : Type} (hardware : σ) :
    bindApp build hardware = (.ok (), ⟨appDescriptor build, hardware⟩) := rfl

/-- Bind the application's LED and start its task; a refused binding is reported instead. -/
def startBlinking (bench : Bench) : Bench :=
  match bindApp build bench with
  | (.error error, led) => led.hardware.log (.bindFailed appSlot error)
  | (.ok (), led) =>
    (led.hardware.log (.bound appSlot (appDescriptor build) build.interval)).record .spawned

/-- Start the application, if the board has its LED. -/
def startApp (bench : Bench) : Bench :=
  if build.board.isSupported (some appSlot) then startBlinking build bench
  else bench.log (.nothingToBlink build.name appSlot)

/-- What happens before the first idle round. -/
def boot (bench : Bench) : Bench :=
  startApp build
    (configure build.ledPin.1 build.ledPin.2 .low
      ((bench.record .powered).log (.booted build.name)))

/-- The task that boots and then idles. -/
def mainTask : Task Bench where
  opening := boot build
  round bench := bench.record (.timer idleInterval)
  interval := idleInterval
  interval_pos := by decide

/-- The task that blinks the LED of a handle bound as the application asks. -/
def blinkTask (kind : Kind) (binding : Option Descriptor) : Task Bench :=
  Blink.task kind.leds binding build.interval build.interval_pos

/-- The task that the application starts, if it starts one. Binding touches no hardware, so what
its handle is bound to is known before the run. -/
def appTask? : Option (Task Bench) :=
  if build.board.isSupported (some appSlot) then
    match bindApp build () with
    | (.error _, _) => none
    | (.ok (), led) => some (blinkTask build hardware led.binding)
  else none

/-- The tasks of the firmware, in the order they start. -/
def tasks : List (Task Bench) := mainTask build :: (appTask? build).toList

/-- Run the firmware from power-on up to a time. -/
def run (limit : Nat) (bench : Bench) : Run := .ofPair (Executor.run limit (tasks build) bench)

/-- Bind a new handle once and run the blink task on it alone. -/
def runBlink (kind : Kind) (target : Option Descriptor) (limit : Nat) (bench : Bench) :
    Except LedError Unit × Run :=
  let (outcome, led) := (Led.new bench).bind target
  (outcome,
    .ofPair (Executor.run limit [blinkTask build kind led.binding] led.hardware))

end Firmware

end LedKit
