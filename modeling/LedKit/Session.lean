import LedKit.Bench
import LedKit.Session.Operation

/-!
# Sessions

A session runs operations one after another on a bench with a growing table of handles. Every
handle works on the same hardware. A handle that was given up keeps its place in the table, so its
number is never used again. Each operation leaves an observation: its answer, the events it
caused, and the output registers and handles after it.
-/

namespace LedKit

/-- A place in the table of handles. -/
inductive Handle where
  | live (binding : Option Descriptor)
  | gone
  deriving DecidableEq

structure Session where
  bench : Bench
  handles : List Handle
  deriving DecidableEq

/-- What is seen of one operation. -/
structure Observation where
  answer : Answer
  trace : Array Event
  output : PerBank Word
  handles : List Handle
  deriving DecidableEq

namespace Session

def fresh : Session := ⟨Bench.fresh, []⟩

variable (kind : Kind) (board : Board)

/-- Run an access to the hardware that answers nothing. -/
def act (session : Session) (access : Bench → Bench) : Answer × Session :=
  (.nothing, { session with bench := access session.bench })

/-- Run an access to the pins of a bank, where there are such pins. -/
def onPins (session : Session) (number : UInt8)
    (access : PinDriver Bench → Bank → Bench → Answer × Bench) : Answer × Session :=
  match kind.pins?, Bank.ofNumber? number with
  | some driver, some bank =>
    let (answer, bench) := access driver bank session.bench
    (answer, { session with bench })
  | _, _ => (.noPins, session)

/-- Run an access with a live handle; what it leaves of the handle goes back into the table. -/
def onHandle (session : Session) (number : Nat)
    (access : Led Bench → Answer × Handle × Bench) : Answer × Session :=
  match session.handles[number]? with
  | some (.live binding) =>
    let (answer, handle, bench) := access ⟨binding, session.bench⟩
    (answer, ⟨bench, session.handles.set number handle⟩)
  | _ => (.noHandle, session)

/-- Run one operation. -/
def step (session : Session) : Op → Answer × Session
  | .new =>
    (.created session.handles.length,
      { session with handles := session.handles ++ [.live none] })
  | .descriptor slot => (.descriptor (board.descriptor (Slot.ofNumber? slot)), session)
  | .supported slot => (.flag (board.isSupported (Slot.ofNumber? slot)), session)
  | .supportedSlots => (.slots board.supportedSlots, session)
  | .ledSet target lit => session.act (kind.leds.set (target.descriptor board) lit)
  | .ledToggle target => session.act (kind.leds.toggle (target.descriptor board))
  | .ledGet target =>
    let (lit, bench) := kind.leds.get (target.descriptor board) session.bench
    (.flag lit, { session with bench })
  | .pinWrite number mask level =>
    session.onPins kind number fun driver bank bench =>
      (.nothing, driver.write bank mask level bench)
  | .pinToggle number mask =>
    session.onPins kind number fun driver bank bench =>
      (.nothing, driver.toggle bank mask bench)
  | .pinRead number mask =>
    session.onPins kind number fun driver bank bench =>
      let (level, after) := driver.read bank mask bench
      (.level level, after)
  | .script high => session.act (kind.script high)
  | .poke bank word => session.act (·.setOutput bank word)
  | .pull bank word => session.act (·.force bank word)
  | .borrow operations =>
    let (answers, led) := HandleOp.runAll kind.leds.shared board operations (Led.new session.bench)
    (.borrowed answers, { session with bench := led.hardware })
  | .release number target =>
    session.onHandle number fun led =>
      (.nothing, .gone, kind.leds.toggle (target.descriptor board) led.hardware)
  | .onHandle number operation =>
    session.onHandle number fun led =>
      let (answer, after) := operation.run kind.leds board led
      (.handled answer, .live after.binding, after.hardware)

/-- Run one operation with an empty record, and note what is seen of it. -/
def observe (session : Session) (operation : Op) : Observation × Session :=
  let (answer, after) := step kind board { session with bench := session.bench.quiet } operation
  (⟨answer, after.bench.trace, after.bench.output, after.handles⟩, after)

/-- The observations of a list of operations, run from a session. -/
def runFrom (session : Session) : List Op → List Observation
  | [] => []
  | operation :: rest =>
    let (observation, after) := observe kind board session operation
    observation :: runFrom after rest

/-- The session after a list of operations. -/
def after (session : Session) : List Op → Session :=
  List.foldl (fun session operation => (observe kind board session operation).2) session

/-- The observations of a list of operations, run on a fresh bench. -/
def run (operations : List Op) : List Observation := runFrom kind board fresh operations

@[simp] theorem runFrom_nil (session : Session) : runFrom kind board session [] = [] := rfl

@[simp] theorem runFrom_cons (session : Session) (operation : Op) (rest : List Op) :
    runFrom kind board session (operation :: rest) =
      (observe kind board session operation).1 ::
        runFrom kind board (observe kind board session operation).2 rest := rfl

@[simp] theorem after_nil (session : Session) : after kind board session [] = session := rfl

@[simp] theorem after_cons (session : Session) (operation : Op) (rest : List Op) :
    after kind board session (operation :: rest) =
      after kind board (observe kind board session operation).2 rest := rfl

theorem after_append (session : Session) (first second : List Op) :
    after kind board session (first ++ second) =
      after kind board (after kind board session first) second :=
  List.foldl_append

theorem runFrom_append (session : Session) (first second : List Op) :
    runFrom kind board session (first ++ second) =
      runFrom kind board session first ++
        runFrom kind board (after kind board session first) second := by
  induction first generalizing session with
  | nil => rfl
  | cons operation rest ih => simp [ih]

/-- Every operation leaves one observation. -/
@[simp] theorem length_runFrom (session : Session) (operations : List Op) :
    (runFrom kind board session operations).length = operations.length := by
  induction operations generalizing session with
  | nil => rfl
  | cons operation rest ih => simp [ih]

end Session

end LedKit
