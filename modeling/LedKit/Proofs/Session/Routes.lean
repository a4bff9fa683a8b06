import LedKit.Proofs.Session.Borrowing
import LedKit.Proofs.Session.Calls

/-!
# Routes to the hardware

One call of the LED hardware can be made through a bound handle, through the hardware below any
handle, directly, and through the pins that its descriptor resolves to. Every route records the same
events, reads the same and leaves the same session. So a session may take another route at any
operation, and nothing else that is seen of it changes.
-/

namespace LedKit

/-! ## Operations that make one call -/

/-- The operation on a handle with a binding makes one call and no other. -/
inductive HandleOp.Routes (board : Board) (binding : Option Descriptor) :
    LedCall → HandleOp → Prop where
  | setState {descriptor : Descriptor} (bound : binding = some descriptor) (state : LedState) :
      Routes board binding (.set (some descriptor) state.isOn) (.setState state)
  | toggle {descriptor : Descriptor} (bound : binding = some descriptor) :
      Routes board binding (.toggle (some descriptor)) .toggle
  | getState {descriptor : Descriptor} (bound : binding = some descriptor) :
      Routes board binding (.get (some descriptor)) .getState
  | getStateInto {descriptor : Descriptor} (bound : binding = some descriptor)
      (content : LedState) :
      Routes board binding (.get (some descriptor)) (.getStateInto (some content))
  /-- Through the hardware below a handle, whatever the handle is bound to. -/
  | drive (target : Target) (lit : Bool) :
      Routes board binding (.set (target.descriptor board) lit) (.drive target lit)

/-- The operation makes one call where it finds these handles, by whatever route. -/
inductive Op.Routes (kind : Kind) (board : Board) (handles : List Handle) :
    LedCall → Op → Prop where
  | ledSet (target : Target) (lit : Bool) :
      Routes kind board handles (.set (target.descriptor board) lit) (.ledSet target lit)
  | ledToggle (target : Target) :
      Routes kind board handles (.toggle (target.descriptor board)) (.ledToggle target)
  | ledGet (target : Target) :
      Routes kind board handles (.get (target.descriptor board)) (.ledGet target)
  | onHandle {number : Nat} {binding : Option Descriptor} {call : LedCall}
      {operation : HandleOp} (live : Handle.bindingAt? handles number = some binding)
      (routes : operation.Routes board binding call) :
      Routes kind board handles call (.onHandle number operation)
  | pinWrite {driver : PinDriver Bench} (pins : kind.pins? = some driver)
      {descriptor : Option Descriptor} {bank : Bank} {mask : Mask}
      (reached : Descriptor.resolve descriptor = some (bank, mask)) (lit : Bool) :
      Routes kind board handles (.set descriptor lit) (.pinWrite bank.number mask (.ofBool lit))
  | pinToggle {driver : PinDriver Bench} (pins : kind.pins? = some driver)
      {descriptor : Option Descriptor} {bank : Bank} {mask : Mask}
      (reached : Descriptor.resolve descriptor = some (bank, mask)) :
      Routes kind board handles (.toggle descriptor) (.pinToggle bank.number mask)
  | pinRead {driver : PinDriver Bench} (pins : kind.pins? = some driver)
      {descriptor : Option Descriptor} {bank : Bank} {mask : Mask}
      (reached : Descriptor.resolve descriptor = some (bank, mask)) :
      Routes kind board handles (.get descriptor) (.pinRead bank.number mask)

/-- What an answer to a handle tells of an LED. -/
def HandleAnswer.reading? : HandleAnswer → Option Bool
  | .state (.ok shown) => some shown.isOn
  | .stored (.ok ()) content => content.map LedState.isOn
  | _ => none

/-- What an answer tells of an LED or of pins. -/
def Answer.reading? : Answer → Option Bool
  | .flag value => some value
  | .level value => some value.isHigh
  | .handled answer => answer.reading?
  | _ => none

/-- A route of a call is not refused, reads what the call reads and does what the call does. -/
theorem HandleOp.Routes.run {board : Board} {binding : Option Descriptor} {call : LedCall}
    {operation : HandleOp} (routes : operation.Routes board binding call) {σ : Type}
    (lamps : LedHardware σ) (state : σ) :
    (operation.run lamps board ⟨binding, state⟩).1.error? = none ∧
      (operation.run lamps board ⟨binding, state⟩).1.reading? = (lamps.serve state call).1 ∧
      (operation.run lamps board ⟨binding, state⟩).2 = ⟨binding, (lamps.serve state call).2⟩ := by
  cases routes with
  | setState bound state => subst bound; exact ⟨rfl, rfl, rfl⟩
  | toggle bound => subst bound; exact ⟨rfl, rfl, rfl⟩
  | getState bound => subst bound; exact ⟨rfl, congrArg some (LedState.isOn_ofBool _), rfl⟩
  | getStateInto bound content =>
      subst bound
      exact ⟨rfl, congrArg some (LedState.isOn_ofBool _), rfl⟩
  | drive target lit => exact ⟨rfl, rfl, rfl⟩

/-- Every route of a call does what the call does, and leaves the handles as they are. -/
theorem Op.Routes.step {kind : Kind} {board : Board} {session : Session} {call : LedCall}
    {operation : Op} (routes : operation.Routes kind board session.handles call) :
    (Session.step kind board session operation).1.isRefusal = false ∧
      (Session.step kind board session operation).1.reading? =
        (kind.leds.serve session.bench call).1 ∧
      (Session.step kind board session operation).2 =
        { session with bench := (kind.leds.serve session.bench call).2 } := by
  cases routes with
  | ledSet | ledToggle | ledGet => exact ⟨rfl, rfl, rfl⟩
  | onHandle live routes =>
      obtain ⟨accepted, reading, after⟩ := routes.run kind.leds session.bench
      rw [Session.step_onHandle_of_some live, after, Handle.set_live_self live]
      exact ⟨congrArg Option.isSome accepted, reading, rfl⟩
  | pinWrite pins reached lit =>
      have serve := fun driver : PinDriver Bench => driver.leds_set_of_some reached lit
      rw [Session.step_pinWrite_of_some pins (Bank.ofNumber?_number _), Session.leds_of_pins? pins,
        LedHardware.serve, serve]
      exact ⟨rfl, rfl, rfl⟩
  | pinToggle pins reached =>
      have serve := fun driver : PinDriver Bench => driver.leds_toggle_of_some reached
      rw [Session.step_pinToggle_of_some pins (Bank.ofNumber?_number _),
        Session.leds_of_pins? pins, LedHardware.serve, serve]
      exact ⟨rfl, rfl, rfl⟩
  | pinRead pins reached =>
      have serve := fun driver : PinDriver Bench => driver.leds_get_of_some reached
      rw [Session.step_pinRead_of_some pins (Bank.ofNumber?_number _), Session.leds_of_pins? pins,
        LedHardware.serve, serve]
      exact ⟨rfl, rfl, rfl⟩

/-! ## Reads into a place -/

/-- The answer of a read into a place, given the answer of the plain read. -/
def HandleAnswer.into (content : LedState) : HandleAnswer → HandleAnswer
  | .state (.ok shown) => .stored (.ok ()) (some shown)
  | .state (.error error) => .stored (.error error) (some content)
  | answer => answer

/-- The answer of a session to a read into a place, given its answer to the plain read. -/
def Answer.into (content : LedState) : Answer → Answer
  | .handled answer => .handled (answer.into content)
  | answer => answer

/-- A read into a place does what the plain read does, and puts into the place what that answers. -/
theorem HandleOp.run_getStateInto {σ : Type} (lamps : LedHardware σ) (board : Board) (led : Led σ)
    (content : LedState) :
    (HandleOp.getStateInto (some content)).run lamps board led =
      ((HandleOp.getState.run lamps board led).1.into content,
        (HandleOp.getState.run lamps board led).2) := by
  obtain ⟨binding, state⟩ := led
  cases binding <;> rfl

theorem Session.step_getStateInto (kind : Kind) (board : Board) (session : Session) (number : Nat)
    (content : LedState) :
    step kind board session (.onHandle number (.getStateInto (some content))) =
      ((step kind board session (.onHandle number .getState)).1.into content,
        (step kind board session (.onHandle number .getState)).2) := by
  cases found : Handle.bindingAt? session.handles number with
  | none =>
      rw [step_onHandle_of_none found, step_onHandle_of_none found]
      rfl
  | some binding =>
      rw [step_onHandle_of_some found, step_onHandle_of_some found, HandleOp.run_getStateInto]
      rfl

/-! ## Operations that may stand for each other -/

/-- Two operations on a handle with a binding that make the same call, or read the same state. -/
inductive HandleOp.Interchangeable (board : Board) (binding : Option Descriptor) :
    HandleOp → HandleOp → Prop where
  | routes {call : LedCall} {first second : HandleOp} (one : first.Routes board binding call)
      (other : second.Routes board binding call) : Interchangeable board binding first second
  | read (content : LedState) :
      Interchangeable board binding .getState (.getStateInto (some content))
  | store (content : LedState) :
      Interchangeable board binding (.getStateInto (some content)) .getState

theorem HandleOp.Interchangeable.run {board : Board} {binding : Option Descriptor}
    {first second : HandleOp} (same : first.Interchangeable board binding second) {σ : Type}
    (lamps : LedHardware σ) (state : σ) :
    (first.run lamps board ⟨binding, state⟩).2 = (second.run lamps board ⟨binding, state⟩).2 := by
  cases same with
  | routes one other => rw [(one.run lamps state).2.2, (other.run lamps state).2.2]
  | read content => rw [run_getStateInto]
  | store content => rw [run_getStateInto]

/-- A run goes through an operation on the handle that the earlier ones leave. -/
theorem HandleOp.runAll_append_cons {σ : Type} (lamps : LedHardware σ) (board : Board)
    (earlier : List HandleOp) (operation : HandleOp) (later : List HandleOp) (led : Led σ) :
    runAll lamps board (earlier ++ operation :: later) led =
      let between := (runAll lamps board earlier led).2
      let after := (operation.run lamps board between).2
      ((runAll lamps board earlier led).1 ++
          (operation.run lamps board between).1 :: (runAll lamps board later after).1,
        (runAll lamps board later after).2) :=
  runAll_append lamps board earlier (operation :: later) led

/-- Where one operation stands for another, the others answer the same and the handle and the
hardware end up the same. -/
theorem HandleOp.runAll_interchangeable {σ : Type} (lamps : LedHardware σ) (board : Board)
    {binding : Option Descriptor} (earlier : List HandleOp) {first second : HandleOp}
    (same : first.Interchangeable board (rebindAll board binding earlier) second)
    (later : List HandleOp) (state : σ) :
    ∃ before answer other after,
      (runAll lamps board (earlier ++ first :: later) ⟨binding, state⟩).1 =
          before ++ answer :: after ∧
        (runAll lamps board (earlier ++ second :: later) ⟨binding, state⟩).1 =
          before ++ other :: after ∧
        before.length = earlier.length ∧
        (runAll lamps board (earlier ++ first :: later) ⟨binding, state⟩).2 =
          (runAll lamps board (earlier ++ second :: later) ⟨binding, state⟩).2 := by
  have led : (runAll lamps board earlier ⟨binding, state⟩).2 =
      ⟨rebindAll board binding earlier,
        (runAll lamps board earlier ⟨binding, state⟩).2.hardware⟩ := by
    rw [← binding_runAll lamps board earlier ⟨binding, state⟩]
  have between := same.run lamps (runAll lamps board earlier ⟨binding, state⟩).2.hardware
  rw [← led] at between
  rw [runAll_append_cons, runAll_append_cons]
  simp only [between]
  exact ⟨_, _, _, _, rfl, rfl, length_runAll lamps board earlier _, trivial⟩

/-- Two operations of a session that make the same call, or read the state of the same handle. -/
inductive Op.Interchangeable (kind : Kind) (board : Board) (handles : List Handle) :
    Op → Op → Prop where
  | routes {call : LedCall} {first second : Op} (one : first.Routes kind board handles call)
      (other : second.Routes kind board handles call) :
      Interchangeable kind board handles first second
  | read (number : Nat) (content : LedState) :
      Interchangeable kind board handles (.onHandle number .getState)
        (.onHandle number (.getStateInto (some content)))
  | store (number : Nat) (content : LedState) :
      Interchangeable kind board handles (.onHandle number (.getStateInto (some content)))
        (.onHandle number .getState)
  | borrow (earlier : List HandleOp) {first second : HandleOp} (later : List HandleOp)
      (same : first.Interchangeable board (HandleOp.rebindAll board none earlier) second) :
      Interchangeable kind board handles (.borrow (earlier ++ first :: later))
        (.borrow (earlier ++ second :: later))

namespace Session

variable {kind : Kind} {board : Board} {session : Session}

theorem step_interchangeable {first second : Op}
    (same : first.Interchangeable kind board session.handles second) :
    (step kind board session first).2 = (step kind board session second).2 := by
  cases same with
  | routes one other => rw [one.step.2.2, other.step.2.2]
  | read number content => rw [step_getStateInto]
  | store number content => rw [step_getStateInto]
  | borrow earlier later same =>
      obtain ⟨_, _, _, _, _, _, _, after⟩ :=
        HandleOp.runAll_interchangeable kind.leds board earlier same later session.bench
      exact congrArg (fun led : Led Bench => { session with bench := led.hardware }) after

/-- What is seen of an operation but for its answer. -/
structure SameEffect (kind : Kind) (board : Board) (session : Session) (first second : Op) : Prop
    where
  trace : (observe kind board session first).1.trace = (observe kind board session second).1.trace
  output : (observe kind board session first).1.output =
    (observe kind board session second).1.output
  handles : (observe kind board session first).1.handles =
    (observe kind board session second).1.handles
  /-- The registers, the inputs, the script and the lamp are the same, as are the handles. -/
  after : (observe kind board session first).2 = (observe kind board session second).2

theorem sameEffect_of_step {first second : Op}
    (same : (step kind board session.quiet first).2 = (step kind board session.quiet second).2) :
    SameEffect kind board session first second where
  trace := congrArg (·.bench.trace) same
  output := congrArg (·.bench.output) same
  handles := congrArg (·.handles) same
  after := same

theorem sameEffect_of_interchangeable {first second : Op}
    (same : first.Interchangeable kind board session.handles second) :
    SameEffect kind board session first second := by
  have quiet : first.Interchangeable kind board session.quiet.handles second := same
  exact sameEffect_of_step (step_interchangeable quiet)

/-! ## The law of routes -/

/-- What holds of the routes to the hardware in a session. -/
structure RoutesLaw (kind : Kind) (board : Board) (session : Session) : Prop where
  /-- Borrowed hardware is used like that of a handle that is made for it. -/
  borrow : ∀ operations, BorrowLaw kind board session operations
  /-- All routes of a call succeed, read the same and have the same effect. -/
  routes : ∀ call first second, first.Routes kind board session.handles call →
    second.Routes kind board session.handles call →
      SameEffect kind board session first second ∧
        (observe kind board session first).1.answer.isRefusal = false ∧
        (observe kind board session second).1.answer.isRefusal = false ∧
        (observe kind board session first).1.answer.reading? =
          (observe kind board session second).1.answer.reading?
  /-- A read into a place has the effect and the error of the plain read, bound or not, and puts
  into the place what that answers. -/
  into : ∀ number content,
    SameEffect kind board session (.onHandle number .getState)
        (.onHandle number (.getStateInto (some content))) ∧
      (observe kind board session (.onHandle number (.getStateInto (some content)))).1.answer =
        (observe kind board session (.onHandle number .getState)).1.answer.into content
  /-- Where another operation of the same effect is taken, nothing else that is seen changes. -/
  replaced : ∀ before first second rest,
    first.Interchangeable kind board (after kind board session before).handles second →
      ∃ earlier seen other later,
        runFrom kind board session (before ++ first :: rest) = earlier ++ seen :: later ∧
          runFrom kind board session (before ++ second :: rest) = earlier ++ other :: later ∧
          earlier.length = before.length ∧ seen.trace = other.trace ∧
          seen.output = other.output ∧ seen.handles = other.handles
  /-- The same on borrowed hardware: no other answer changes. -/
  replacedInside : ∀ earlier first second later,
    first.Interchangeable board (HandleOp.rebindAll board none earlier) second →
      ∃ before answer other after,
        (observe kind board session (.borrow (earlier ++ first :: later))).1.answer =
            .borrowed (before ++ answer :: after) ∧
          (observe kind board session (.borrow (earlier ++ second :: later))).1.answer =
            .borrowed (before ++ other :: after) ∧
          before.length = earlier.length

theorem runFrom_append_cons (kind : Kind) (board : Board) (session : Session) (before : List Op)
    (operation : Op) (rest : List Op) :
    runFrom kind board session (before ++ operation :: rest) =
      runFrom kind board session before ++
        (observe kind board (after kind board session before) operation).1 ::
          runFrom kind board
            (observe kind board (after kind board session before) operation).2 rest :=
  runFrom_append kind board session before (operation :: rest)

theorem routes_law (kind : Kind) (board : Board) (session : Session) :
    RoutesLaw kind board session := by
  constructor
  case borrow => exact borrow_law kind board session
  case routes =>
    intro call first second one other
    have oneQuiet : first.Routes kind board session.quiet.handles call := one
    have otherQuiet : second.Routes kind board session.quiet.handles call := other
    obtain ⟨accepted, reading, _⟩ := oneQuiet.step
    obtain ⟨acceptedToo, readingToo, _⟩ := otherQuiet.step
    exact ⟨sameEffect_of_interchangeable (.routes one other), accepted, acceptedToo,
      reading.trans readingToo.symm⟩
  case into =>
    intro number content
    refine ⟨sameEffect_of_interchangeable (.read number content), ?_⟩
    exact congrArg Prod.fst (step_getStateInto kind board session.quiet number content)
  case replaced =>
    intro before first second rest same
    have effect := sameEffect_of_interchangeable same
    refine ⟨_, _, _, _, runFrom_append_cons kind board session before first rest, ?_,
      length_runFrom kind board session before, effect.trace, effect.output, effect.handles⟩
    rw [runFrom_append_cons, effect.after]
  case replacedInside =>
    intro earlier first second later same
    obtain ⟨before, answer, other, after, answers, answersToo, length, _⟩ :=
      HandleOp.runAll_interchangeable kind.leds board earlier same later session.bench.quiet
    exact ⟨before, answer, other, after, congrArg Answer.borrowed answers,
      congrArg Answer.borrowed answersToo, length⟩

/-- The recorder behind a reference is used like the recorder itself. -/
theorem step_sharedRecorder (board : Board) (session : Session) (operation : Op) :
    step .sharedRecorder board session operation = step .recorder board session operation := by
  cases operation <;> rfl

theorem runFrom_sharedRecorder (board : Board) (session : Session) (operations : List Op) :
    runFrom .sharedRecorder board session operations =
      runFrom .recorder board session operations := by
  induction operations generalizing session with
  | nil => rfl
  | cons operation rest ih =>
      have stepped : observe .sharedRecorder board session operation =
          observe .recorder board session operation := by
        rw [observe_eq, observe_eq, step_sharedRecorder]
      rw [runFrom_cons, runFrom_cons, stepped, ih]

/--
In every session on every hardware all routes to it agree, and so does the rest of the session
whichever is taken. A reference to the recorder is no route of its own.
-/
theorem routes_agree (kind : Kind) (board : Board) (session : Session) :
    RoutesLaw kind board session ∧ ∀ operations,
      runFrom .sharedRecorder board session operations =
        runFrom .recorder board session operations :=
  ⟨routes_law kind board session, runFrom_sharedRecorder board session⟩

/-- Four routes to one pin, two of them on handles with other bindings. -/
theorem routes_agree_pin :
    let board : Board := ⟨none, some ⟨0, 5⟩, none⟩
    let session : Session :=
      ⟨Bench.fresh.setOutput .a 0xFFFF0000, [.live (some ⟨0, 5⟩), .live none]⟩
    SameEffect .registers board session (.onHandle 0 (.setState .on))
        (.onHandle 1 (.drive (.slot 1) true)) ∧
      SameEffect .registers board session (.onHandle 0 (.setState .on))
        (.ledSet (.direct ⟨0, 5⟩) true) ∧
      SameEffect .registers board session (.onHandle 0 (.setState .on))
        (.pinWrite 0 0x0020 .high) ∧
      (observe .registers board session (.onHandle 0 (.setState .on))).1.output.get .a =
        0xFFFF0020 := by
  intro board session
  have law := (routes_agree .registers board session).1
  have bound : Op.Routes .registers board session.handles (.set (some ⟨0, 5⟩) true)
      (.onHandle 0 (.setState .on)) := .onHandle rfl (.setState rfl .on)
  have driven : Op.Routes .registers board session.handles (.set (some ⟨0, 5⟩) true)
      (.onHandle 1 (.drive (.slot 1) true)) := .onHandle rfl (.drive (.slot 1) true)
  have direct : Op.Routes .registers board session.handles (.set (some ⟨0, 5⟩) true)
      (.ledSet (.direct ⟨0, 5⟩) true) := .ledSet (.direct ⟨0, 5⟩) true
  have reached : Descriptor.resolve (some ⟨0, 5⟩) = some (.a, 0x0020) := by decide
  have pins : Op.Routes .registers board session.handles (.set (some ⟨0, 5⟩) true)
      (.pinWrite 0 0x0020 .high) := .pinWrite Kind.pins?_registers reached true
  exact ⟨(law.routes _ _ _ bound driven).1, (law.routes _ _ _ bound direct).1,
    (law.routes _ _ _ bound pins).1, by decide⟩

end Session

end LedKit
