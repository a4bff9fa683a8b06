import LedKit.Proofs.Executor.Records
import LedKit.Proofs.Session.Independence
import Mathlib.Data.List.Forall2

/-!
# Handles for a time

To borrow the hardware is to use a new handle that is not kept. The operations answer, record and
change the bench as they do on a handle that is made for them and stays in the table. The rest of
the session is the same too, up to the numbers of the handles made later, which are one higher where
the handle stays.
-/

namespace LedKit

/-! ## Operations on one handle -/

namespace HandleOp

variable (kind : Kind) (board : Board) (binding : Option Descriptor) (operations : List HandleOp)

/-- What operations on a handle with a binding make of the bench. -/
def effect (bench : Bench) : Bench :=
  (runAll kind.leds board operations ⟨binding, bench⟩).2.hardware

/-- Neither answers nor changes depend on what was recorded before. -/
theorem runAll_preceded (earlier : Array Event) (bench : Bench) :
    (runAll kind.leds board operations ⟨binding, bench.preceded earlier⟩).1 =
        (runAll kind.leds board operations ⟨binding, bench⟩).1 ∧
      effect kind board binding operations (bench.preceded earlier) =
        (effect kind board binding operations bench).preceded earlier := by
  have alike : Led.Alike (fun bench other => bench = other.preceded earlier)
      (⟨binding, bench.preceded earlier⟩ : Led Bench) ⟨binding, bench⟩ := ⟨rfl, rfl⟩
  obtain ⟨answers, after⟩ :=
    runAll_alike (kind.leds_agree_preceded earlier) board operations alike
  exact ⟨answers, after.hardware⟩

theorem recording_effect : Bench.Recording (effect kind board binding operations) :=
  fun earlier bench => (runAll_preceded kind board binding operations earlier bench).2

theorem answers_congr {bench other : Bench} (same : bench.quiet = other.quiet) :
    (runAll kind.leds board operations ⟨binding, bench⟩).1 =
      (runAll kind.leds board operations ⟨binding, other⟩).1 := by
  have first := (runAll_preceded kind board binding operations bench.trace bench.quiet).1
  have second := (runAll_preceded kind board binding operations other.trace other.quiet).1
  rw [bench.preceded_quiet] at first
  rw [other.preceded_quiet] at second
  rw [first, second, same]

/-- The operations after the first find the bench that the first leaves. -/
theorem effect_cons (operation : HandleOp) (rest : List HandleOp) :
    effect kind board binding (operation :: rest) = fun bench =>
      effect kind board (operation.rebind board binding) rest
        (effect kind board binding [operation] bench) := by
  funext bench
  rw [effect, runAll_cons]
  rfl

end HandleOp

namespace Session

variable (kind : Kind) (board : Board) {session : Session} {number : Nat}
  {binding : Option Descriptor}

/-- Operations on a live handle, one after another in a session, are a run of that handle. -/
theorem runFrom_onHandle (found : Handle.bindingAt? session.handles number = some binding)
    (operations : List HandleOp) :
    (runFrom kind board session (operations.map (.onHandle number))).map Observation.answer =
        (HandleOp.runAll kind.leds board operations ⟨binding, session.bench⟩).1.map .handled ∧
      (runFrom kind board session (operations.map (.onHandle number))).flatMap
          (·.trace.toList) =
        Bench.recorded (HandleOp.effect kind board binding operations) session.bench ∧
      (after kind board session (operations.map (.onHandle number))).bench.quiet =
        (HandleOp.effect kind board binding operations session.bench).quiet := by
  induction operations generalizing session binding with
  | nil => exact ⟨rfl, rfl, rfl⟩
  | cons operation rest ih =>
      have first := HandleOp.recording_effect kind board binding [operation]
      have others := HandleOp.recording_effect kind board (operation.rebind board binding) rest
      obtain ⟨answer, later⟩ := observe_onHandle kind board found operation
      obtain ⟨answers, trace, quiet⟩ := ih (bindingAt?_observe_self kind board found operation)
      have between : (observe kind board session (.onHandle number operation)).2.bench.quiet =
          (HandleOp.effect kind board binding [operation] session.bench).quiet := by
        rw [later]
        exact (first.quiet session.bench).symm
      have own : (observe kind board session (.onHandle number operation)).1.trace.toList =
          Bench.recorded (HandleOp.effect kind board binding [operation]) session.bench :=
        congrArg (·.bench.trace.toList) later
      refine ⟨?_, ?_, ?_⟩
      · have same := HandleOp.answers_congr kind board binding [operation]
          (show session.bench.quiet.quiet = session.bench.quiet from rfl)
        rw [List.map_cons, runFrom_cons, List.map_cons, answers, answer, HandleOp.runAll_cons,
          HandleOp.answers_congr kind board _ rest between]
        exact congrArg (Answer.handled · :: _) (List.cons.inj same).1
      · rw [List.map_cons, runFrom_cons, List.flatMap_cons, own, trace,
          HandleOp.effect_cons kind board binding operation rest, first.recorded_andThen others,
          Bench.recorded_congr _ between]
      · rw [List.map_cons, after_cons, quiet,
          HandleOp.effect_cons kind board binding operation rest]
        exact others.quiet_congr between

theorem handles_after_onHandle (found : Handle.bindingAt? session.handles number = some binding)
    (operations : List HandleOp) :
    (after kind board session (operations.map (.onHandle number))).handles =
      session.handles.set number (.live (HandleOp.rebindAll board binding operations)) := by
  induction operations generalizing session binding with
  | nil => exact (Handle.set_live_self found).symm
  | cons operation rest ih =>
      rw [List.map_cons, after_cons, ih (bindingAt?_observe_self kind board found operation),
        (observe_onHandle kind board found operation).2, List.set_set]
      rfl

end Session

/-! ## Tables with a handle more -/

/-- The number that a handle has once another was put into its table at a place. -/
def Handle.beyond (place number : Nat) : Nat := if number < place then number else number + 1

/-- The second table is the first with a handle more at a place. -/
def Handle.Beside (place : Nat) (extra : Handle) (handles others : List Handle) : Prop :=
  ∃ earlier later, earlier.length = place ∧ handles = earlier ++ later ∧
    others = earlier ++ extra :: later

namespace Handle.Beside

variable {place : Nat} {extra : Handle} {handles others : List Handle}

theorem length_eq (beside : Beside place extra handles others) :
    others.length = handles.length + 1 ∧ place ≤ handles.length := by
  obtain ⟨earlier, later, rfl, rfl, rfl⟩ := beside
  simp only [List.length_append, List.length_cons]
  omega

theorem getElem?_beyond (beside : Beside place extra handles others) (number : Nat) :
    others[beyond place number]? = handles[number]? := by
  obtain ⟨earlier, later, rfl, rfl, rfl⟩ := beside
  unfold beyond
  split
  · next inside => rw [List.getElem?_append_left inside, List.getElem?_append_left inside]
  · next outside =>
      have past : number + 1 - earlier.length = number - earlier.length + 1 := by omega
      rw [List.getElem?_append_right (by omega), List.getElem?_append_right (by omega), past,
        List.getElem?_cons_succ]

theorem bindingAt?_beyond (beside : Beside place extra handles others) (number : Nat) :
    bindingAt? others (beyond place number) = bindingAt? handles number := by
  rw [bindingAt?, bindingAt?, beside.getElem?_beyond]

theorem set (beside : Beside place extra handles others) (number : Nat) (handle : Handle) :
    Beside place extra (handles.set number handle)
      (others.set (beyond place number) handle) := by
  obtain ⟨earlier, later, rfl, rfl, rfl⟩ := beside
  unfold beyond
  split
  · next inside =>
      refine ⟨earlier.set number handle, later, List.length_set, ?_, ?_⟩
      · rw [List.set_append_left _ _ inside]
      · rw [List.set_append_left _ _ inside]
  · next outside =>
      have past : number + 1 - earlier.length = number - earlier.length + 1 := by omega
      refine ⟨earlier, later.set (number - earlier.length) handle, rfl, ?_, ?_⟩
      · rw [List.set_append_right _ _ (by omega)]
      · rw [List.set_append_right _ _ (by omega), past, List.set_cons_succ]

theorem append (beside : Beside place extra handles others) (handle : Handle) :
    Beside place extra (handles ++ [handle]) (others ++ [handle]) := by
  obtain ⟨earlier, later, rfl, rfl, rfl⟩ := beside
  exact ⟨earlier, later ++ [handle], rfl, List.append_assoc .., List.append_assoc ..⟩

end Handle.Beside

/-- The operation on the same handles once another was put into their table at a place. -/
def Op.beyond (place : Nat) : Op → Op
  | .release number target => .release (Handle.beyond place number) target
  | .onHandle number operation => .onHandle (Handle.beyond place number) operation
  | operation => operation

/-- The answer about the same handles once another was put into their table at a place. -/
def Answer.beyond (place : Nat) : Answer → Answer
  | .created number => .created (Handle.beyond place number)
  | answer => answer

/-- What is seen of the same operation beside a table with a handle more. -/
structure Observation.Beside (place : Nat) (extra : Handle) (seen other : Observation) : Prop where
  answer : other.answer = seen.answer.beyond place
  trace : other.trace = seen.trace
  output : other.output = seen.output
  handles : Handle.Beside place extra seen.handles other.handles

namespace Session

variable (kind : Kind) (board : Board) {place : Nat} {extra : Handle}

theorem onPins_beside (bench : Bench) {handles others : List Handle}
    (beside : Handle.Beside place extra handles others) (number : UInt8)
    {access : PinDriver Bench → Bank → Bench → Answer × Bench}
    (creates : ∀ driver bank bench, (access driver bank bench).1.beyond place =
      (access driver bank bench).1) :
    (onPins kind ⟨bench, others⟩ number access).1 =
        (onPins kind ⟨bench, handles⟩ number access).1.beyond place ∧
      (onPins kind ⟨bench, others⟩ number access).2.bench =
        (onPins kind ⟨bench, handles⟩ number access).2.bench ∧
      Handle.Beside place extra (onPins kind ⟨bench, handles⟩ number access).2.handles
        (onPins kind ⟨bench, others⟩ number access).2.handles := by
  rw [handles_onPins, handles_onPins]
  unfold onPins
  split
  · exact ⟨(creates _ _ _).symm, rfl, beside⟩
  · exact ⟨rfl, rfl, beside⟩

/-- An operation does not notice a handle more that it does not use. -/
theorem step_beside (bench : Bench) {handles others : List Handle}
    (beside : Handle.Beside place extra handles others) (operation : Op) :
    (step kind board ⟨bench, others⟩ (operation.beyond place)).1 =
        (step kind board ⟨bench, handles⟩ operation).1.beyond place ∧
      (step kind board ⟨bench, others⟩ (operation.beyond place)).2.bench =
        (step kind board ⟨bench, handles⟩ operation).2.bench ∧
      Handle.Beside place extra (step kind board ⟨bench, handles⟩ operation).2.handles
        (step kind board ⟨bench, others⟩ (operation.beyond place)).2.handles := by
  cases operation with
  | new =>
      obtain ⟨length, inside⟩ := beside.length_eq
      refine ⟨?_, rfl, beside.append _⟩
      change Answer.created others.length = .created (Handle.beyond place handles.length)
      rw [length, Handle.beyond, if_neg (by omega)]
  | pinWrite number mask level => exact onPins_beside kind bench beside number fun _ _ _ => rfl
  | pinToggle number mask => exact onPins_beside kind bench beside number fun _ _ _ => rfl
  | pinRead number mask => exact onPins_beside kind bench beside number fun _ _ _ => rfl
  | release number target =>
      have same := beside.bindingAt?_beyond number
      cases found : Handle.bindingAt? handles number with
      | none =>
          rw [Op.beyond, step_release_of_none (same.trans found), step_release_of_none found]
          exact ⟨rfl, rfl, beside⟩
      | some binding =>
          rw [Op.beyond, step_release_of_some (same.trans found), step_release_of_some found]
          exact ⟨rfl, rfl, beside.set number _⟩
  | onHandle number operation =>
      have same := beside.bindingAt?_beyond number
      cases found : Handle.bindingAt? handles number with
      | none =>
          rw [Op.beyond, step_onHandle_of_none (same.trans found), step_onHandle_of_none found]
          exact ⟨rfl, rfl, beside⟩
      | some binding =>
          rw [Op.beyond, step_onHandle_of_some (same.trans found), step_onHandle_of_some found]
          exact ⟨rfl, rfl, beside.set number _⟩
  | _ => exact ⟨rfl, rfl, beside⟩

/-- A session does not notice a handle more that it does not use. -/
theorem runFrom_beside {session other : Session}
    (bench : session.bench.quiet = other.bench.quiet)
    (beside : Handle.Beside place extra session.handles other.handles) (operations : List Op) :
    List.Forall₂ (Observation.Beside place extra) (runFrom kind board session operations)
      (runFrom kind board other (operations.map (Op.beyond place))) := by
  induction operations generalizing session other with
  | nil => exact .nil
  | cons operation rest ih =>
      have quiet : other.quiet = ⟨session.bench.quiet, other.handles⟩ := by
        rw [bench]
        rfl
      obtain ⟨answer, after, table⟩ := step_beside kind board session.bench.quiet beside operation
      rw [List.map_cons, runFrom_cons, runFrom_cons, observe_eq kind board other, quiet]
      refine .cons ?_ (ih (congrArg Bench.quiet after.symm) table)
      exact ⟨answer, congrArg Bench.trace after, congrArg Bench.output after, table⟩

/-! ## The law of borrowing -/

/-- The operations that make a handle with a number and then run on it. -/
def ownRun (number : Nat) (operations : List HandleOp) : List Op :=
  .new :: operations.map (.onHandle number)

/--
What holds of operations on borrowed hardware, beside the same operations on a handle that is made
for them.
-/
structure BorrowLaw (session : Session) (operations : List HandleOp) : Prop where
  /-- The answers are the same. -/
  answers : ∃ answers,
    (observe kind board session (.borrow operations)).1.answer = .borrowed answers ∧
      (runFrom kind board session (ownRun session.handles.length operations)).map
          Observation.answer =
        .created session.handles.length :: answers.map .handled
  /-- The events are the same, one after another. -/
  trace : (observe kind board session (.borrow operations)).1.trace.toList =
    (runFrom kind board session (ownRun session.handles.length operations)).flatMap
      (·.trace.toList)
  output : (observe kind board session (.borrow operations)).1.output =
    (after kind board session (ownRun session.handles.length operations)).bench.output
  /-- The whole bench is the same, but for what the last operation recorded. -/
  bench : (after kind board session [.borrow operations]).bench.quiet =
    (after kind board session (ownRun session.handles.length operations)).bench.quiet
  /-- Borrowing leaves the table of handles alone. -/
  handles : (observe kind board session (.borrow operations)).1.handles = session.handles ∧
    (after kind board session [.borrow operations]).handles = session.handles
  /-- Borrowing does not depend on the table of handles. -/
  anyHandles : ∀ handles,
    (observe kind board ⟨session.bench, handles⟩ (.borrow operations)).1 =
      { (observe kind board session (.borrow operations)).1 with handles := handles }
  /-- The rest of the session is the same beside the handle that was made. -/
  rest : ∀ rest : List Op, ∃ extra,
    List.Forall₂ (Observation.Beside session.handles.length extra)
      (runFrom kind board (after kind board session [.borrow operations]) rest)
      (runFrom kind board
        (after kind board session (ownRun session.handles.length operations))
        (rest.map (Op.beyond session.handles.length)))

theorem borrow_law (session : Session) (operations : List HandleOp) :
    BorrowLaw kind board session operations := by
  have made : (observe kind board session .new).2 =
      ⟨session.bench.quiet, session.handles ++ [.live none]⟩ := rfl
  have found : Handle.bindingAt? (observe kind board session .new).2.handles
      session.handles.length = some none :=
    Handle.bindingAt?_eq_some_iff.mpr List.getElem?_concat_length
  obtain ⟨answers, trace, quiet⟩ := runFrom_onHandle kind board found operations
  have bench : (after kind board session [.borrow operations]).bench.quiet =
      (after kind board session (ownRun session.handles.length operations)).bench.quiet := quiet.symm
  constructor
  case answers =>
    refine ⟨_, rfl, ?_⟩
    rw [ownRun, runFrom_cons, List.map_cons, answers]
    rfl
  case trace =>
    rw [ownRun, runFrom_cons, List.flatMap_cons, trace]
    rfl
  case output =>
    have output := congrArg Bench.output bench
    exact output
  case bench => exact bench
  case handles => exact ⟨rfl, rfl⟩
  case anyHandles => exact fun _ => rfl
  case rest =>
    intro rest
    refine ⟨.live (HandleOp.rebindAll board none operations),
      runFrom_beside kind board bench ⟨session.handles, [], rfl, ?_, ?_⟩ rest⟩
    · exact (List.append_nil _).symm
    · have table := handles_after_onHandle kind board found operations
      rw [ownRun, after_cons, table, made, List.set_append_right _ _ (Nat.le_refl _), Nat.sub_self]
      rfl

end Session

end LedKit
