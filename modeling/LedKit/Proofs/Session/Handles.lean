import LedKit.Proofs.Session.Run

/-!
# The life of a handle

A handle is made unbound, is bound anew by each operation on it that names a descriptor, and is
gone for good once it is given up. Nothing else changes it, whatever hardware the session runs on.
An operation on a handle is refused for reasons that its binding and its arguments give, and a
refused operation leaves everything as it was.
-/

namespace LedKit

/-! ## One operation on a handle -/

/-- The error that an operation on a handle was refused with. -/
def HandleAnswer.error? : HandleAnswer → Option LedError
  | .done (.error error) | .state (.error error) | .stored (.error error) _ => some error
  | _ => none

namespace HandleOp

/-- The binding that an operation leaves to a handle. -/
def rebind (board : Board) (binding : Option Descriptor) : HandleOp → Option Descriptor
  | .bind target => (target.descriptor board).or binding
  | _ => binding

/-- The binding that operations leave to a handle, one after another. -/
def rebindAll (board : Board) (binding : Option Descriptor) (operations : List HandleOp) :
    Option Descriptor :=
  operations.foldl (rebind board) binding

/--
Why an operation is refused on a handle with a binding. A bind needs a descriptor and a read into a
place needs the place, bound or not; whatever else uses the LED needs the handle to be bound.
-/
def refusal? (board : Board) (binding : Option Descriptor) : HandleOp → Option LedError
  | .bind target => if target.descriptor board = none then some .missingArgument else none
  | .getStateInto none => some .missingArgument
  | .setState _ | .toggle | .getState | .getStateInto (some _) | .blinkStep =>
      if binding = none then some .unbound else none
  | .isBound | .binding | .drive _ _ => none

variable {σ : Type} (lamps : LedHardware σ) (board : Board)

theorem binding_run (operation : HandleOp) (led : Led σ) :
    (operation.run lamps board led).2.binding = operation.rebind board led.binding := by
  obtain ⟨binding, hardware⟩ := led
  cases operation with
  | bind target =>
      cases wanted : target.descriptor board with
      | none => simp [run, rebind, wanted]
      | some descriptor => simp [run, rebind, wanted]
  | isBound | binding | drive => rfl
  | getStateInto place => cases place <;> cases binding <;> rfl
  | _ => cases binding <;> rfl

theorem error?_run (operation : HandleOp) (led : Led σ) :
    (operation.run lamps board led).1.error? = operation.refusal? board led.binding := by
  obtain ⟨binding, hardware⟩ := led
  cases operation with
  | bind target =>
      cases wanted : target.descriptor board with
      | none => simp [run, refusal?, wanted, HandleAnswer.error?]
      | some descriptor => simp [run, refusal?, wanted, HandleAnswer.error?]
  | isBound | binding | drive => rfl
  | getStateInto place => cases place <;> cases binding <;> rfl
  | _ => cases binding <;> rfl

/-- A refused operation leaves the handle and its hardware as they were. -/
theorem run_of_error {operation : HandleOp} {led : Led σ}
    (refused : (operation.run lamps board led).1.error? ≠ none) :
    (operation.run lamps board led).2 = led := by
  obtain ⟨binding, hardware⟩ := led
  cases operation with
  | bind target =>
      cases wanted : target.descriptor board with
      | none => simp [run, wanted]
      | some descriptor => simp [run, wanted, HandleAnswer.error?] at refused
  | isBound | binding | drive => exact absurd rfl refused
  | getStateInto place =>
      cases place with
      | none => rfl
      | some content =>
          cases binding with
          | none => rfl
          | some descriptor => exact absurd rfl refused
  | _ =>
      cases binding with
      | none => rfl
      | some descriptor => exact absurd rfl refused

/-- A refused read into a place leaves the place as it was. -/
theorem eq_getStateInto_of_stored_error {operation : HandleOp} {led : Led σ} {error : LedError}
    {content : Option LedState}
    (stored : (operation.run lamps board led).1 = .stored (.error error) content) :
    operation = .getStateInto content := by
  obtain ⟨binding, hardware⟩ := led
  cases operation with
  | getStateInto place =>
      cases place with
      | none => cases stored; rfl
      | some kept =>
          cases binding with
          | none => cases stored; rfl
          | some descriptor => cases stored
  | _ => cases stored

theorem binding_runAll (operations : List HandleOp) (led : Led σ) :
    (runAll lamps board operations led).2.binding = rebindAll board led.binding operations := by
  induction operations generalizing led with
  | nil => rfl
  | cons operation rest ih =>
      change (runAll lamps board rest (operation.run lamps board led).2).2.binding = _
      rw [ih, binding_run]
      rfl

theorem length_runAll (operations : List HandleOp) (led : Led σ) :
    (runAll lamps board operations led).1.length = operations.length := by
  induction operations generalizing led with
  | nil => rfl
  | cons operation rest ih => exact congrArg Nat.succ (ih _)

/-- The answer to an operation stands where the operation stands. -/
theorem getElem?_runAll (before : List HandleOp) (operation : HandleOp) (rest : List HandleOp)
    (led : Led σ) :
    (runAll lamps board (before ++ operation :: rest) led).1[before.length]? =
      some (operation.run lamps board (runAll lamps board before led).2).1 := by
  have past : (runAll lamps board before led).1.length ≤ before.length :=
    Nat.le_of_eq (length_runAll lamps board before led)
  rw [runAll_append, List.getElem?_append_right past, length_runAll, Nat.sub_self]
  rfl

end HandleOp

/-! ## The operations on handles that a step runs -/

/-- The operations that a step runs on one handle. -/
def Op.calls : Op → List HandleOp
  | .borrow operations => operations
  | .onHandle _ operation => [operation]
  | _ => []

/-- The binding that the handle of these calls begins with, if there is such a handle. -/
def Op.callee? (handles : List Handle) : Op → Option (Option Descriptor)
  | .borrow _ => some none
  | .onHandle number _ => Handle.bindingAt? handles number
  | _ => none

/-- The answers to the calls of a step. -/
def Answer.calls : Answer → List HandleAnswer
  | .borrowed answers => answers
  | .handled answer => [answer]
  | _ => []

/-- The calls of a step run one after another on the handle that they are for. -/
theorem Session.step_calls (kind : Kind) (board : Board) {operation : Op} {session : Session}
    {binding : Option Descriptor} (callee : operation.callee? session.handles = some binding) :
    (step kind board session operation).1.calls =
        (HandleOp.runAll kind.leds board operation.calls ⟨binding, session.bench⟩).1 ∧
      (step kind board session operation).2.bench =
        (HandleOp.runAll kind.leds board operation.calls ⟨binding, session.bench⟩).2.hardware := by
  cases operation with
  | borrow operations =>
      cases callee
      exact ⟨rfl, rfl⟩
  | onHandle number operation =>
      rw [step_onHandle_of_some callee]
      exact ⟨rfl, rfl⟩
  | _ => cases callee

/-! ## The table of handles -/

/-- A handle after an operation on it. A handle that was given up stays so. -/
def Handle.after (board : Board) (operation : HandleOp) : Handle → Handle
  | live binding => live (operation.rebind board binding)
  | gone => gone

/-- The table of handles after an operation. -/
def Op.handlesAfter (board : Board) (handles : List Handle) : Op → List Handle
  | .new => handles ++ [.live none]
  | .release number _ => handles.modify number fun _ => .gone
  | .onHandle number operation => handles.modify number (Handle.after board operation)
  | _ => handles

/-- A change to handles that leaves those given up alone is none where no handle is live. -/
theorem Handle.modify_of_none {handles : List Handle} {number : Nat}
    (missing : bindingAt? handles number = none) {change : Handle → Handle}
    (stays : change gone = gone) : handles.modify number change = handles := by
  apply List.ext_getElem?
  intro place
  by_cases same : number = place
  · subst same
    rw [List.getElem?_modify_eq]
    unfold bindingAt? at missing
    cases found : handles[number]? with
    | none => rfl
    | some handle =>
        cases handle with
        | gone => exact congrArg some stays
        | live binding => rw [found] at missing; cases missing
  · exact List.getElem?_modify_ne change handles same

/-- To put back what a change makes of a handle is to make the change. -/
theorem Handle.set_eq_modify {handles : List Handle} {number : Nat} {handle : Handle}
    (found : handles[number]? = some handle) (change : Handle → Handle) :
    handles.set number (change handle) = handles.modify number change := by
  apply List.ext_getElem?
  intro place
  by_cases same : number = place
  · subst same
    rw [List.getElem?_modify_eq, List.getElem?_set_self', found]
    rfl
  · rw [List.getElem?_modify_ne change handles same, List.getElem?_set_ne same]

/-- The table of handles changes in the same way on all hardware. -/
theorem Session.handles_step (kind : Kind) (board : Board) (session : Session) (operation : Op) :
    (step kind board session operation).2.handles =
      operation.handlesAfter board session.handles := by
  cases operation with
  | pinWrite number mask level => rw [step, handles_onPins]; rfl
  | pinToggle number mask => rw [step, handles_onPins]; rfl
  | pinRead number mask => rw [step, handles_onPins]; rfl
  | release number target =>
      cases found : Handle.bindingAt? session.handles number with
      | none =>
          rw [step_release_of_none found]
          exact (Handle.modify_of_none found rfl).symm
      | some binding =>
          rw [step_release_of_some found]
          exact Handle.set_eq_modify (Handle.bindingAt?_eq_some_iff.mp found) fun _ => .gone
  | onHandle number operation =>
      cases found : Handle.bindingAt? session.handles number with
      | none =>
          rw [step_onHandle_of_none found]
          exact (Handle.modify_of_none found rfl).symm
      | some binding =>
          rw [step_onHandle_of_some found, HandleOp.binding_run]
          exact Handle.set_eq_modify (Handle.bindingAt?_eq_some_iff.mp found)
            (Handle.after board operation)
  | _ => rfl

/-- The table of handles after operations, one after another. -/
def Op.handlesAfterAll (board : Board) (handles : List Handle) (operations : List Op) :
    List Handle :=
  operations.foldl (handlesAfter board) handles

/-- The handles of a session are those that its operations alone account for. -/
theorem Session.handles_after (kind : Kind) (board : Board) (session : Session)
    (operations : List Op) :
    (after kind board session operations).handles =
      Op.handlesAfterAll board session.handles operations := by
  induction operations generalizing session with
  | nil => rfl
  | cons operation rest ih =>
      rw [after_cons, ih]
      exact congrArg (fun handles => Op.handlesAfterAll board handles rest)
        (handles_step kind board _ operation)

/-! ## The fate of one handle -/

/-- The descriptor that an operation binds the handle with a number to, if it does. -/
def Op.boundTo? (board : Board) (number : Nat) : Op → Option Descriptor
  | .onHandle place (.bind target) => if place = number then target.descriptor board else none
  | _ => none

/-- The operation gives up the handle with a number. -/
def Op.releases (number : Nat) : Op → Bool
  | .release place _ => place = number
  | _ => false

/-- What an operation makes of the handle with a number. -/
def Handle.undergo (board : Board) (number : Nat) (handle : Handle) (operation : Op) : Handle :=
  if operation.releases number then gone
  else
    match handle with
    | gone => gone
    | live binding => live ((operation.boundTo? board number).or binding)

theorem Op.getElem?_handlesAfter (board : Board) {handles : List Handle} {number : Nat}
    {handle : Handle} (found : handles[number]? = some handle) (operation : Op) :
    (operation.handlesAfter board handles)[number]? =
      some (handle.undergo board number operation) := by
  have kept : handle.undergo board number .supportedSlots = handle := by cases handle <;> rfl
  cases operation with
  | new =>
      change (handles ++ [.live none])[number]? = some (handle.undergo board number .supportedSlots)
      rw [kept, ← found]
      exact List.getElem?_append_left (List.getElem?_eq_some_iff.mp found).1
  | release place target =>
      change (handles.modify place fun _ => .gone)[number]? = _
      rw [List.getElem?_modify, found]
      by_cases same : place = number
      · simp [same, Handle.undergo, releases]
      · cases handle <;> simp [same, Handle.undergo, releases, boundTo?]
  | onHandle place operation =>
      change (handles.modify place (Handle.after board operation))[number]? = _
      rw [List.getElem?_modify, found]
      cases handle with
      | gone => by_cases same : place = number <;> simp [same, Handle.undergo, Handle.after]
      | live binding =>
          by_cases same : place = number
          · cases operation <;>
              simp [same, Handle.undergo, Handle.after, releases, boundTo?, HandleOp.rebind]
          · cases operation <;> simp [same, Handle.undergo, releases, boundTo?]
  | _ => exact found.trans (congrArg some kept.symm)

/-- What has become of the handle with a number after the operations since it was made. -/
def Handle.fate (board : Board) (number : Nat) (since : List Op) : Handle :=
  if since.any (·.releases number) then gone
  else live (since.filterMap (·.boundTo? board number)).getLast?

/-- A handle undergoes the operations of a session one after another. -/
theorem Op.getElem?_handlesAfterAll (board : Board) {handles : List Handle} {number : Nat}
    {handle : Handle} (found : handles[number]? = some handle) (operations : List Op) :
    (handlesAfterAll board handles operations)[number]? =
      some (operations.foldl (Handle.undergo board number) handle) := by
  induction operations generalizing handles handle with
  | nil => exact found
  | cons operation rest ih => exact ih (getElem?_handlesAfter board found operation)

theorem Handle.foldl_undergo_gone (board : Board) (number : Nat) (operations : List Op) :
    operations.foldl (undergo board number) gone = gone := by
  induction operations with
  | nil => rfl
  | cons operation rest ih =>
      have still : gone.undergo board number operation = gone := by simp [undergo]
      rw [List.foldl_cons, still, ih]

/-- A live handle has the descriptor that it was bound to last, until it is given up. -/
theorem Handle.foldl_undergo_live (board : Board) (number : Nat) (binding : Option Descriptor)
    (operations : List Op) :
    operations.foldl (undergo board number) (live binding) =
      if operations.any (·.releases number) then gone
      else live ((operations.filterMap (·.boundTo? board number)).getLast?.or binding) := by
  induction operations generalizing binding with
  | nil => rfl
  | cons operation rest ih =>
      rw [List.foldl_cons, List.any_cons]
      cases given : operation.releases number with
      | true =>
          have now : (live binding).undergo board number operation = gone := by
            simp [undergo, given]
          rw [now, foldl_undergo_gone]
          rfl
      | false =>
          have now : (live binding).undergo board number operation =
              live ((operation.boundTo? board number).or binding) := by
            simp [undergo, given]
          rw [now, ih, Bool.false_or]
          cases bound : operation.boundTo? board number with
          | none => simp [bound]
          | some descriptor => simp [bound, List.getLast?_cons]

theorem Handle.foldl_undergo_new (board : Board) (number : Nat) (since : List Op) :
    since.foldl (undergo board number) (live none) = fate board number since := by
  rw [foldl_undergo_live, fate, Option.or_none]

/-- Each handle that was made has a place in the table. -/
theorem Op.length_handlesAfterAll (board : Board) (handles : List Handle) (operations : List Op) :
    (handlesAfterAll board handles operations).length =
      handles.length + operations.count .new := by
  induction operations generalizing handles with
  | nil => rfl
  | cons operation rest ih =>
      change (handlesAfterAll board (operation.handlesAfter board handles) rest).length = _
      rw [ih]
      cases operation with
      | new =>
          simp only [handlesAfter, List.length_append, List.length_singleton, List.count_cons_self]
          omega
      | _ => simp [handlesAfter]

/-! ## Refused operations -/

/-- The operation was refused, or there was no handle or no pin for it. -/
def Answer.isRefusal : Answer → Bool
  | .noHandle | .noPins => true
  | .handled answer => answer.error?.isSome
  | _ => false

/-- The handle that an operation uses. -/
def Op.handle? : Op → Option Nat
  | .release number _ | .onHandle number _ => some number
  | _ => none

namespace Session

theorem onPins_of_isRefusal {kind : Kind} {session : Session} {number : UInt8}
    {access : PinDriver Bench → Bank → Bench → Answer × Bench}
    (answers : ∀ driver bank bench, (access driver bank bench).1.isRefusal = false)
    (refused : (session.onPins kind number access).1.isRefusal = true) :
    (session.onPins kind number access).2 = session := by
  cases pins : kind.pins? with
  | none => rw [onPins_of_none (.inl pins)]
  | some driver =>
      cases known : Bank.ofNumber? number with
      | none => rw [onPins_of_none (.inr known)]
      | some bank =>
          rw [onPins_of_some pins known] at refused
          cases (answers driver bank session.bench).symm.trans refused

/-- A refused operation leaves the session as it was. -/
theorem step_of_isRefusal (kind : Kind) (board : Board) {session : Session} {operation : Op}
    (refused : (step kind board session operation).1.isRefusal = true) :
    (step kind board session operation).2 = session := by
  cases operation with
  | pinWrite number mask level =>
      rw [step] at refused ⊢
      exact onPins_of_isRefusal (fun _ _ _ => rfl) refused
  | pinToggle number mask =>
      rw [step] at refused ⊢
      exact onPins_of_isRefusal (fun _ _ _ => rfl) refused
  | pinRead number mask =>
      rw [step] at refused ⊢
      exact onPins_of_isRefusal (fun _ _ _ => rfl) refused
  | release number target =>
      cases found : Handle.bindingAt? session.handles number with
      | none => rw [step_release_of_none found]
      | some binding => rw [step_release_of_some found] at refused; cases refused
  | onHandle number operation =>
      cases found : Handle.bindingAt? session.handles number with
      | none => rw [step_onHandle_of_none found]
      | some binding =>
          rw [step_onHandle_of_some found] at refused ⊢
          have kept := HandleOp.run_of_error kind.leds board (Option.isSome_iff_ne_none.mp refused)
          rw [kept, Handle.set_live_self found]
  | _ => cases refused

/-- An operation answers that there is no handle exactly when its handle is not live. -/
theorem answer_eq_noHandle_iff (kind : Kind) (board : Board) {session : Session} {operation : Op}
    {number : Nat} (uses : operation.handle? = some number) :
    (step kind board session operation).1 = .noHandle ↔
      Handle.bindingAt? session.handles number = none := by
  cases operation with
  | release place target =>
      cases uses
      cases found : Handle.bindingAt? session.handles number with
      | none => simp [step_release_of_none found]
      | some binding => simp [step_release_of_some found]
  | onHandle place operation =>
      cases uses
      cases found : Handle.bindingAt? session.handles number with
      | none => simp [step_onHandle_of_none found]
      | some binding => simp [step_onHandle_of_some found]
  | _ => cases uses

/-! ## The law of handles -/

/--
What holds of the handles when an operation runs after others on a fresh bench and is seen to do
what it does.
-/
structure HandleLaw (kind : Kind) (board : Board) (before : List Op) (operation : Op)
    (seen : Observation) : Prop where
  /-- There is one handle for each that was made, and a new one gets the next number. -/
  made : seen.handles.length = (before ++ [operation]).count .new
  created : operation = .new → seen.answer = .created (before.count .new)
  /-- A handle is what the operations on it since it was made have made of it. -/
  fate : ∀ earlier since, before ++ [operation] = earlier ++ .new :: since →
    seen.handles[earlier.count .new]? = some (Handle.fate board (earlier.count .new) since)
  /-- Whatever neither binds nor gives up a handle leaves it as it was. -/
  kept : ∀ number < before.count .new, operation.boundTo? board number = none →
    operation.releases number = false →
      seen.handles[number]? = (after kind board fresh before).handles[number]?
  /-- Only a live handle can be used. -/
  noHandle : ∀ number, operation.handle? = some number →
    (seen.answer = .noHandle ↔
      Handle.bindingAt? (after kind board fresh before).handles number = none)
  /-- A call is refused for the reasons that its arguments and the handle's binding give. -/
  refusal : ∀ binding, operation.callee? (after kind board fresh before).handles = some binding →
    ∀ earlier call later, operation.calls = earlier ++ call :: later →
      ∃ answer, seen.answer.calls[earlier.length]? = some answer ∧
        answer.error? = call.refusal? board (HandleOp.rebindAll board binding earlier) ∧
        ∀ error content, answer = .stored (.error error) content → call = .getStateInto content
  /-- A refused call leaves its handle and the whole bench as they were. -/
  callAtomic : ∀ binding, operation.callee? (after kind board fresh before).handles = some binding →
    ∀ earlier call later, operation.calls = earlier ++ call :: later →
      call.refusal? board (HandleOp.rebindAll board binding earlier) ≠ none →
        ∀ bench, (HandleOp.runAll kind.leds board (earlier ++ [call]) ⟨binding, bench⟩).2 =
          (HandleOp.runAll kind.leds board earlier ⟨binding, bench⟩).2
  /-- A refused operation records nothing and leaves the bench and all handles as they were. -/
  atomic : seen.answer.isRefusal = true →
    seen.trace = #[] ∧ seen.output = (after kind board fresh before).bench.output ∧
      seen.handles = (after kind board fresh before).handles ∧
      (after kind board fresh (before ++ [operation])).bench =
        (after kind board fresh before).bench.quiet

/-- A handle that was made and not given up since is there, with its place in the table. -/
theorem getElem?_handlesAfterAll_new (board : Board) (earlier since : List Op) :
    (Op.handlesAfterAll board [] (earlier ++ .new :: since))[earlier.count .new]? =
      some (Handle.fate board (earlier.count .new) since) := by
  have count : (Op.handlesAfterAll board [] earlier).length = earlier.count .new := by
    rw [Op.length_handlesAfterAll, List.length_nil, Nat.zero_add]
  have made : (Op.handlesAfterAll board [] earlier ++ [.live none])[earlier.count .new]? =
      some (.live none) := by
    rw [← count, List.getElem?_concat_length]
  have split : Op.handlesAfterAll board [] (earlier ++ .new :: since) =
      Op.handlesAfterAll board (Op.handlesAfterAll board [] earlier ++ [.live none]) since := by
    rw [Op.handlesAfterAll, List.foldl_append]
    rfl
  rw [split, Op.getElem?_handlesAfterAll board made, Handle.foldl_undergo_new]

/-- What neither binds nor gives up a handle that is there leaves it as it was. -/
theorem getElem?_handlesAfter_of_kept (board : Board) {handles : List Handle} {number : Nat}
    (there : number < handles.length) {operation : Op}
    (unbound : operation.boundTo? board number = none)
    (unreleased : operation.releases number = false) :
    (operation.handlesAfter board handles)[number]? = handles[number]? := by
  have found := List.getElem?_eq_getElem there
  rw [Op.getElem?_handlesAfter board found, found]
  cases handles[number] <;> simp [Handle.undergo, unbound, unreleased]

/-- The calls of an operation that follows others answer as they do on the quiet bench. -/
theorem calls_seen (kind : Kind) (board : Board) {before : List Op} {operation : Op}
    {binding : Option Descriptor}
    (callee : operation.callee? (after kind board fresh before).handles = some binding)
    {earlier : List HandleOp} {call : HandleOp} {later : List HandleOp}
    (calls : operation.calls = earlier ++ call :: later) :
    (seen kind board before operation).answer.calls[earlier.length]? =
      some (call.run kind.leds board (HandleOp.runAll kind.leds board earlier
        ⟨binding, (after kind board fresh before).bench.quiet⟩).2).1 := by
  have held : operation.callee? (after kind board fresh before).quiet.handles = some binding :=
    callee
  obtain ⟨answers, _⟩ := step_calls kind board held
  rw [calls] at answers
  exact (congrArg (·[earlier.length]?) answers).trans
    (HandleOp.getElem?_runAll kind.leds board earlier call later _)

/-- In every session on every hardware the handles keep their law at every operation. -/
theorem handle_law (kind : Kind) (board : Board) (before : List Op) (operation : Op)
    (rest : List Op) :
    ∃ seen, (run kind board (before ++ operation :: rest))[before.length]? = some seen ∧
      HandleLaw kind board before operation seen := by
  have handles : (after kind board fresh before).handles = Op.handlesAfterAll board [] before :=
    handles_after kind board fresh before
  have count : (after kind board fresh before).handles.length = before.count .new := by
    rw [handles, Op.length_handlesAfterAll, List.length_nil, Nat.zero_add]
  have table : (seen kind board before operation).handles =
      Op.handlesAfterAll board [] (before ++ [operation]) := by
    rw [handles_seen, handles_after]
    rfl
  refine ⟨seen kind board before operation, getElem?_run kind board before operation rest, ?_⟩
  constructor
  case made => rw [table, Op.length_handlesAfterAll, List.length_nil, Nat.zero_add]
  case created =>
    rintro rfl
    exact congrArg Answer.created count
  case fate =>
    intro earlier since split
    rw [table, split, getElem?_handlesAfterAll_new]
  case kept =>
    intro number there unbound unreleased
    have stepped : (seen kind board before operation).handles =
        operation.handlesAfter board (after kind board fresh before).handles :=
      handles_step kind board _ operation
    rw [stepped, getElem?_handlesAfter_of_kept board (count ▸ there) unbound unreleased]
  case noHandle =>
    intro number uses
    exact answer_eq_noHandle_iff kind board uses
  case refusal =>
    intro binding callee earlier call later calls
    refine ⟨_, calls_seen kind board callee calls, ?_, ?_⟩
    · rw [HandleOp.error?_run, HandleOp.binding_runAll]
    · intro error content stored
      exact HandleOp.eq_getStateInto_of_stored_error kind.leds board stored
  case callAtomic =>
    intro binding callee earlier call later calls refused bench
    rw [HandleOp.runAll_append]
    apply HandleOp.run_of_error kind.leds board
    rwa [HandleOp.error?_run, HandleOp.binding_runAll]
  case atomic =>
    intro refused
    have same : (observe kind board (after kind board fresh before) operation).2 =
        (after kind board fresh before).quiet := step_of_isRefusal kind board refused
    refine ⟨congrArg (·.bench.trace) same, congrArg (·.bench.output) same,
      congrArg (·.handles) same, ?_⟩
    rw [after_append_singleton, same]
    rfl

end Session

end LedKit
