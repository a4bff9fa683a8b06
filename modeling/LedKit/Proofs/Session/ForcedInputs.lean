import LedKit.Proofs.Session.Calls

/-!
# Words forced on the input registers

A word that is forced on an input register decides what a read shows and nothing else. Two sessions
on the registers that differ in forced words alone drive every pin alike, refuse the same operations
for the same reasons and record the same, apart from what reads show.
-/

namespace LedKit

/-! ## What reads show -/

/-- The event without the word that an input register shows. -/
def Event.hideInput : Event → Event
  | .inputRead bank _ => .inputRead bank 0
  | event => event

/-- The answer without the state that was read. -/
def HandleAnswer.hideRead : HandleAnswer → HandleAnswer
  | .state (.ok _) => .state (.ok .off)
  | .stored (.ok ()) (some _) => .stored (.ok ()) (some .off)
  | answer => answer

/-- An answer to an operation without what the operation read. -/
def Op.hideRead : Op → Answer → Answer
  | .ledGet _, .flag _ => .flag false
  | .pinRead _ _, .level _ => .level .low
  | .onHandle _ _, .handled answer => .handled answer.hideRead
  | .borrow _, .borrowed answers => .borrowed (answers.map .hideRead)
  | _, answer => answer

/-- The operation without the word that it forces on an input register. -/
def Op.hidePull : Op → Op
  | .pull bank _ => .pull bank none
  | operation => operation

/-- Operations that differ in forced words at most are equal or pull the same bank. -/
theorem Op.eq_or_pull_of_hidePull {operation other : Op}
    (same : operation.hidePull = other.hidePull) :
    other = operation ∨ ∃ bank word another,
      operation = .pull bank word ∧ other = .pull bank another := by
  cases operation with
  | pull bank word =>
      cases other with
      | pull place another =>
          cases same
          exact .inr ⟨bank, word, another, rfl, rfl⟩
      | _ => cases same
  | _ =>
      cases other with
      | pull => cases same
      | _ => exact .inl same.symm

/-! ## Accesses -/

/-- Benches whose pins are driven alike and whose records look the same through a veil. -/
structure Bench.DrivenAlike (veil : Event → Event) (bench other : Bench) : Prop where
  output : bench.output = other.output
  trace : bench.trace.toList.map veil = other.trace.toList.map veil

/-- The call asks for an answer. -/
def LedCall.isRead : LedCall → Bool
  | get _ => true
  | _ => false

theorem LedHardware.length_reads_served {σ : Type} (lamps : LedHardware σ) (state : σ)
    (calls : List LedCall) :
    ((lamps.served state calls).filterMap Prod.snd).length = calls.countP LedCall.isRead := by
  induction calls generalizing state with
  | nil => rfl
  | cons call rest ih =>
      rw [served, List.countP_cons, ← ih (lamps.serve state call).2]
      cases call <;> rfl

/-- Apart from what is read, an operation answers the same to as many reads. -/
theorem HandleOp.hideRead_reply (board : Board) (binding : Option Descriptor)
    (operation : HandleOp) {reads others : List Bool} (same : reads.length = others.length) :
    (operation.reply board binding reads).hideRead =
      (operation.reply board binding others).hideRead := by
  have both : reads = [] ∧ others = [] ∨
      ∃ read rest other more, reads = read :: rest ∧ others = other :: more := by
    cases reads <;> cases others <;> simp_all
  rcases both with ⟨rfl, rfl⟩ | ⟨read, rest, other, more, rfl, rfl⟩
  · rfl
  · cases operation with
    | getStateInto place => cases place <;> rfl
    | _ => rfl

namespace Bench.DrivenAlike

variable {veil : Event → Event} {bench other : Bench}

theorem record_veiled (alike : DrivenAlike veil bench other) {event another : Event}
    (same : veil event = veil another) :
    DrivenAlike veil (bench.record event) (other.record another) where
  output := alike.output
  trace := by
    rw [trace_record, trace_record, List.map_append, List.map_append, alike.trace,
      List.map_singleton, List.map_singleton, same]

theorem record (alike : DrivenAlike veil bench other) (event : Event) :
    DrivenAlike veil (bench.record event) (other.record event) := alike.record_veiled rfl

theorem setOutput (alike : DrivenAlike veil bench other) (bank : Bank) (word : Word) :
    DrivenAlike veil (bench.setOutput bank word) (other.setOutput bank word) where
  output := congrArg (·.set bank word) alike.output
  trace := alike.trace

theorem command (alike : DrivenAlike veil bench other) (bank : Bank) (word : Word) :
    DrivenAlike veil (bench.command bank word) (other.command bank word) where
  output := congrArg (fun output : PerBank Word =>
    output.set bank (Register.obey (output.get bank) word)) alike.output
  trace := (alike.record (.commanded bank word)).trace

theorem write (alike : DrivenAlike veil bench other) (bank : Bank) (mask : Mask) (level : Level) :
    DrivenAlike veil (registers.write bank mask level bench)
      (registers.write bank mask level other) :=
  alike.command bank (Register.drive level mask)

/-- A toggle looks at the output register and never at the input register. -/
theorem toggle (alike : DrivenAlike veil bench other) (bank : Bank) (mask : Mask) :
    DrivenAlike veil (registers.toggle bank mask bench) (registers.toggle bank mask other) := by
  have held : bench.output.get bank = other.output.get bank := congrArg (·.get bank) alike.output
  change DrivenAlike veil ((bench.record (.outputRead bank (bench.output.get bank))).command bank _)
    ((other.record (.outputRead bank (other.output.get bank))).command bank _)
  rw [held]
  exact (alike.record _).command bank _

section Reads

variable (unseen : ∀ bank word another,
  veil (.inputRead bank word) = veil (.inputRead bank another))

include unseen

theorem read (alike : DrivenAlike veil bench other) (bank : Bank) (mask : Mask) :
    DrivenAlike veil (registers.read bank mask bench).2 (registers.read bank mask other).2 :=
  alike.record_veiled (unseen bank _ _)

theorem serve (alike : DrivenAlike veil bench other) (call : LedCall) :
    DrivenAlike veil (registers.leds.serve bench call).2 (registers.leds.serve other call).2 := by
  cases resolved : Descriptor.resolve call.descriptor with
  | none => rwa [PinDriver.serve_of_none resolved, PinDriver.serve_of_none resolved]
  | some place =>
      obtain ⟨bank, mask⟩ := place
      rw [PinDriver.serve_of_some resolved, PinDriver.serve_of_some resolved]
      cases call with
      | set descriptor lit => exact alike.write bank mask (.ofBool lit)
      | toggle descriptor => exact alike.toggle bank mask
      | get descriptor => exact alike.read unseen bank mask

theorem replay (alike : DrivenAlike veil bench other) (calls : List LedCall) :
    DrivenAlike veil (registers.leds.replay bench calls) (registers.leds.replay other calls) := by
  induction calls generalizing bench other with
  | nil => exact alike
  | cons call rest ih => exact ih (alike.serve unseen call)

/-- Operations on a handle leave the benches alike and answer the same apart from what is read. -/
theorem runAll (alike : DrivenAlike veil bench other) (board : Board) (binding : Option Descriptor)
    (operations : List HandleOp) :
    let run := HandleOp.runAll registers.leds board operations ⟨binding, bench⟩
    let another := HandleOp.runAll registers.leds board operations ⟨binding, other⟩
    run.1.map HandleAnswer.hideRead = another.1.map HandleAnswer.hideRead ∧
      DrivenAlike veil run.2.hardware another.2.hardware := by
  induction operations generalizing binding bench other with
  | nil => exact ⟨rfl, alike⟩
  | cons operation rest ih =>
      have reads : ((registers.leds.served bench (operation.ledCalls board binding)).filterMap
            Prod.snd).length =
          ((registers.leds.served other (operation.ledCalls board binding)).filterMap
            Prod.snd).length := by
        rw [LedHardware.length_reads_served, LedHardware.length_reads_served]
      have answer := operation.hideRead_reply board binding reads
      obtain ⟨answers, after⟩ := ih (alike.replay unseen (operation.ledCalls board binding))
        (operation.rebind board binding)
      simp only [HandleOp.runAll, HandleOp.run_eq, List.map_cons, answer, answers]
      exact ⟨trivial, after⟩

end Reads

end Bench.DrivenAlike

/-! ## Sessions -/

namespace Session

/-- A step has the same answer, apart from what is read, and drives the pins alike. -/
theorem step_hidePull {veil : Event → Event}
    (unseen : ∀ bank word another, veil (.inputRead bank word) = veil (.inputRead bank another))
    (board : Board) {operation other : Op} (same : operation.hidePull = other.hidePull)
    {session another : Session} (alike : Alike (Bench.DrivenAlike veil) session another) :
    operation.hideRead (step .registers board session operation).1 =
        other.hideRead (step .registers board another other).1 ∧
      Alike (Bench.DrivenAlike veil) (step .registers board session operation).2
        (step .registers board another other).2 := by
  obtain ⟨handles, bench⟩ := alike
  rcases Op.eq_or_pull_of_hidePull same with rfl | ⟨bank, word, shown, rfl, rfl⟩
  · cases other with
    | new =>
        refine ⟨?_, ?_, bench⟩
        · simp only [step, handles]
        · simp only [step, handles]
    | descriptor | supported | supportedSlots | script => exact ⟨rfl, handles, bench⟩
    | ledSet target lit =>
        exact ⟨rfl, handles, bench.serve unseen (.set (target.descriptor board) lit)⟩
    | ledToggle target =>
        exact ⟨rfl, handles, bench.serve unseen (.toggle (target.descriptor board))⟩
    | ledGet target =>
        exact ⟨rfl, handles, bench.serve unseen (.get (target.descriptor board))⟩
    | pinWrite number mask level =>
        cases known : Bank.ofNumber? number with
        | none =>
            rw [step_pinWrite_of_none (.inr known), step_pinWrite_of_none (.inr known)]
            exact ⟨rfl, handles, bench⟩
        | some bank =>
            rw [step_pinWrite_of_some rfl known, step_pinWrite_of_some rfl known]
            exact ⟨rfl, handles, bench.write bank mask level⟩
    | pinToggle number mask =>
        cases known : Bank.ofNumber? number with
        | none =>
            rw [step_pinToggle_of_none (.inr known), step_pinToggle_of_none (.inr known)]
            exact ⟨rfl, handles, bench⟩
        | some bank =>
            rw [step_pinToggle_of_some rfl known, step_pinToggle_of_some rfl known]
            exact ⟨rfl, handles, bench.toggle bank mask⟩
    | pinRead number mask =>
        cases known : Bank.ofNumber? number with
        | none =>
            rw [step_pinRead_of_none (.inr known), step_pinRead_of_none (.inr known)]
            exact ⟨rfl, handles, bench⟩
        | some bank =>
            rw [step_pinRead_of_some rfl known, step_pinRead_of_some rfl known]
            exact ⟨rfl, handles, bench.read unseen bank mask⟩
    | poke bank word => exact ⟨rfl, handles, bench.setOutput bank word⟩
    | pull bank word => exact ⟨rfl, handles, bench.output, bench.trace⟩
    | borrow operations =>
        obtain ⟨answers, after⟩ := bench.runAll unseen board none operations
        exact ⟨congrArg Answer.borrowed answers, handles, after⟩
    | release number target =>
        cases found : Handle.bindingAt? another.handles number with
        | none =>
            rw [step_release_of_none (handles ▸ found), step_release_of_none found]
            exact ⟨rfl, handles, bench⟩
        | some binding =>
            rw [step_release_of_some (handles ▸ found), step_release_of_some found, handles]
            exact ⟨rfl, rfl, bench.serve unseen (.toggle (target.descriptor board))⟩
    | onHandle number operation =>
        cases found : Handle.bindingAt? another.handles number with
        | none =>
            rw [step_onHandle_of_none (handles ▸ found), step_onHandle_of_none found]
            exact ⟨rfl, handles, bench⟩
        | some binding =>
            obtain ⟨answers, after⟩ := bench.runAll unseen board binding [operation]
            have answer := (List.cons.inj answers).1
            rw [step_onHandle_of_some (handles ▸ found), step_onHandle_of_some found, handles,
              HandleOp.binding_run, HandleOp.binding_run]
            exact ⟨congrArg Answer.handled answer, rfl, after⟩
  · exact ⟨rfl, handles, bench.output, bench.trace⟩

end Session

/-- Observations of two operations that differ at most in what reads show. -/
structure Observation.AlikeButReads (operation other : Op) (seen another : Observation) : Prop where
  output : seen.output = another.output
  handles : seen.handles = another.handles
  answer : operation.hideRead seen.answer = other.hideRead another.answer
  /-- Calls are refused alike. -/
  errors : seen.answer.calls.map HandleAnswer.error? = another.answer.calls.map HandleAnswer.error?
  trace : seen.trace.toList.map Event.hideInput = another.trace.toList.map Event.hideInput

theorem HandleAnswer.error?_hideRead (answer : HandleAnswer) :
    answer.hideRead.error? = answer.error? := by
  cases answer with
  | state outcome => cases outcome <;> rfl
  | stored outcome content => cases outcome <;> cases content <;> rfl
  | _ => rfl

/-- To hide what was read hides no error. -/
theorem Op.map_error?_hideRead (operation : Op) (answer : Answer) :
    (operation.hideRead answer).calls.map HandleAnswer.error? =
      answer.calls.map HandleAnswer.error? := by
  cases operation <;> cases answer <;>
    simp [Op.hideRead, Answer.calls, HandleAnswer.error?_hideRead, Function.comp_def]

namespace Session

theorem observe_hidePull (board : Board) {operation other : Op}
    (same : operation.hidePull = other.hidePull) {session another : Session}
    (alike : Alike (Bench.DrivenAlike Event.hideInput) session another) :
    Observation.AlikeButReads operation other (observe .registers board session operation).1
        (observe .registers board another other).1 ∧
      Alike (Bench.DrivenAlike Event.hideInput) (observe .registers board session operation).2
        (observe .registers board another other).2 := by
  have quiet : Alike (Bench.DrivenAlike Event.hideInput) session.quiet another.quiet :=
    ⟨alike.handles, alike.bench.output, rfl⟩
  obtain ⟨answer, after⟩ := step_hidePull (fun _ _ _ => rfl) board same quiet
  have errors := congrArg (·.calls.map HandleAnswer.error?) answer
  simp only [Op.map_error?_hideRead] at errors
  exact ⟨⟨after.bench.output, after.handles, answer, errors, after.bench.trace⟩, after⟩

/-- Sessions that differ in forced words alone look alike at every operation. -/
theorem runFrom_hidePull (board : Board) {operations others : List Op}
    (same : operations.map Op.hidePull = others.map Op.hidePull) {session another : Session}
    (alike : Alike (Bench.DrivenAlike Event.hideInput) session another) {place : Nat}
    {operation : Op} (found : operations[place]? = some operation) :
    ∃ other seen shown, others[place]? = some other ∧
      (runFrom .registers board session operations)[place]? = some seen ∧
      (runFrom .registers board another others)[place]? = some shown ∧
      Observation.AlikeButReads operation other seen shown := by
  induction operations generalizing others session another place with
  | nil => cases found
  | cons first rest ih =>
      cases others with
      | nil => cases same
      | cons other more =>
          obtain ⟨sameFirst, sameRest⟩ := List.cons.inj same
          obtain ⟨seen, after⟩ := observe_hidePull board sameFirst alike
          cases place with
          | zero =>
              obtain rfl := Option.some.inj found
              exact ⟨other, _, _, rfl, rfl, rfl, seen⟩
          | succ place => exact ih sameRest after found

end Session

end LedKit
