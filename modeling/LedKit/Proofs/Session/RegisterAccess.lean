import LedKit.Proofs.Session.Run

/-!
# Sessions on registers and on recorded pins

The registers and the recorder of pin accesses answer every session alike and leave the same words
in the output registers, as long as nothing decides what a read shows. What the registers record is
what the recorder records with each pin access spelled out as register accesses. The high halves of
the output registers hold no pins: no pin access changes them and no answer depends on them.
-/

namespace LedKit

namespace Event

/-- The register accesses that a pin access stands for, given what the output registers hold. -/
def accesses (output : PerBank Word) : Event → List Event
  | .pinsWritten bank mask level => [.commanded bank (Register.drive level mask)]
  | .pinsToggled bank mask =>
      [.outputRead bank (output.get bank),
        .commanded bank (Register.invert (output.get bank) mask)]
  | .pinsRead bank _ => [.inputRead bank (output.get bank)]
  | event => [event]

/-- What the output registers hold after register accesses. -/
def replay (output : PerBank Word) : List Event → PerBank Word
  | [] => output
  | .commanded bank command :: rest =>
      replay (output.set bank (Register.obey (output.get bank) command)) rest
  | _ :: rest => replay output rest

/-- Each pin access of a trace as register accesses, from what the output registers hold first. -/
def accessesFrom (output : PerBank Word) : List Event → List Event
  | [] => []
  | event :: rest =>
      event.accesses output ++ accessesFrom (replay output (event.accesses output)) rest

theorem replay_append (output : PerBank Word) (first second : List Event) :
    replay output (first ++ second) = replay (replay output first) second := by
  induction first generalizing output with
  | nil => rfl
  | cons event rest ih =>
      cases event with
      | commanded bank command => exact ih _
      | _ => exact ih _

theorem accessesFrom_append_singleton (output : PerBank Word) (events : List Event)
    (event : Event) :
    accessesFrom output (events ++ [event]) =
      accessesFrom output events ++
        event.accesses (replay output (accessesFrom output events)) := by
  induction events generalizing output with
  | nil => simp [accessesFrom, replay]
  | cons first rest ih => simp [accessesFrom, replay_append, ih]

end Event

/--
A bench on registers that follows a bench on recorded pins: the output registers hold the same, no
read is decided beforehand, and the first recorded what the second recorded, spelled out.
-/
structure Bench.Follows (start : PerBank Word) (bench pins : Bench) : Prop where
  output : bench.output = pins.output
  unforced : bench.forced = .fill none
  unscripted : pins.scripted = none
  trace : bench.trace.toList = Event.accessesFrom start pins.trace.toList

/-- A bench that follows another, where what was recorded accounts for what the registers hold. -/
structure Bench.Mirrors (start : PerBank Word) (bench pins : Bench) : Prop
    extends Bench.Follows start bench pins where
  replayed : Event.replay start bench.trace.toList = bench.output

/-- With nothing recorded yet, a bench that follows another mirrors it. -/
theorem Bench.Follows.quiet {start : PerBank Word} {bench pins : Bench}
    (follows : Bench.Follows start bench pins) :
    Bench.Mirrors bench.output bench.quiet pins.quiet where
  output := follows.output
  unforced := follows.unforced
  unscripted := follows.unscripted
  trace := rfl
  replayed := rfl

namespace Bench.Mirrors

variable {start : PerBank Word} {bench pins : Bench}

/-- One pin access more on the one side, spelled out on the other. -/
theorem extend (mirrors : Mirrors start bench pins) {after other : Bench} (event : Event)
    (accessed : after.trace.toList = bench.trace.toList ++ event.accesses bench.output)
    (recorded : other.trace.toList = pins.trace.toList ++ [event])
    (output : after.output = other.output)
    (replayed : Event.replay bench.output (event.accesses bench.output) = after.output)
    (unforced : after.forced = bench.forced) (unscripted : other.scripted = pins.scripted) :
    Mirrors start after other where
  output := output
  unforced := unforced.trans mirrors.unforced
  unscripted := unscripted.trans mirrors.unscripted
  trace := by
    rw [accessed, recorded, Event.accessesFrom_append_singleton, ← mirrors.trace, mirrors.replayed]
  replayed := by rw [accessed, Event.replay_append, mirrors.replayed, replayed]

/-- Without a forced word the input register shows the output register. -/
theorem input (mirrors : Mirrors start bench pins) (bank : Bank) :
    bench.input bank = bench.output.get bank := by
  rw [Bench.input, mirrors.unforced, PerBank.get_fill, Option.getD_none]

end Bench.Mirrors

/-- The registers agree with the recorder, access by access. -/
theorem Bench.registers_agree_recorder (start : PerBank Word) :
    PinDriver.Agree Bench.registers Bench.recorder (Bench.Mirrors start) where
  write {bench pins} mirrors bank mask level := by
    have output : (registers.write bank mask level bench).output =
        (recorder.write bank mask level pins).output := by
      rw [output_recorder_write, output_registers_write, output_registers_write, mirrors.output]
    exact mirrors.extend (.pinsWritten bank mask level) (trace_command _ _ _)
      (trace_record pins (.pinsWritten bank mask level)) output rfl rfl rfl
  toggle {bench pins} mirrors bank mask := by
    have output : (registers.toggle bank mask bench).output =
        (recorder.toggle bank mask pins).output := by
      rw [output_recorder_toggle, output_registers_toggle, output_registers_toggle, mirrors.output]
    have accessed : (registers.toggle bank mask bench).trace.toList =
        bench.trace.toList ++ Event.accesses bench.output (.pinsToggled bank mask) := by
      simp [registers, Event.accesses]
    exact mirrors.extend (.pinsToggled bank mask) accessed
      (trace_record pins (.pinsToggled bank mask)) output rfl rfl rfl
  read {bench pins} mirrors bank mask := by
    have accessed : (registers.read bank mask bench).2.trace.toList =
        bench.trace.toList ++ Event.accesses bench.output (.pinsRead bank mask) := by
      simp [registers, Event.accesses, mirrors.input]
    rw [recorder_read_of_unscripted mirrors.unscripted]
    refine ⟨?_, mirrors.extend (.pinsRead bank mask) accessed
      (trace_record pins (.pinsRead bank mask)) mirrors.output rfl rfl rfl⟩
    change Register.levelOf (bench.input bank) mask = _
    rw [mirrors.input, mirrors.output]

/-- The operations that decide what a later read shows, whatever the pins do. -/
def Op.decidesReads : Op → Bool
  | .script _ | .pull _ _ => true
  | _ => false

/-- The observation of a recorder with its pin accesses spelled out as register accesses. -/
def Observation.onRegisters (start : PerBank Word) (seen : Observation) : Observation :=
  { seen with trace := (Event.accessesFrom start seen.trace.toList).toArray }

namespace Session

/-- Observations of a recorder, each spelled out from the words that the one before it left. -/
def onRegisters (start : PerBank Word) : List Observation → List Observation
  | [] => []
  | seen :: rest => seen.onRegisters start :: onRegisters seen.output rest

/-- A step on the registers has the answer of the step on the recorder and follows it. -/
theorem step_mirrors (board : Board) {operation : Op} (plain : operation.decidesReads = false)
    {start : PerBank Word} {session other : Session}
    (alike : Alike (Bench.Mirrors start) session other) :
    (step .registers board session operation).1 = (step .recorder board other operation).1 ∧
      Alike (Bench.Follows start) (step .registers board session operation).2
        (step .recorder board other operation).2 := by
  by_cases arranged : operation.arranges = true
  · -- Only a poke is left here; it records nothing and the two registers take the same word.
    cases operation with
    | script high => cases plain
    | pull bank word => cases plain
    | poke bank word =>
        exact ⟨rfl, alike.handles, congrArg (·.set bank word) alike.bench.output,
          alike.bench.unforced, alike.bench.unscripted, alike.bench.trace⟩
    | _ => cases arranged
  · obtain ⟨answer, after⟩ := step_alike Kind.pins?_registers Kind.pins?_recorder
      (Bench.registers_agree_recorder start) board (by simpa using arranged) alike
    exact ⟨answer, after.handles, after.bench.toFollows⟩

/-- What is seen of an operation on the registers is what is seen on the recorder, spelled out. -/
theorem observe_mirrors (board : Board) {operation : Op} (plain : operation.decidesReads = false)
    {start : PerBank Word} {session other : Session}
    (alike : Alike (Bench.Follows start) session other) :
    (observe .registers board session operation).1 =
        (observe .recorder board other operation).1.onRegisters session.bench.output ∧
      Alike (Bench.Follows session.bench.output) (observe .registers board session operation).2
        (observe .recorder board other operation).2 := by
  have quiet : Alike (Bench.Mirrors session.bench.output) session.quiet other.quiet :=
    ⟨alike.handles, alike.bench.quiet⟩
  obtain ⟨answer, after⟩ := step_mirrors board plain quiet
  refine ⟨?_, after⟩
  simp only [observe_eq, Observation.onRegisters, Observation.mk.injEq]
  refine ⟨answer, ?_, after.bench.output, after.handles⟩
  rw [← after.bench.trace, Array.toArray_toList]

/-- A session on the registers is the session on the recorder, spelled out. -/
theorem runFrom_registers (board : Board) (operations : List Op)
    (plain : ∀ operation ∈ operations, operation.decidesReads = false)
    {start : PerBank Word} {session other : Session}
    (alike : Alike (Bench.Follows start) session other) :
    runFrom .registers board session operations =
      onRegisters session.bench.output (runFrom .recorder board other operations) := by
  induction operations generalizing start session other with
  | nil => rfl
  | cons operation rest ih =>
      obtain ⟨first, others⟩ := List.forall_mem_cons.mp plain
      obtain ⟨seen, after⟩ := observe_mirrors board first alike
      have output : (observe .registers board session operation).2.bench.output =
          (observe .recorder board other operation).1.output := after.bench.output
      rw [runFrom_cons, runFrom_cons, onRegisters, seen, ih others after, output]

end Session

/-! ## The high halves of the output registers -/

/-- Pin accesses leave the high halves of the output registers as they were. -/
theorem Bench.registers_keep_high (start : PerBank Word) :
    PinDriver.Keep Bench.registers fun bench => ∀ bank index, 16 ≤ index →
      (bench.output.get bank).getLsbD index = (start.get bank).getLsbD index where
  write {bench} kept bank mask level other index high := by
    rw [output_registers_write, PerBank.get_set]
    split
    · next same => rw [Register.getLsbD_obey_of_le _ _ high, ← same, kept other index high]
    · exact kept other index high
  toggle {bench} kept bank mask other index high := by
    rw [output_registers_toggle, PerBank.get_set]
    split
    · next same => rw [Register.getLsbD_obey_of_le _ _ high, ← same, kept other index high]
    · exact kept other index high
  read kept _ _ := kept

/-- The same pins: output registers with equal low halves, and the same forced words. -/
structure Bench.SamePins (bench other : Bench) : Prop where
  output : ∀ bank index, index < 16 →
    (bench.output.get bank).getLsbD index = (other.output.get bank).getLsbD index
  forced : bench.forced = other.forced

/-- The pins that the input registers show are the same as well. -/
theorem Bench.SamePins.input {bench other : Bench} (same : Bench.SamePins bench other)
    (bank : Bank) {index : Nat} (low : index < 16) :
    (bench.input bank).getLsbD index = (other.input bank).getLsbD index := by
  rw [Bench.input, Bench.input, same.forced]
  cases other.forced.get bank with
  | none => exact same.output bank index low
  | some word => rfl

/-- Accesses to the same pins leave the same pins and read the same. -/
theorem Bench.registers_agree_samePins :
    PinDriver.Agree Bench.registers Bench.registers Bench.SamePins where
  write {bench other} same bank mask level := by
    refine ⟨fun place index low => ?_, same.forced⟩
    rw [output_registers_write, output_registers_write, PerBank.get_set, PerBank.get_set]
    split
    · simp only [Register.getLsbD_obey, same.output bank index low]
    · exact same.output place index low
  toggle {bench other} same bank mask := by
    refine ⟨fun place index low => ?_, same.forced⟩
    rw [output_registers_toggle, output_registers_toggle, PerBank.get_set, PerBank.get_set,
      Register.obey_invert, Register.obey_invert]
    split
    · simp only [BitVec.getLsbD_xor, same.output bank index low]
    · exact same.output place index low
  read {bench other} same bank mask :=
    ⟨Register.levelOf_congr mask fun _ low => same.input bank low, same.output, same.forced⟩

/-- The operation with nothing but pins in the word that it pokes. -/
def Op.pokePins : Op → Op
  | .poke bank word => .poke bank (word &&& 0xFFFF)
  | operation => operation

namespace Session

/-- A step that is no poke leaves the high halves of the output registers as they were. -/
theorem high_step (board : Board) {operation : Op}
    (other : ∀ bank word, operation ≠ .poke bank word) (session : Session) (bank : Bank)
    {index : Nat} (high : 16 ≤ index) :
    ((step .registers board session operation).2.bench.output.get bank).getLsbD index =
      (session.bench.output.get bank).getLsbD index := by
  by_cases arranged : operation.arranges = true
  · cases operation with
    | poke bank word => exact absurd rfl (other bank word)
    | script | pull => rfl
    | _ => cases arranged
  · have start : ∀ bank index, 16 ≤ index → (session.bench.output.get bank).getLsbD index =
        (session.bench.output.get bank).getLsbD index := fun _ _ _ => rfl
    have kept := step_keep Kind.pins?_registers (Bench.registers_keep_high session.bench.output)
      board (by simpa using arranged) start
    exact kept bank index high

/-- A step on the same pins has the same answer and leaves the same pins. -/
theorem step_pokePins (board : Board) (operation : Op) {session other : Session}
    (alike : Alike Bench.SamePins session other) :
    (step .registers board session operation.pokePins).1 =
        (step .registers board other operation).1 ∧
      Alike Bench.SamePins (step .registers board session operation.pokePins).2
        (step .registers board other operation).2 := by
  by_cases arranged : operation.arranges = true
  · cases operation with
    | script high => exact ⟨rfl, alike⟩
    | pull bank word =>
        exact ⟨rfl, alike.handles, alike.bench.output,
          congrArg (·.set bank word) alike.bench.forced⟩
    | poke bank word =>
        refine ⟨rfl, alike.handles, fun place index low => ?_, alike.bench.forced⟩
        change (((session.bench.output.set bank (word &&& 0xFFFF)).get place).getLsbD index) =
          ((other.bench.output.set bank word).get place).getLsbD index
        rw [PerBank.get_set, PerBank.get_set]
        split
        · rw [BitVec.getLsbD_and, Register.getLsbD_lowHalf, decide_eq_true low, Bool.and_true]
        · exact alike.bench.output place index low
    | _ => cases arranged
  · have plain : operation.pokePins = operation := by
      cases operation with
      | poke bank word => exact absurd rfl arranged
      | _ => rfl
    rw [plain]
    exact step_alike Kind.pins?_registers Kind.pins?_registers Bench.registers_agree_samePins board
      (by simpa using arranged) alike

/-- Sessions that differ only in the high halves of poked words have the same answers. -/
theorem answers_runFrom_pokePins (board : Board) (operations : List Op) {session other : Session}
    (alike : Alike Bench.SamePins session other) :
    (runFrom .registers board session (operations.map Op.pokePins)).map Observation.answer =
      (runFrom .registers board other operations).map Observation.answer := by
  induction operations generalizing session other with
  | nil => rfl
  | cons operation rest ih =>
      have quiet : Alike Bench.SamePins session.quiet other.quiet :=
        ⟨alike.handles, alike.bench.output, alike.bench.forced⟩
      obtain ⟨answer, after⟩ := step_pokePins board operation quiet
      exact List.cons_eq_cons.mpr ⟨answer, ih after⟩

theorem answers_onRegisters (start : PerBank Word) (observations : List Observation) :
    (onRegisters start observations).map Observation.answer =
      observations.map Observation.answer := by
  induction observations generalizing start with
  | nil => rfl
  | cons seen rest ih => exact List.cons_eq_cons.mpr ⟨rfl, ih seen.output⟩

/-- A session on a fresh bench is the same on the registers as on the recorder, spelled out. -/
theorem run_registers (board : Board) (operations : List Op)
    (plain : ∀ operation ∈ operations, operation.decidesReads = false) :
    run .registers board operations =
      onRegisters (.fill 0) (run .recorder board operations) := by
  have alike : Alike (Bench.Follows (.fill 0)) fresh fresh := ⟨rfl, rfl, rfl, rfl, rfl⟩
  exact runFrom_registers board operations plain alike

/--
Where nothing decides what a read shows, a session on the registers gives the answers, the output
words and the handles of the session on the recorder, and records each pin access of the latter as
its register accesses. Only a poke changes the high half of an output register, and on neither
hardware does an answer depend on it.
-/
theorem registers_refine_recorder (board : Board) (operations : List Op)
    (plain : ∀ operation ∈ operations, operation.decidesReads = false) :
    run .registers board operations = onRegisters (.fill 0) (run .recorder board operations) ∧
      (∀ before operation rest, operations = before ++ operation :: rest →
        (∀ bank word, operation ≠ .poke bank word) → ∀ bank index, 16 ≤ index →
          ((seen .registers board before operation).output.get bank).getLsbD index =
            ((after .registers board fresh before).bench.output.get bank).getLsbD index) ∧
      ∀ kind ∈ [Kind.registers, Kind.recorder],
        (run kind board (operations.map Op.pokePins)).map Observation.answer =
          (run kind board operations).map Observation.answer := by
  have registers : (run .registers board (operations.map Op.pokePins)).map Observation.answer =
      (run .registers board operations).map Observation.answer :=
    answers_runFrom_pokePins board operations ⟨rfl, fun _ _ _ => rfl, rfl⟩
  refine ⟨run_registers board operations plain, ?_, ?_⟩
  · intro before operation rest _ other bank index high
    exact high_step board other _ bank high
  · intro kind member
    simp only [List.mem_cons, List.not_mem_nil, or_false] at member
    rcases member with rfl | rfl
    · exact registers
    · have pinsPlain : ∀ operation ∈ operations.map Op.pokePins,
          operation.decidesReads = false := by
        intro poked member
        obtain ⟨operation, inside, rfl⟩ := List.mem_map.mp member
        rw [← plain operation inside]
        cases operation <;> rfl
      rwa [run_registers board _ pinsPlain, run_registers board _ plain, answers_onRegisters,
        answers_onRegisters] at registers

/-- Pokes into the high half, several pins at once, none at all, and handles of both kinds. -/
theorem registers_refine_recorder_mixed :
    let operations : List Op := [.poke .a 0xFFFF0021, .pinToggle 0 0x8021, .new,
      .onHandle 0 (.bind (.direct ⟨0, 5⟩)), .onHandle 0 .blinkStep, .pinRead 0 0,
      .borrow [.bind (.direct ⟨1, 3⟩), .setState .on, .getState], .release 0 (.direct ⟨0, 5⟩)]
    (∀ operation ∈ operations, operation.decidesReads = false) ∧
      run .registers Board.empty operations =
        onRegisters (.fill 0) (run .recorder Board.empty operations) ∧
      ((seen .registers Board.empty [.poke .a 0xFFFF0021] (.pinToggle 0 0x8021)).output.get
        .a).getLsbD 31 = true := by
  intro operations
  have plain : ∀ operation ∈ operations, operation.decidesReads = false := by
    simp [operations, Op.decidesReads]
  obtain ⟨refined, high, _⟩ := registers_refine_recorder Board.empty operations plain
  refine ⟨plain, refined, ?_⟩
  rw [high [.poke .a 0xFFFF0021] (.pinToggle 0 0x8021) _ rfl (by simp) .a 31 (by decide)]
  decide

end Session

end LedKit
