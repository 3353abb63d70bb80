import ManagedRuntime.Proofs.Exception.Simulation

/-! How exceptions get from where they are thrown to where they are taken. -/
namespace ManagedRuntime.Exception

/-- A reply that stays within the code that is there and asks for no wait. -/
def Reply.isPlain : Reply ι κ → Bool
  | .pending | .run _ => false
  | .done | .halted | .throw _ _ | .raise _ _ | .raiseHeld _ _ | .foreign _ => true

def Host.AnswersPlainly (host : Host ι κ σ) (instruction : ι) : Prop :=
  ∀ counts height state, (host.perform counts height instruction state).1.isPlain = true

mutual

def Code.instructions : Code ι κ → List ι
  | .act instruction => [instruction]
  | .block body | .intercept _ _ body | .outermost _ body => instructionsOf body
  | .protect _ body handler => instructionsOf body ++ instructionsOf handler
  | .guarded _ body cleanup => instructionsOf body ++ instructionsOf cleanup

def instructionsOf : List (Code ι κ) → List ι
  | [] => []
  | code :: rest => code.instructions ++ instructionsOf rest

end

/-- An unwind goes through these frames, which at most have a cleanup to run on its way. -/
def Frame.passes (payload : Payload) : Frame ι κ → Bool
  | .guarded _ _ _ | .cleaning none _ => true
  | .protect _ _ _ =>
    match payload with
    | .managed _ => false
    | .foreign _ => true
  | .cleaning (some _) _ | .intercept _ _ _ | .outermost _ _ => false

/-- Runs the cleanups of the frames `passed`, innermost first, if none of them is left by an
unwind or ends the process. -/
def cleanUp (host : Host ι κ σ) (outer : List (Frame ι κ)) :
    List (Frame ι κ) → Memory σ → Option (Memory σ)
  | [], memory => some memory
  | .guarded site cleanup _ :: passed, memory =>
    let place := Place.of (passed ++ outer)
    match evaluateAll host place.inFrame cleanup (memory.tell host place (.cleaning site)) with
    | (.normal, memory) => cleanUp host outer passed memory
    | _ => none
  | _ :: passed, memory => cleanUp host outer passed memory

variable {host : Host ι κ σ}

theorem unwind_through (steady : host.Steady) {payload : Payload} {passed outer : List (Frame ι κ)}
    {memory cleaned : Memory σ} (passing : ∀ frame ∈ passed, frame.passes payload = true)
    (clean : cleanUp host outer passed memory = some cleaned) :
    Reaches host (standing (.unwind payload) (passed ++ outer) memory)
      (standing (.unwind payload) outer cleaned) := by
  induction passed generalizing memory with
  | nil =>
    cases clean
    exact .refl _
  | cons frame passed ih =>
    obtain ⟨passes, further⟩ := List.forall_mem_cons.mp passing
    cases frame with
    | guarded site cleanup rest =>
      have cleans := evaluateAll_lands steady cleanup []
        (.cleaning (some payload) rest :: (passed ++ outer))
        (memory.tell host (.of (passed ++ outer)) (.cleaning site))
      rw [List.append_nil, ← Place.inFrame_of _ _ rfl] at cleans
      simp only [cleanUp] at clean
      split at clean
      · next done ran =>
        rw [ran] at cleans
        exact .of_next (next_unwound_guarded ..)
          (cleans.trans (.of_next (next_resumed ..) (ih further clean)))
      · contradiction
    | cleaning suspended rest =>
      cases suspended with
      | some suspended => simp [Frame.passes] at passes
      | none => exact .of_next (next_unwound_cleaning ..) (ih further clean)
    | protect site handler rest =>
      cases payload with
      | managed record => simp [Frame.passes] at passes
      | foreign message => exact .of_next (next_passed ..) (ih further clean)
    | intercept | outermost => simp [Frame.passes] at passes

/-- An exception on its way has a frame before it that takes it. -/
theorem exists_taker (record : ExceptionRecord) (frames : List (Frame ι κ))
    (sheltered : 0 < regionsOn frames) : ∃ passed taker outer, frames = passed ++ taker :: outer ∧
      (∀ frame ∈ passed, frame.passes (.managed record) = true) ∧
        taker.passes (.managed record) = false := by
  induction frames with
  | nil => simp at sheltered
  | cons frame frames ih =>
    cases passes : frame.passes (.managed record) with
    | false => exact ⟨[], frame, frames, rfl, nofun, passes⟩
    | true =>
      have below : 0 < regionsOn frames := by
        cases frame <;> simp_all [Frame.passes]
      obtain ⟨passed, taker, outer, rfl, passing, takes⟩ := ih below
      exact ⟨frame :: passed, taker, outer, rfl, List.forall_mem_cons.mpr ⟨passes, passing⟩, takes⟩

theorem evaluateAct_ne_stuck (place : Place) {instruction : ι} (memory : Memory σ)
    (plain : host.AnswersPlainly instruction) :
    (evaluateAct host place instruction memory).1 ≠ .stuck := by
  have answers := plain ⟨place.regions, memory.live⟩ place.frames memory.state
  unfold evaluateAct
  generalize host.perform _ _ _ _ = answer at answers
  obtain ⟨reply, counts, state⟩ := answer
  cases reply with
  | pending | run => simp [Reply.isPlain] at answers
  | throw | raise | raiseHeld =>
    dsimp only
    split <;> simp [raised, reported, returnedTo]
  | done | halted | foreign => simp

mutual

theorem evaluate_ne_stuck (place : Place) (code : Code ι κ) (memory : Memory σ)
    (plain : ∀ instruction ∈ code.instructions, host.AnswersPlainly instruction) :
    (evaluate host place code memory).1 ≠ .stuck := by
  cases code with
  | act instruction =>
    rw [evaluate]
    exact evaluateAct_ne_stuck place memory (plain instruction (by simp [Code.instructions]))
  | block body =>
    rw [evaluate]
    exact evaluateAll_ne_stuck place body memory plain
  | protect site body handler =>
    have within := evaluateAll_ne_stuck place.inRegion body memory fun instruction member =>
      plain instruction (List.mem_append_left _ member)
    rw [evaluate]
    generalize evaluateAll host _ body memory = result at within
    obtain ⟨finish, memory⟩ := result
    cases finish with
    | unwinding payload =>
      cases payload with
      | managed record =>
        exact evaluateAll_ne_stuck place handler _ fun instruction member =>
          plain instruction (List.mem_append_right _ member)
      | foreign message => exact within
    | normal | ended => nofun
    | stuck => exact within
  | guarded site body cleanup =>
    have within := evaluateAll_ne_stuck place.inFrame body memory fun instruction member =>
      plain instruction (List.mem_append_left _ member)
    have cleans (memory : Memory σ) :=
      evaluateAll_ne_stuck place.inFrame cleanup memory fun instruction member =>
        plain instruction (List.mem_append_right _ member)
    rw [evaluate]
    generalize evaluateAll host _ body memory = result at within
    obtain ⟨finish, memory⟩ := result
    cases finish with
    | normal => exact cleans _
    | unwinding payload =>
      have cleaned := cleans (memory.tell host place (.cleaning site))
      dsimp only
      generalize evaluateAll host _ cleanup _ = result at cleaned
      obtain ⟨finish, memory⟩ := result
      cases finish with
      | normal | unwinding | ended => nofun
      | stuck => exact cleaned
    | ended | stuck => exact within
  | intercept site resume body =>
    have within := evaluateAll_ne_stuck place.inFrame body memory plain
    rw [evaluate]
    generalize evaluateAll host _ body memory = result at within
    obtain ⟨finish, memory⟩ := result
    cases finish with
    | unwinding payload => cases resume <;> nofun
    | normal | ended => nofun
    | stuck => exact within
  | outermost site body =>
    have within := evaluateAll_ne_stuck place.inRegion body memory plain
    rw [evaluate]
    generalize evaluateAll host _ body memory = result at within
    obtain ⟨finish, memory⟩ := result
    cases finish with
    | unwinding payload => cases payload <;> nofun
    | normal | ended => nofun
    | stuck => exact within

theorem evaluateAll_ne_stuck (place : Place) (codes : List (Code ι κ)) (memory : Memory σ)
    (plain : ∀ instruction ∈ instructionsOf codes, host.AnswersPlainly instruction) :
    (evaluateAll host place codes memory).1 ≠ .stuck := by
  cases codes with
  | nil => rw [evaluateAll]; nofun
  | cons code rest =>
    have first := evaluate_ne_stuck place code memory fun instruction member =>
      plain instruction (List.mem_append_left _ member)
    rw [evaluateAll]
    generalize evaluate host place code memory = result at first
    obtain ⟨finish, memory⟩ := result
    cases finish with
    | normal =>
      exact evaluateAll_ne_stuck place rest memory fun instruction member =>
        plain instruction (List.mem_append_right _ member)
    | unwinding | ended | stuck => exact first

end

/-- The end that a whole thread comes to. An exception that nobody takes ends the process; no
thread is left by one. -/
def Ends (host : Host ι κ σ) (first : Strand ι κ × σ) (result : Finish × Memory σ) : Prop :=
  match result with
  | (.normal, memory) => Reaches host first (standing .returned [] memory)
  | (.unwinding payload, memory) => (∃ message, payload = .foreign message) ∧
      Reaches host first (standing (.died payload) [] memory)
  | (.ended, memory) => ∃ strand, Reaches host first (strand, memory.state) ∧
      strand.control = .halted ∧ strand.counts.live = memory.live
  | (.stuck, _) => False

/-- A thread runs its program to the end that the program has when it is read as nested blocks. -/
theorem program_ends (steady : host.Steady) (program : List (Code ι κ)) (memory : Memory σ)
    (plain : ∀ instruction ∈ instructionsOf program, host.AnswersPlainly instruction) :
    Ends host (standing (.run program) [] memory) (evaluateAll host {} program memory) := by
  have unstuck := evaluateAll_ne_stuck {} program memory plain
  have lands := evaluateAll_lands steady program [] [] memory
  rw [List.append_nil, show Place.of ([] : List (Frame ι κ)) = {} from rfl] at lands
  generalize evaluateAll host {} program memory = result at unstuck lands
  obtain ⟨finish, last⟩ := result
  cases finish with
  | normal => exact lands.trans (.step (standing (.run []) [] last))
  | unwinding payload =>
    cases payload with
    | managed record =>
      exact absurd (counted_of_reaches steady lands).moving (Nat.lt_irrefl 0)
    | foreign message =>
      exact ⟨⟨message, rfl⟩, lands.trans (.step (standing (.unwind (.foreign message)) [] last))⟩
  | ended => exact lands
  | stuck => exact unstuck rfl

/-- At every moment of a thread the counter is right, and an exception on its way has a frame
before it that takes it. -/
theorem moment_standing (steady : host.Steady) {program : List (Code ι κ)} {memory : Memory σ}
    {strand : Strand ι κ} {state : σ}
    (reaches : Reaches host (standing (.run program) [] memory) (strand, state)) :
    (strand, state) = standing strand.control strand.frames ⟨strand.counts.live, state⟩ ∧
    (∀ record, strand.control = .unwind (.managed record) → ∃ passed taker outer,
      strand.frames = passed ++ taker :: outer ∧
      (∀ frame ∈ passed, frame.passes (.managed record) = true) ∧
      taker.passes (.managed record) = false) ∧
    ∀ record, strand.control ≠ .died (.managed record) := by
  obtain ⟨handlers, moving, -⟩ := counted_of_reaches steady reaches
  refine ⟨by rw [standing, ← handlers], fun record unwinds => ?_, fun record died => ?_⟩
  · rw [unwinds] at moving
    exact exists_taker record strand.frames moving
  · rw [died] at moving
    exact absurd moving (Nat.lt_irrefl 0)

section
variable {instruction : ι} {todo : List (Code ι κ)} {frames : List (Frame ι κ)} {memory : Memory σ}
  {live : Nat} {later : σ} {record : ExceptionRecord}

theorem next_thrown (answered : host.perform ⟨regionsOn frames, memory.live⟩ frames.length
      instruction memory.state = (.throw .propagate record, ⟨regionsOn frames, live⟩, later))
    (sheltered : 0 < regionsOn frames) :
    next host (standing (.run (.act instruction :: todo)) frames memory) =
      standing (.unwind (.managed record)) frames
        ((⟨live + 1, later⟩ : Memory σ).tell host (.of frames) (.raising record.throwable)) := by
  have found : Strand.reachesRegion .propagate ⟨regionsOn frames, live + 1⟩ = true :=
    (reachesRegion_iff ..).mpr ⟨rfl, sheltered⟩
  rw [next_act]
  simp [Strand.act, answered, Strand.throw, Counts.capture, found, Strand.propagate,
    standing, Memory.tell, Place.of]

/-- Where nobody would take it, an exception is reported on the spot. -/
theorem next_unhandled {mode : UnwindMode} (answered : host.perform ⟨regionsOn frames, memory.live⟩
      frames.length instruction memory.state =
        (.throw mode record, ⟨regionsOn frames, live⟩, later))
    (alone : ¬(Place.of frames).isSheltered mode) :
    next host (standing (.run (.act instruction :: todo)) frames memory) =
      standing (.exiting (some record)) frames
        ((⟨live + 1, later⟩ : Memory σ).tell host (.of frames) (.uncaught record)) := by
  have lost : Strand.reachesRegion mode ⟨regionsOn frames, live + 1⟩ = false := by
    simpa using (reachesRegion_iff mode frames (live + 1)).not.mpr alone
  rw [next_act]
  simp [Strand.act, answered, Strand.throw, Counts.capture, lost, Strand.uncaught, standing,
    Memory.tell, Place.of]

theorem next_foreign {message : String} (answered : host.perform ⟨regionsOn frames, memory.live⟩
      frames.length instruction memory.state =
        (.foreign message, ⟨regionsOn frames, live⟩, later)) :
    next host (standing (.run (.act instruction :: todo)) frames memory) =
      standing (.unwind (.foreign message)) frames ⟨live, later⟩ := by
  rw [next_act]
  simp [Strand.act, answered, standing]

end

end ManagedRuntime.Exception
