import ManagedRuntime.Proofs.Exception.Counters

/-! How a thread stops for good: the surroundings say so, a foreign unwind gets to a bottom, an
unwind leaves a cleanup that ran for another one, or nobody takes an exception. Only then there is a
report, and one only; the thread has to release the record and to exit after it. -/
namespace ManagedRuntime.Exception

def Signal.isReport : Signal κ → Bool
  | .uncaught _ => true
  | _ => false

/-- Neither at its end nor stopped, nor about to exit. -/
def Control.isMoving : Control ι κ → Bool
  | .run _ | .unwind _ => true
  | .returned | .died _ | .exiting _ | .halted => false

/-- The thread makes the process exit, or has stopped with it. -/
def Control.isLeaving : Control ι κ → Bool
  | .exiting _ | .halted => true
  | .run _ | .unwind _ | .returned | .died _ => false

namespace Strand

/-- The thread reports an exception in this step, tells nothing else, and keeps the record. -/
structure Reports (host : Host ι κ σ) (strand : Strand ι κ) (state : σ) (counts : Counts)
    (record : ExceptionRecord) (early : σ) : Prop where
  control : (strand.step host state).1.control = .exiting (some record)
  counted : (strand.step host state).1.counts = counts
  after : (strand.step host state).2 = host.signal counts (.uncaught record) early
  told : strand.told host state = [(counts, .uncaught record)]

/-- Why a thread stops in this step, and what is told then. -/
inductive Stops (host : Host ι κ σ) (strand : Strand ι κ) (state : σ) : Prop
  | asked (instruction : ι) (next : strand.upcoming = some instruction)
      (answer : (host.perform strand.counts strand.frames.length instruction state).1 = .halted)
      (after : (strand.step host state).2 = strand.performed host state)
      (quiet : strand.told host state = [])
  | foreign (counts : Counts)
      (after : (strand.step host state).2 = host.signal counts .foreignAtBottom state)
      (told : strand.told host state = [(counts, .foreignAtBottom)])
  | escaped (counts : Counts)
      (after : (strand.step host state).2 = host.signal counts .cleanupEscaped state)
      (told : strand.told host state = [(counts, .cleanupEscaped)])

/-- The thread goes on after this step, and nothing is reported. -/
structure GoesOn (host : Host ι κ σ) (strand : Strand ι κ) (state : σ) : Prop where
  control : (strand.step host state).1.control.isLeaving = false
  silent : ∀ point ∈ strand.told host state, point.2.isReport = false

/-- How a thread that moves fares in a step. -/
inductive Fares (host : Host ι κ σ) (strand : Strand ι κ) (state : σ) : Prop
  | goesOn (goesOn : GoesOn host strand state)
  | reports (counts : Counts) (record : ExceptionRecord) (early : σ)
      (reports : Reports host strand state counts record early)
  | stops (halted : (strand.step host state).1.control = .halted) (stops : Stops host strand state)

/-- A thread that stops reports nothing. -/
theorem Stops.silent {host : Host ι κ σ} {strand : Strand ι κ} {state : σ}
    (stops : Stops host strand state) : ∀ point ∈ strand.told host state,
      point.2.isReport = false := by
  cases stops with
  | asked instruction next answer after told =>
    rw [told]
    nofun
  | foreign counts after told | escaped counts after told =>
    rw [told]
    exact List.forall_mem_singleton.mpr rfl

variable (host : Host ι κ σ) (state : σ)

theorem act_ends (instruction : ι) (todo : List (Code ι κ)) (frames : List (Frame ι κ))
    (counts : Counts) :
    Fares host ⟨.run (.act instruction :: todo), frames, counts⟩ state := by
  rcases answered : host.perform counts frames.length instruction state with ⟨reply, now, later⟩
  have noted : host.watched.perform counts frames.length instruction ⟨state, []⟩ =
      (reply, now, ⟨later, []⟩) := perform_watched answered
  cases reply with
  | done | pending | run | foreign =>
    apply Fares.goesOn
    constructor
    · simp [step, enter, act, answered, Control.isLeaving]
    · simp [told, step, enter, act, noted]
  | halted =>
    apply Fares.stops
    · simp only [step, enter, act, answered]
    apply Stops.asked instruction rfl
    · simp only [answered]
    · simp only [step, enter, act, performed, upcoming, answered]
    · simp only [told, step, enter, act, noted]
  | throw mode record =>
    by_cases found : reachesRegion mode now.capture = true
    · have raising : told host ⟨.run (.act instruction :: todo), frames, counts⟩ state =
          [(now.capture, .raising record.throwable)] := by
        simp only [told, step, enter, act, noted, throw, found]
        rfl
      apply Fares.goesOn
      constructor
      · simp [step, enter, act, answered, throw, found, propagate, Control.isLeaving]
      · simp [raising, Signal.isReport]
    · apply Fares.reports now.capture record later
      constructor
      · simp [step, enter, act, answered, throw, found, uncaught]
      · simp [step, enter, act, answered, throw, found, uncaught]
      · simp [step, enter, act, answered, throw, found, uncaught]
      · simp only [told, step, enter, act, noted, throw, found]
        rfl
  | raise mode record | raiseHeld mode record =>
    apply Fares.goesOn
    constructor
    · simp only [step, enter, act, answered, raise]
      split <;> rfl
    · simp only [told, step, enter, act, noted, raise]
      split
      · simp [propagate, Host.watched, Signal.isReport]
      · simp [release, Host.watched, Signal.isReport]

theorem leave_ends (frame : Frame ι κ) (frames : List (Frame ι κ)) (counts : Counts) :
    GoesOn host ⟨.run [], frame :: frames, counts⟩ state := by
  constructor
  · cases frame with
    | cleaning pending rest => cases pending <;> rfl
    | protect | guarded | intercept | outermost => rfl
  · cases frame with
    | cleaning pending rest => cases pending <;> simp [told, step, leave]
    | protect | guarded | intercept | outermost =>
      simp [told, step, leave, Host.watched, Signal.isReport]

theorem unwindFrame_ends (payload : Payload) (frame : Frame ι κ) (frames : List (Frame ι κ))
    (counts : Counts) :
    Fares host ⟨.unwind payload, frame :: frames, counts⟩ state := by
  cases frame with
  | protect site handler rest =>
    apply Fares.goesOn
    cases payload with
    | managed record =>
      constructor
      · rfl
      · simp [told, step, unwindFrame, handle, release, Host.watched, Signal.isReport]
    | foreign message =>
      constructor
      · rfl
      · simp [told, step, unwindFrame]
  | guarded site cleanup rest =>
    apply Fares.goesOn
    constructor
    · rfl
    · simp [told, step, unwindFrame, Host.watched, Signal.isReport]
  | cleaning pending rest =>
    cases pending with
    | none =>
      apply Fares.goesOn
      constructor
      · rfl
      · simp [told, step, unwindFrame]
    | some pending => exact .stops rfl (.escaped counts rfl rfl)
  | intercept site resume rest =>
    apply Fares.goesOn
    cases resume with
    | true =>
      constructor
      · rfl
      · simp [told, step, unwindFrame, Host.watched, Signal.isReport]
    | false =>
      cases payload <;> constructor
      · rfl
      · simp [told, step, unwindFrame, discard, release, Host.watched, Signal.isReport]
      · rfl
      · simp [told, step, unwindFrame, discard, Host.watched, Signal.isReport]
  | outermost site rest =>
    cases payload with
    | managed record => exact .reports counts.leaveRegion record state ⟨rfl, rfl, rfl, rfl⟩
    | foreign message => exact .stops rfl (.foreign counts.leaveRegion rfl rfl)

theorem step_fares (strand : Strand ι κ) (moving : strand.control.isMoving = true) :
    Fares host strand state := by
  obtain ⟨control, frames, counts⟩ := strand
  cases control with
  | returned | died | exiting | halted => exact absurd moving Bool.false_ne_true
  | run todo =>
    cases todo with
    | nil =>
      apply Fares.goesOn
      cases frames with
      | nil => exact ⟨rfl, fun point none => absurd none List.not_mem_nil⟩
      | cons frame frames => exact leave_ends host state frame frames counts
    | cons code todo =>
      cases code with
      | act instruction => exact act_ends host state instruction todo frames counts
      | block | protect | guarded | intercept | outermost =>
        exact .goesOn ⟨rfl, fun point none => absurd none List.not_mem_nil⟩
  | unwind payload =>
    cases frames with
    | nil => exact .goesOn ⟨rfl, fun point none => absurd none List.not_mem_nil⟩
    | cons frame frames => exact unwindFrame_ends host state payload frame frames counts

/-- A thread that does not move reports nothing. -/
theorem silent_of_still (strand : Strand ι κ) (still : strand.control.isMoving = false) :
    ∀ point ∈ strand.told host state, point.2.isReport = false := by
  obtain ⟨control, frames, counts⟩ := strand
  cases control with
  | run | unwind => simp [Control.isMoving] at still
  | returned | died | halted => nofun
  | exiting held => cases held <;> exact List.forall_mem_singleton.mpr rfl

section
variable {host state} {strand : Strand ι κ} {record : ExceptionRecord}

/-- What is told after a report is the release of the record, and then the exit. -/
theorem step_held (control : strand.control = .exiting (some record)) :
    strand.step host state =
      ({ strand with control := .exiting none, counts := strand.counts.release },
        host.signal strand.counts.release (.released record) state) := by
  obtain ⟨_, frames, counts⟩ := strand
  obtain rfl := control
  rfl

theorem step_exits (control : strand.control = .exiting none) :
    strand.step host state = ({ strand with control := .halted },
      host.signal strand.counts .exited state) := by
  obtain ⟨_, frames, counts⟩ := strand
  obtain rfl := control
  rfl

theorem told_held (control : strand.control = .exiting (some record)) :
    strand.told host state = [(strand.counts.release, .released record)] := by
  rw [told, step_held control]
  rfl

theorem told_exits (control : strand.control = .exiting none) :
    strand.told host state = [(strand.counts, .exited)] := by
  rw [told, step_exits control]
  rfl

end

end Strand
end ManagedRuntime.Exception
