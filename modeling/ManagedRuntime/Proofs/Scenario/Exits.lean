import ManagedRuntime.Proofs.Exception.Endings
import ManagedRuntime.Proofs.Scenario.Exceptions
import ManagedRuntime.Proofs.Scenario.Turns

/-! What is left to a thread that has reported an exception: it releases the record and exits, each
in a turn of its own. Other threads have their turns meanwhile, and may end the process first. -/
namespace ManagedRuntime.Scenario
open Exception

/-- The name a thread reports by. -/
def Thread.reportName (thread : Thread) : Option String := thread.ownName.or thread.systemName

instance : Blind Thread.reportName :=
  { told := fun _ _ => rfl, waiting := fun _ _ => rfl, token := fun _ _ => rfl
    scratch := fun _ _ => rfl, job := fun _ _ => rfl
    inbox := fun _ _ => rfl, toldToEnd := fun _ _ => rfl
    callers := fun _ _ _ => rfl }

namespace State

theorem currentName_flushJournal (state : State) (me index : Nat) :
    (state.flushJournal me).currentName index = state.currentName index :=
  @view_of_seen _ Thread.reportName _ _ (seen_flushJournal state me) index

theorem machine_stepThread (state : State) (index : Nat) :
    (state.stepThread index).machine =
      ((state.strand index).step (host index) state).2.machine := by
  unfold stepThread buryThread
  dsimp only
  split <;> rfl

/-- The next turn of the thread releases the record, and the process goes on. -/
structure ReleasesNext (me : Nat) (record : ExceptionRecord) (state : State) : Prop where
  told : ((state.strand me).told (host me) state).map (·.2) = [.released record]
  control : ((state.stepThread me).strand me).control = .exiting none
  alive : (state.stepThread me).machine.ended = state.machine.ended
  errors : ∃ logged, (state.stepThread me).machine.errors = state.machine.errors ++ logged
  heap : (state.stepThread me).machine.heap = state.machine.heap

/-- The next turn of the thread ends the process with status 1. -/
structure ExitsNext (me : Nat) (state : State) : Prop where
  told : ((state.strand me).told (host me) state).map (·.2) = [.exited]
  control : ((state.stepThread me).strand me).control = .halted
  ended : (state.stepThread me).machine.ended = some (.exited 1)
  errors : (state.stepThread me).machine.errors = state.machine.errors
  heap : (state.stepThread me).machine.heap = state.machine.heap

/-- How far a thread has got that reported an exception. -/
inductive Leaving (me : Nat) (record : ExceptionRecord) (state : State) : Prop
  | holding (control : (state.strand me).control = .exiting (some record))
      (next : ReleasesNext me record state)
  | released (control : (state.strand me).control = .exiting none) (next : ExitsNext me state)
  | exited (control : (state.strand me).control = .halted)

section
variable {state : State} {me : Nat} {record : ExceptionRecord}

theorem releasesNext (control : (state.strand me).control = .exiting (some record)) :
    ReleasesNext me record state := by
  have machine := machine_stepThread state me
  rw [Strand.step_held control] at machine
  constructor
  · rw [Strand.told_held control]
    rfl
  · rw [strand_stepThread, Strand.step_held control]
  · rw [machine]
    exact ended_released state me (state.strand me).counts.release record
  · rw [machine]
    exact errors_released state me (state.strand me).counts.release record
  · rw [machine]
    refine (congrArg Machine.heap (machine_flushJournal _ me)).trans ?_
    exact Machine.heap_log ..

theorem exitsNext (control : (state.strand me).control = .exiting none) : ExitsNext me state := by
  have machine := machine_stepThread state me
  rw [Strand.step_exits control] at machine
  constructor
  · rw [Strand.told_exits control]
    rfl
  · rw [strand_stepThread, Strand.step_exits control]
  · rw [machine]
    exact ended_exited state me (state.strand me).counts
  · rw [machine]
    exact errors_exited state me (state.strand me).counts
  · rw [machine]
    refine (congrArg Machine.heap (machine_flushJournal _ me)).trans ?_
    rfl

theorem Leaving.of_held (control : (state.strand me).control = .exiting (some record)) :
    Leaving me record state :=
  .holding control (releasesNext control)

/-- A thread that is leaving says so itself. -/
theorem Leaving.isLeaving (leaving : Leaving me record state) :
    (state.strand me).control.isLeaving = true := by
  cases leaving with
  | holding control | released control | exited control =>
    rw [control]
    rfl

theorem Leaving.of_same {later : State} (leaving : Leaving me record state)
    (same : later.strand me = state.strand me) : Leaving me record later := by
  cases leaving with
  | holding control => exact .of_held (same ▸ control)
  | released control =>
    have control : (later.strand me).control = .exiting none := same ▸ control
    exact .released control (exitsNext control)
  | exited control => exact .exited (same ▸ control)

/-- A turn of the thread takes it further, and a turn of another leaves it where it is. -/
theorem Leaving.step (leaving : Leaving me record state) (moved : Nat) :
    Leaving me record (state.stepThread moved) ∧
      ((state.stepThread moved).strand me).frames = (state.strand me).frames := by
  by_cases own : me = moved
  · subst own
    rw [strand_stepThread]
    cases leaving with
    | holding control next =>
      exact ⟨.released next.control (exitsNext next.control), by rw [Strand.step_held control]⟩
    | released control next => exact ⟨.exited next.control, by rw [Strand.step_exits control]⟩
    | exited control =>
      have still : (state.strand me).step (host me) state = (state.strand me, state) := by
        simp only [Strand.step, control]
      refine ⟨.exited ?_, by rw [still]⟩
      rw [strand_stepThread, still]
      exact control
  · have there := leaving.isLeaving
    rcases strand_stepThread_of_ne state moved own with same | ⟨none, -⟩
    · exact ⟨leaving.of_same same, congrArg Strand.frames same⟩
    · rw [none] at there
      contradiction

/-- No thread has its frames changed by the turn of a thread that is leaving. -/
theorem Leaving.frames (leaving : Leaving me record state) (index : Nat) :
    ((state.stepThread me).strand index).frames = (state.strand index).frames := by
  by_cases own : index = me
  · subst own
    exact (leaving.step index).2
  · exact frames_stepThread_of_ne state me own

/-- Whatever turns follow a report, its thread only releases the record and exits. No frame of it is
unwound. -/
theorem Leaving.run {first last : State} {touched : List (Nat × String)}
    (leaving : Leaving me record first) (run : Runs Turn first touched last) :
    Leaving me record last ∧ (last.strand me).frames = (first.strand me).frames := by
  induction run with
  | start => exact ⟨leaving, rfl⟩
  | next early turn ih =>
    obtain ⟨before, same⟩ := ih
    cases turn with
    | step moved =>
      obtain ⟨after, kept⟩ := before.step moved
      exact ⟨after, kept.trans same⟩
    | elapse | switch => exact ⟨before.of_same rfl, same⟩

end

end State
end ManagedRuntime.Scenario
