import ManagedRuntime.Proofs.Exception.Propagation
import ManagedRuntime.Proofs.Exception.Report
import ManagedRuntime.Proofs.Machine.Monitors
import ManagedRuntime.Proofs.Scenario.Surroundings

/-! Exceptions in the threads of a scenario: what a throw does to the process, and what programs of
nested regions, cleanups and bottoms do as a whole. -/
namespace ManagedRuntime

namespace Machine

/-- Logging at most adds to the error stream. -/
theorem errors_log (machine : Machine) (severity : Severity) (part : Part)
    (pieces : List LogPiece) :
    machine.errors <+: (machine.log severity part pieces).errors := by
  obtain ⟨kept, written, same⟩ := log_eq machine severity part pieces
  rw [same]
  simp only [errors, List.flatMap_append]
  exact List.prefix_append _ _

theorem errors_writeError (machine : Machine) (text : ErrorText) :
    (machine.writeError text).errors = machine.errors ++ text.bytes := by
  simp only [errors, writeError, List.flatMap_append, List.flatMap_singleton]

end Machine

namespace Scenario.State
open Exception

theorem flushJournal_of_empty (state : State) (me : Nat) (empty : state.machine.journal = []) :
    state.flushJournal me = state := by
  have told : state.flushJournal me =
      { state with machine := { state.machine with journal := [] } } := by
    unfold flushJournal
    rw [empty]
    rfl
  rw [told, ← empty]

/-! The report on an exception, its release, and the exit. -/

section
variable (state : State) (me : Nat) (counts : Counts) (record : ExceptionRecord)

/-- The report is written as a whole, behind what was on the error stream. -/
theorem errors_uncaught : (hear me counts (.uncaught record) state).machine.errors =
    state.machine.errors ++ utf8 (reportText (state.currentName me) record) := by
  have taken : (report {} (state.currentName me) record).2.taken =
      utf8 (reportText (state.currentName me) record) := by rw [report_unlimited]
  simp only [hear, machine_flushJournal]
  rw [← taken]
  exact Machine.errors_writeError state.machine (.plain _)

theorem ended_uncaught : (hear me counts (.uncaught record) state).machine.ended =
    state.machine.ended := by
  simp only [hear, machine_flushJournal]
  rfl

theorem errors_released : ∃ logged, (hear me counts (.released record) state).machine.errors =
    state.machine.errors ++ logged := by
  obtain ⟨logged, more⟩ := Machine.errors_log state.machine .debug .unwind
    [.text ("released exception record for " ++ record.throwable.inline ++ " (" ++
      toString record.backtrace.length ++ " frames)")]
  refine ⟨logged, ?_⟩
  simp only [hear, machine_flushJournal]
  exact more.symm

theorem ended_released : (hear me counts (.released record) state).machine.ended =
    state.machine.ended := by
  simp only [hear, machine_flushJournal]
  exact Machine.ended_log ..

theorem ended_exited : (hear me counts .exited state).machine.ended = some (.exited 1) := by
  simp only [hear, machine_flushJournal]
  rfl

theorem errors_exited :
    (hear me counts .exited state).machine.errors = state.machine.errors := by
  simp only [hear, machine_flushJournal]
  rfl

end

/-- What becomes of a process whose thread has just reported an exception; `before` is how things
stood then. The report is the last of what is on the error stream, and all that is left to the
thread is to release the record and to exit with status 1, its frames as they are. -/
structure Reported (me : Nat) (record : ExceptionRecord) (frames : List (Frame Instruction Site))
    (before after : Memory State) : Prop where
  written : after.state.machine.errors =
    before.state.machine.errors ++ utf8 (reportText (before.state.currentName me) record)
  alive : after.state.machine.ended = before.state.machine.ended
  exits : ∃ last logged, Reaches (host me) (standing (.exiting (some record)) frames after)
      (standing .halted frames last) ∧
    last.state.machine.ended = some (.exited 1) ∧
    last.state.machine.errors = after.state.machine.errors ++ logged

theorem reported_tell (me : Nat) (record : ExceptionRecord)
    (frames : List (Frame Instruction Site)) (memory : Memory State) :
    Reported me record frames memory
      (memory.tell (host me) (.of frames) (.uncaught record)) := by
  let here : Counts := ⟨(Place.of frames).regions, memory.live⟩
  refine ⟨errors_uncaught memory.state me here record, ended_uncaught memory.state me here record,
    ?_⟩
  let reported := hear me here (.uncaught record) memory.state
  let released := hear me here.release (.released record) reported
  obtain ⟨logged, errors⟩ := errors_released reported me here.release record
  exact ⟨_, logged, reaches_reported frames memory record, ended_exited released me here.release,
    (errors_exited released me here.release).trans errors⟩

theorem throw_plainly (me : Nat) (name : String) (route : Route) :
    (host me).AnswersPlainly (.throw name route) := fun _ _ _ => rfl

/-- A throw captures the reference as it is and asks whether any region is active. -/
theorem throw_answers (me : Nat) (name : String) (route : Route) (counts : Counts) (height : Nat)
    (state : State) (propagates : state.machine.readSettings.1.unwind = .propagate) :
    ∃ record, record.throwable = state.reference name ∧
      (host me).perform counts height (.throw name route) state = (.throw .propagate record, counts,
        (state.setMachine state.machine.readSettings.2).flushJournal me) := by
  refine ⟨.capture (state.reference name) state.machine.readSettings.1.backtraceDepth
    (stackOf height), rfl, ?_⟩
  rw [← propagates]
  exact throwReply_eq ..

/-- Programs of one thread behave as nested blocks. The whole program comes to the end it has when
it is read so. At every moment the counter of regions is the number of regions on the stack; an
exception that is under way has a frame before it that takes it, so no thread is left by one. A
throw with a region somewhere on the stack is on its way with the thrown reference, and without one
its report is written, whole and behind all else on the error stream, and the process exits with
status 1, before any cleanup. Whatever is on its way runs
the cleanups of the frames it passes, each once and from the inside out, and keeps what it carries;
a foreign unwind passes catch regions too. The region that takes an exception is over when its
handler begins. A frame that stops every unwind lets it go on or ends it there. -/
theorem structured_propagation (me : Nat) (program : List Step) (start : Memory State) :
    ((∀ instruction ∈ instructionsOf program, (host me).AnswersPlainly instruction) →
      Ends (host me) (standing (.run program) [] start) (evaluateAll (host me) {} program start)) ∧
    (∀ strand state, Reaches (host me) (standing (.run program) [] start) (strand, state) →
      (strand, state) = standing strand.control strand.frames ⟨strand.counts.live, state⟩ ∧
      (∀ record, strand.control = .unwind (.managed record) → ∃ passed taker outer,
        strand.frames = passed ++ taker :: outer ∧
        (∀ frame ∈ passed, frame.passes (.managed record) = true) ∧
        taker.passes (.managed record) = false) ∧
      ∀ record, strand.control ≠ .died (.managed record)) ∧
    ∀ (frames : List (Frame Instruction Site)) (memory : Memory State),
      (∀ name route todo, memory.state.machine.readSettings.1.unwind = .propagate →
        let later := (memory.state.setMachine memory.state.machine.readSettings.2).flushJournal me
        ∃ record, record.throwable = memory.state.reference name ∧
          (0 < regionsOn frames →
            next (host me) (standing (.run (.act (.throw name route) :: todo)) frames memory) =
              standing (.unwind (.managed record)) frames
                ((⟨memory.live + 1, later⟩ : Memory State).tell (host me) (.of frames)
                  (.raising record.throwable))) ∧
          (regionsOn frames = 0 → ∃ reported,
            next (host me) (standing (.run (.act (.throw name route) :: todo)) frames memory) =
              standing (.exiting (some record)) frames reported ∧
            Reported me record frames ⟨memory.live + 1, later⟩ reported)) ∧
      (∀ message todo,
        next (host me) (standing (.run (.act (.foreign message) :: todo)) frames memory) =
          standing (.unwind (.foreign message)) frames memory) ∧
      (∀ payload passed cleaned, (∀ frame ∈ passed, frame.passes payload = true) →
        cleanUp (host me) frames passed memory = some cleaned →
        Reaches (host me) (standing (.unwind payload) (passed ++ frames) memory)
          (standing (.unwind payload) frames cleaned)) ∧
      (∀ site handler todo record,
        next (host me) (standing (.unwind (.managed record)) (.protect site handler todo :: frames)
          memory) =
          standing (.run (handler ++ todo)) frames
            (caught (host me) (.of frames) site record memory)) ∧
      (∀ site todo payload,
        next (host me) (standing (.unwind payload) (.intercept site true todo :: frames) memory) =
          standing (.unwind payload) frames
            (memory.tell (host me) (.of frames) (.intercepted site (some payload))) ∧
        next (host me) (standing (.unwind payload) (.intercept site false todo :: frames) memory) =
          standing (.run todo) frames (discarded (host me) (.of frames) site payload memory)) ∧
      (∀ site todo record, ∃ reported,
        next (host me) (standing (.unwind (.managed record)) (.outermost site todo :: frames)
          memory) = standing (.exiting (some record)) frames reported ∧
        Reported me record frames memory reported) := by
  have steady := steady_host me
  refine ⟨program_ends steady program start, fun strand state => moment_standing steady, ?_⟩
  intro frames memory
  refine ⟨?_, fun message todo => next_foreign rfl, fun payload passed cleaned =>
    unwind_through steady, fun site handler todo record => next_caught .., fun site todo payload =>
      ⟨next_intercepted_resume .., next_discarded ..⟩, fun site todo record => ?_⟩
  · intro name route todo propagates later
    obtain ⟨record, thrown, answered⟩ :=
      throw_answers me name route ⟨regionsOn frames, memory.live⟩ frames.length memory.state
        propagates
    refine ⟨record, thrown, next_thrown answered, fun none => ?_⟩
    have alone : ¬(Place.of frames).isSheltered .propagate :=
      fun sheltered => absurd none (Nat.ne_of_gt sheltered.2)
    exact ⟨_, next_unhandled answered alone, reported_tell me record frames _⟩
  · exact ⟨_, next_uncaught .., reported_tell me record frames memory⟩

/-- A handler that throws again what its region took from under a frame. -/
def rethrowing : List Step :=
  [.protect (.attempt .direct none false)
    [.protect (.attempt .direct none false)
      [.guarded (.guarded "frame") [.act (.throw "$null" .direct)] []]
      [.act (.throw "$null" .direct)]]
    []]

def oneThread : State := { machine := {}, threads := #[{}] }

theorem structured_propagation_rethrowing : ∃ last,
    Reaches (host 0) (standing (.run rethrowing) [] ⟨0, oneThread⟩)
      (standing .returned [] last) := by
  have ends := (structured_propagation 0 rethrowing ⟨0, oneThread⟩).1 fun instruction member => by
    obtain rfl : instruction = .throw "$null" .direct := by
      simpa [rethrowing, instructionsOf, Code.instructions] using member
    exact throw_plainly 0 _ _
  have normal : (evaluateAll (host 0) {} rethrowing ⟨0, oneThread⟩).1 = .normal := rfl
  generalize evaluateAll (host 0) {} rethrowing ⟨0, oneThread⟩ = result at ends normal
  obtain ⟨finish, last⟩ := result
  cases normal
  exact ⟨last, ends⟩

end Scenario.State
end ManagedRuntime
