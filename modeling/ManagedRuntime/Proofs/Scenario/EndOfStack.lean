import ManagedRuntime.Proofs.Scenario.Exits

/-! What becomes of an exception that no catch region is active for. The search asks a counter that
the bottoms of managed stacks share with catch regions, so it depends on how the thread began. -/
namespace ManagedRuntime

namespace Machine

/-- Reading the settings never ends a process. -/
theorem ended_readSettings (machine : Machine) :
    machine.readSettings.2.ended = machine.ended := by
  unfold readSettings
  split
  · exact ended_log ..
  · rfl

end Machine

namespace Exception

/-- Frames of catch regions, among those that count as a region. -/
def Frame.isCatch : Frame ι κ → Bool
  | .protect _ _ _ => true
  | .guarded _ _ _ | .cleaning _ _ | .intercept _ _ _ | .outermost _ _ => false

/-- Of an exception that finds no region nothing is told but its report. -/
theorem told_unhandled {host : Host ι κ σ} {frames : List (Frame ι κ)} {counts now : Counts}
    {instruction : ι} {todo : List (Code ι κ)} {state later : σ} {mode : UnwindMode}
    {record : ExceptionRecord}
    (answered : host.perform counts frames.length instruction state =
      (.throw mode record, now, later))
    (lost : Strand.reachesRegion mode now.capture = false) :
    Strand.told host ⟨.run (.act instruction :: todo), frames, counts⟩ state =
      [(now.capture, .uncaught record)] := by
  have noted : host.watched.perform counts frames.length instruction ⟨state, []⟩ =
      (.throw mode record, now, ⟨later, []⟩) := perform_watched answered
  simp only [Strand.told, Strand.step, Strand.enter, Strand.act, noted, Strand.throw, lost]
  rfl

/-- The thread is to exit from where it is. -/
theorem step_unhandled {host : Host ι κ σ} {frames : List (Frame ι κ)} {counts now : Counts}
    {instruction : ι} {todo : List (Code ι κ)} {state later : σ} {mode : UnwindMode}
    {record : ExceptionRecord}
    (answered : host.perform counts frames.length instruction state =
      (.throw mode record, now, later))
    (lost : Strand.reachesRegion mode now.capture = false) :
    Strand.step host ⟨.run (.act instruction :: todo), frames, counts⟩ state =
      (⟨.exiting (some record), frames, now.capture⟩,
        host.signal now.capture (.uncaught record) later) := by
  simp only [Strand.step, Strand.enter, Strand.act, answered, Strand.throw, lost]
  rfl

end Exception

namespace Scenario.State
open Exception

section
variable {last : State} {me : Nat} {name : String} {route : Route} {todo : List Step}

/-- Where a thread stands whose region counter is right and that is about to throw. -/
theorem standing_throwing (counted : Counted (last.strand me))
    (throwing : (last.strand me).control = .run (.act (.throw name route) :: todo)) :
    (last.strand me, last) = standing (.run (.act (.throw name route) :: todo))
      (last.strand me).frames ⟨(last.strand me).counts.live, last⟩ := by
  rw [standing, ← counted.handlers, ← throwing]

/-- The turn of a thread that throws writes the report: the process goes on until the thread has
released the record and exits, and no frame of the thread is unwound. -/
structure ReportsAtThrow (me : Nat) (record : ExceptionRecord) (before : State) : Prop where
  told : ((before.strand me).told (host me) before).map (·.2) = [.uncaught record]
  /-- Reading the settings may warn of them before the report. -/
  written : (before.stepThread me).machine.errors = before.machine.readSettings.2.errors ++
    utf8 (reportText (before.currentName me) record)
  alive : (before.stepThread me).machine.ended = before.machine.ended
  control : ((before.stepThread me).strand me).control = .exiting (some record)
  leaves : ∀ {touched later}, Runs Turn (before.stepThread me) touched later →
    Leaving me record later ∧ (later.strand me).frames = (before.strand me).frames
  exits : (((before.stepThread me).stepThread me).stepThread me).machine.ended = some (.exited 1)

/-- A thread that is about to exit exits with its next two turns. -/
theorem ended_of_exiting {state : State} {record : ExceptionRecord}
    (control : (state.strand me).control = .exiting (some record)) :
    ((state.stepThread me).stepThread me).machine.ended = some (.exited 1) :=
  (exitsNext (releasesNext control).control).ended

/-- Without a region on the stack the exception is reported at the throw, before any cleanup. -/
theorem throw_without_region (counted : Counted (last.strand me))
    (throwing : (last.strand me).control = .run (.act (.throw name route) :: todo))
    (propagates : last.machine.readSettings.1.unwind = .propagate)
    (none : regionsOn (last.strand me).frames = 0) :
    ∃ record, record.throwable = last.reference name ∧ ReportsAtThrow me record last := by
  let here : Counts := ⟨regionsOn (last.strand me).frames, (last.strand me).counts.live⟩
  let later := (last.setMachine last.machine.readSettings.2).flushJournal me
  obtain ⟨record, thrown, answered⟩ := throw_answers me name route here
    (last.strand me).frames.length last propagates
  have shape : last.strand me = ⟨.run (.act (.throw name route) :: todo),
      (last.strand me).frames, here⟩ := congrArg Prod.fst (standing_throwing counted throwing)
  have lost : Strand.reachesRegion .propagate here.capture = false := by
    simp [here, Strand.reachesRegion, Counts.capture, none]
  have stepped : (last.strand me).step (host me) last = _ :=
    (congrArg (Strand.step (host me) · last) shape).trans (step_unhandled answered lost)
  have told : (last.strand me).told (host me) last = _ :=
    (congrArg (Strand.told (host me) · last) shape).trans (told_unhandled answered lost)
  have strand := strand_stepThread last me
  have machine := machine_stepThread last me
  rw [stepped] at strand machine
  have control : ((last.stepThread me).strand me).control = .exiting (some record) := by rw [strand]
  have read : later.machine = { last.machine.readSettings.2 with journal := [] } :=
    machine_flushJournal _ me
  refine ⟨record, thrown, ?_, ?_, ?_, control, ?_, ended_of_exiting control⟩
  · rw [told]
    rfl
  · rw [machine]
    refine (errors_uncaught later me here.capture record).trans ?_
    rw [currentName_flushJournal, read]
    rfl
  · rw [machine]
    refine (ended_uncaught later me here.capture record).trans ?_
    rw [read]
    exact Machine.ended_readSettings _
  · intro touched after run
    have left := (Leaving.of_held control).run run
    rwa [strand] at left

/-- With a region of whatever kind on the stack the exception is on its way, and the process goes
on. -/
theorem throw_under_region (counted : Counted (last.strand me))
    (throwing : (last.strand me).control = .run (.act (.throw name route) :: todo))
    (propagates : last.machine.readSettings.1.unwind = .propagate)
    (sheltered : 0 < regionsOn (last.strand me).frames) :
    ∃ record memory, record.throwable = last.reference name ∧
      next (host me) (last.strand me, last) =
        standing (.unwind (.managed record)) (last.strand me).frames memory ∧
      (last.stepThread me).machine.ended = last.machine.ended := by
  let later := (last.setMachine last.machine.readSettings.2).flushJournal me
  obtain ⟨record, thrown, answered⟩ := throw_answers me name route
    ⟨regionsOn (last.strand me).frames, (last.strand me).counts.live⟩
    (last.strand me).frames.length last propagates
  have lands : next (host me) (last.strand me, last) =
      standing (.unwind (.managed record)) (last.strand me).frames _ :=
    (congrArg (next (host me)) (standing_throwing counted throwing)).trans
      (next_thrown answered sheltered)
  refine ⟨record, _, thrown, lands, ?_⟩
  have goesOn : later.machine.ended = last.machine.ended := by
    rw [machine_flushJournal]
    exact Machine.ended_readSettings _
  have told : (hear me ⟨regionsOn (last.strand me).frames, (last.strand me).counts.live + 1⟩
      (.raising record.throwable) later).machine.ended = later.machine.ended := by
    simp only [hear, machine_flushJournal]
    exact Machine.ended_log ..
  have machine := congrArg (·.2.machine.ended) lands
  rw [machine_stepThread]
  exact machine.trans (told.trans goesOn)

end

/-- Where there is neither a catch region nor a bottom, the exception is reported at the throw, and
the process exits: no cleanup of the thread is run, and its frames stay as they were. Where there is
a bottom, the exception is on its way instead and nothing is reported. It runs the cleanups of all
frames above the next one that stops it, and if that is the bottom, the report follows only
there. -/
theorem uncaught_throw {start last : State} {touched : List (Nat × String)} (begins : AtStart start)
    (run : Runs Turn start touched last) {me : Nat} {name : String} {route : Route}
    {todo : List Step}
    (throwing : (last.strand me).control = .run (.act (.throw name route) :: todo))
    (propagates : last.machine.readSettings.1.unwind = .propagate)
    (uncaught : ∀ frame ∈ (last.strand me).frames, frame.isCatch = false) :
    let strand := last.strand me
    let after := last.stepThread me
    (regionsOn strand.frames = 0 →
      ∃ record, record.throwable = last.reference name ∧ ReportsAtThrow me record last) ∧
      (0 < regionsOn strand.frames → ∃ record memory passed stopper outer,
        record.throwable = last.reference name ∧
        next (host me) (strand, last) =
          standing (.unwind (.managed record)) strand.frames memory ∧
        after.machine.ended = last.machine.ended ∧
        strand.frames = passed ++ stopper :: outer ∧ stopper.isCatch = false ∧
        stopper.passes (.managed record) = false ∧
        ∀ cleaned, cleanUp (host me) (stopper :: outer) passed memory = some cleaned →
          Reaches (host me) (next (host me) (strand, last))
            (standing (.unwind (.managed record)) (stopper :: outer) cleaned) ∧
          ∀ bottom rest, stopper = .outermost bottom rest → ∃ reported,
            Reaches (host me) (next (host me) (strand, last))
              (standing (.exiting (some record)) outer reported) ∧
            Reported me record outer cleaned reported) := by
  intro strand after
  have counted : Counted strand := counted_of_turns begins run me
  constructor
  · exact throw_without_region counted throwing propagates
  · intro bottom
    obtain ⟨record, memory, thrown, lands, goesOn⟩ :=
      throw_under_region counted throwing propagates bottom
    obtain ⟨passed, stopper, outer, frames, passing, stops⟩ :=
      exists_taker record strand.frames bottom
    have member : stopper ∈ (last.strand me).frames := by
      rw [frames]
      exact List.mem_append_right _ List.mem_cons_self
    refine ⟨record, memory, passed, stopper, outer, thrown, lands, goesOn, frames,
      uncaught stopper member, stops, fun cleaned clean => ?_⟩
    have unwound := unwind_through (steady_host me) passing clean
    rw [← frames, ← lands] at unwound
    refine ⟨unwound, ?_⟩
    rintro bottom rest rfl
    have reported := unwound.trans (.of_next (next_uncaught ..) (.refl _))
    exact ⟨_, reported, reported_tell me record outer cleaned⟩

/-- A throw from under a frame, outside of all regions. -/
def guardedThrow : List Step := [.guarded (.guarded "frame") [.act (.throw "$null" .direct)] []]

def bareThrow : State where
  machine := {}
  threads := #[{ strand := { control := .run guardedThrow } }]

theorem uncaught_throw_bare : ∃ record,
    (bareThrow.takeTurns [0, 0]).machine.errors = utf8 (reportText none record) ∧
      (bareThrow.takeTurns [0, 0, 0, 0]).machine.ended = some (.exited 1) := by
  have begins : AtStart bareThrow := by
    refine ⟨fun strand member => ⟨guardedThrow, ?_⟩, rfl⟩
    simpa [bareThrow, strands] using member
  have throwing : ((bareThrow.takeTurns [0]).strand 0).control =
      .run (.act (.throw "$null" .direct) :: []) := rfl
  have alone := uncaught_throw begins (runs_takeTurns bareThrow [0]) throwing rfl
    (by decide +kernel)
  obtain ⟨record, -, reports⟩ := alone.1 rfl
  exact ⟨record, reports.written, reports.exits⟩

def startedThrow : State where
  machine := {}
  threads := #[{ strand := { control := .run [.act (.start [] 0 none .direct guardedThrow)] } }]

/-- In a program that is started no catch region is active at the throw, and yet the cleanup of the
frame runs while the process goes on. The report comes two steps later, at the bottom, and two steps
after it the process exits. -/
theorem uncaught_throw_cleans_up :
    let throwing := startedThrow.takeTurns [0, 0, 0, 0]
    let cleaning := throwing.takeTurns [0, 0]
    let reported := cleaning.takeTurns [0, 0]
    ((throwing.strand 0).upcoming matches some (.throw "$null" _)) = true ∧
      (∀ frame ∈ (throwing.strand 0).frames, frame.isCatch = false) ∧
      throwing.machine.readSettings.1.unwind = .propagate ∧
      ((cleaning.thread 0).told.any fun entry => entry.event matches .cleanup "frame" _) = true ∧
      (cleaning.strand 0).control.isLeaving = false ∧ cleaning.machine.ended = none ∧
      ((reported.strand 0).control matches .exiting (some _)) = true ∧
      (reported.takeTurns [0, 0]).machine.ended = some (.exited 1) := by
  intro throwing cleaning reported
  refine ⟨?_, ?_, ?_, ?_, ?_, ?_, ?_, ?_⟩ <;> decide +kernel

end Scenario.State
end ManagedRuntime
