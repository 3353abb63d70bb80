import ManagedRuntime.Proofs.Scenario.Bearing
import ManagedRuntime.Proofs.Scenario.Endings

/-! The course of a process: turns of its threads while it lives, with the names they are given, the
reports they write and the moments they say that they are over. A thread reports once at most and
exits then, and no name but the first stays. -/
namespace ManagedRuntime.Scenario
open Exception

/-- What a turn leaves on record. -/
inductive Mark
  /-- The thread is told a name, which it takes if it has none. -/
  | named (thread : Nat) (name : String)
  /-- The thread says that it is over, with so many frames on its stack. -/
  | stopped (thread height : Nat)
  | reported (thread : Nat)
deriving DecidableEq

namespace Mark

/-- The name that the thread is told. -/
def name? (thread : Nat) : Mark → Option String
  | .named other name => if other = thread then some name else none
  | .stopped _ _ | .reported _ => none

end Mark

/-- The first name that a thread was told. -/
def firstName (thread : Nat) (history : List Mark) : Option String :=
  history.findSome? (Mark.name? thread)

theorem firstName_append (thread : Nat) (early late : List Mark) :
    firstName thread (early ++ late) = (firstName thread early).or (firstName thread late) :=
  List.findSome?_append

/-- Names that an instruction of thread `me` gives, and the end that it brings; a thread that it
starts is number `size`. -/
def Instruction.noted (me size height : Nat) : Instruction → List Mark
  | .setName name => [.named me name]
  | .start _ _ _ _ _ => [.named me "main"]
  | .spawn _ (some name) true _ => [.named size name]
  | .leaveThread => [.stopped me height]
  | _ => []

namespace State

def namesGiven (state : State) (me : Nat) : List Mark :=
  (state.strand me).upcoming.elim []
    (Instruction.noted me state.threads.size (state.strand me).frames.length)

def reportsMade (state : State) (me : Nat) : List Mark :=
  ((state.strand me).told (host me) state).filterMap fun point =>
    if point.2.isReport then some (.reported me) else none

/-- What a turn of thread `me` leaves on record. -/
def marksOf (state : State) (me : Nat) : List Mark := state.namesGiven me ++ state.reportsMade me

/-- Threads take turns in any order while the process lives. -/
inductive Course : State → List Mark → State → Prop
  | step (index : Nat) (alive : state.machine.ended = none) :
      Course state (state.marksOf index) (state.stepThread index)
  | elapse (clock : Nat) (alive : state.machine.ended = none) : Course state [] { state with clock }
  | switch (running : Nat) (alive : state.machine.ended = none) :
      Course state [] { state with running }

/-- The scheduler of a scenario runs a course. -/
theorem run_course (state : State) (fuel : Nat) :
    ∃ history, Runs Course state history (state.run fuel) :=
  runs_run (fun _ index alive => ⟨_, .step index alive⟩)
    (fun _ clock alive => ⟨_, .elapse clock alive⟩)
    (fun _ running alive => ⟨_, .switch running alive⟩) state fuel

theorem course_turn (course : Course state now after) : ∃ touched, Turn state touched after := by
  cases course with
  | step index => exact ⟨_, .step state index⟩
  | elapse clock => exact ⟨_, .elapse state clock⟩
  | switch running => exact ⟨_, .switch state running⟩

theorem turns_of_course (run : Runs Course start history last) :
    ∃ touched, Runs Turn start touched last := by
  induction run with
  | start => exact ⟨[], .start _⟩
  | next _ now ih =>
    obtain ⟨early, before⟩ := ih
    obtain ⟨late, turn⟩ := course_turn now
    exact ⟨early ++ late, before.next turn⟩

theorem alive_of_course (course : Course state now after) : state.machine.ended = none := by
  cases course with
  | step _ alive | elapse _ alive | switch _ alive => exact alive

/-! Names and ends of threads. -/

section
variable (state : State) (me : Nat)

theorem known_of_upcoming {instruction : Instruction}
    (next : (state.strand me).upcoming = some instruction) : me < state.threads.size := by
  by_contra unknown
  have none : state.strand me = absent := by
    simp only [strand, thread, Array.getD_eq_getD_getElem?,
      Array.getElem?_eq_none (Nat.le_of_not_lt unknown)]
    rfl
  rw [none] at next
  contradiction

theorem bearing_done (counts : Counts) : (done me counts state).2.2.bearing = state.bearing :=
  bearing_of_seen (seen_done state me counts)

theorem bearing_perform (counts : Counts) (height : Nat) {instruction : Instruction}
    (alone : instruction.startsThreads = false) (nameless : instruction.marksThread = false) :
    ((host me).perform counts height instruction state).2.2.bearing = state.bearing :=
  bearing_congr (map_perform state me counts height alone nameless)

/-- What an instruction does to the names of threads is on record. -/
theorem name_perform (known : me < state.threads.size) (counts : Counts) (height : Nat)
    (instruction : Instruction) (index : Nat) :
    (((host me).perform counts height instruction state).2.2.bearing index).1 =
      (state.bearing index).1.or
        (firstName index (instruction.noted me state.threads.size height)) := by
  have given (name : String) : (Function.update state.bearing me
      ((state.bearing me).1.or (some name), (state.bearing me).2) index).1 =
        (state.bearing index).1.or (firstName index [.named me name]) := by
    simp only [Function.update_apply, firstName, List.findSome?_cons, List.findSome?_nil,
      Mark.name?]
    by_cases own : index = me
    · subst own
      simp
    · simp [own, Ne.symm own]
  cases instruction with
  | setName name =>
    refine (congrArg (·.1) (congrFun (bearing_done ..) index)).trans ?_
    rw [bearing_setName state me name known]
    exact given name
  | start arguments count name route body =>
    simp only [host, perform, startProgram_eq]
    rw [bearing_startUp state me arguments count known]
    exact given "main"
  | leaveThread =>
    refine (congrArg (·.1) (congrFun (bearing_done ..) index)).trans ?_
    rw [bearing_leaveThread state me known]
    simp only [Function.update_apply]
    split
    · next own =>
      subst own
      simp [Instruction.noted, firstName, Mark.name?]
    · simp [Instruction.noted, firstName, Mark.name?]
  | spawn label name managed asked =>
    have unknown : state.bearing state.threads.size = (none, false) := by simp [bearing_eq]
    refine (congrArg (·.1) (congrFun (bearing_done ..) index)).trans ?_
    rw [bearing_spawn]
    simp only [Function.update_apply]
    by_cases fresh : index = state.threads.size
    · subst fresh
      cases managed <;> cases name <;>
        simp [unknown, Instruction.noted, firstName, Mark.name?]
    · cases managed <;> cases name <;>
        simp [fresh, Ne.symm fresh, Instruction.noted, firstName, Mark.name?]
  | stress name position threads times =>
    have same := bearing_stress state me (state.reference name) position threads times counts
    refine (congrArg (·.1) (congrFun same index)).trans ?_
    simp [Instruction.noted, firstName]
  | _ =>
    rw [bearing_perform state me counts height rfl rfl]
    simp [Instruction.noted, firstName]

/-- Only its own last instruction says that a thread is over. -/
theorem done_perform (known : me < state.threads.size) (counts : Counts) (height : Nat)
    {instruction : Instruction} {index : Nat}
    (stays : instruction = .leaveThread → index ≠ me) :
    (((host me).perform counts height instruction state).2.2.bearing index).2 =
      (state.bearing index).2 := by
  have kept (name : Option String) : (Function.update state.bearing me
      (name, (state.bearing me).2) index).2 = (state.bearing index).2 := by
    simp only [Function.update_apply]
    split
    · next own => rw [own]
    · rfl
  cases instruction with
  | setName name =>
    refine (congrArg (·.2) (congrFun (bearing_done ..) index)).trans ?_
    rw [bearing_setName state me name known]
    exact kept _
  | start arguments count name route body =>
    simp only [host, perform, startProgram_eq]
    rw [bearing_startUp state me arguments count known]
    exact kept _
  | leaveThread =>
    refine (congrArg (·.2) (congrFun (bearing_done ..) index)).trans ?_
    rw [bearing_leaveThread state me known, Function.update_of_ne (stays rfl)]
  | spawn label name managed asked =>
    have unknown : state.bearing state.threads.size = (none, false) := by simp [bearing_eq]
    refine (congrArg (·.2) (congrFun (bearing_done ..) index)).trans ?_
    rw [bearing_spawn]
    simp only [Function.update_apply]
    split
    · next fresh => rw [fresh, unknown]
    · rfl
  | stress name position threads times =>
    exact congrArg (·.2) (congrFun (bearing_stress ..) index)
  | _ => rw [bearing_perform state me counts height rfl rfl]

/-- Signals change neither. -/
theorem bearing_step :
    ((state.strand me).step (host me) state).2.bearing =
      ((state.strand me).performed (host me) state).bearing := by
  let same (early late : State) : Prop := late.seen Thread.bearing = early.seen Thread.bearing
  have heard : same _ _ := Strand.step_hears same (fun _ => rfl)
    (fun {_ _ _} first second => second.trans first)
    (fun counts signal state => seen_hear state me counts signal) (state.strand me) state
  exact bearing_of_seen heard

theorem name_performed (index : Nat) :
    (((state.strand me).performed (host me) state).bearing index).1 =
      (state.bearing index).1.or (firstName index (state.namesGiven me)) := by
  unfold Strand.performed namesGiven
  cases next : (state.strand me).upcoming with
  | none => simp [firstName]
  | some instruction =>
    exact name_perform state me (known_of_upcoming state me next) _ _ instruction index

theorem name_buryThread (index : Nat) :
    ((state.buryThread me).bearing index).1 = (state.bearing index).1 := by
  unfold buryThread
  split
  · by_cases known : me < state.threads.size
    · rw [bearing_leaveThread state me known, Function.update_apply]
      split
      · next own => rw [own]
      · rfl
    · rw [leaveThread, updateThread_of_unknown state _ known]
  · rfl

theorem firstName_marks (index : Nat) :
    firstName index (state.marksOf me) = firstName index (state.namesGiven me) := by
  have nameless : firstName index (state.reportsMade me) = none := by
    refine List.findSome?_eq_none_iff.mpr ?_
    intro mark made
    obtain ⟨point, -, reported⟩ := List.mem_filterMap.mp made
    split at reported
    · cases reported
      rfl
    · contradiction
  rw [marksOf, firstName_append, nameless, Option.or_none]

/-- A turn leaves every thread the name it has; to a thread without one it may give one. -/
theorem name_turn (index : Nat) :
    ((state.stepThread me).bearing index).1 =
      (state.bearing index).1.or (firstName index (state.marksOf me)) := by
  rw [firstName_marks, ← name_performed, ← bearing_step]
  refine (name_buryThread _ me index).trans ?_
  refine congrArg (·.1) (congrFun (bearing_of_seen (seen_updateThread ?_)) index)
  exact fun _ => rfl

/-- A thread is over by its own turn only: it says so, or a foreign unwind has left its last
frame. -/
theorem done_turn {index : Nat} (stopped : ((state.stepThread me).bearing index).2 = true) :
    (state.bearing index).2 = true ∨ index = me ∧
      ((state.strand me).upcoming = some .leaveThread ∨
        ∃ payload, ((state.stepThread me).strand me).control = .died payload) := by
  let stepped := ((state.strand me).step (host me) state).2.updateThread me fun thread =>
    { thread with strand := ((state.strand me).step (host me) state).1 }
  have turn : state.stepThread me = stepped.buryThread me := rfl
  have before : stepped.bearing = ((state.strand me).performed (host me) state).bearing := by
    rw [← bearing_step]
    refine bearing_of_seen (seen_updateThread ?_)
    exact fun _ => rfl
  have performed (other : ¬(index = me ∧ (state.strand me).upcoming = some .leaveThread)) :
      (stepped.bearing index).2 = (state.bearing index).2 := by
    rw [before, Strand.performed]
    cases next : (state.strand me).upcoming with
    | none => rfl
    | some instruction =>
      refine done_perform state me (known_of_upcoming state me next) _ _ ?_
      rintro rfl own
      exact other ⟨own, next⟩
  by_cases leaves : index = me ∧ (state.strand me).upcoming = some .leaveThread
  · exact .inr ⟨leaves.1, .inl leaves.2⟩
  · rw [turn] at stopped
    unfold buryThread at stopped
    split at stopped
    · next died =>
      by_cases own : index = me
      · refine .inr ⟨own, .inr ?_⟩
        have same : (state.stepThread me).strand me = stepped.strand me := by
          rw [strand_eq, strand_eq, turn]
          exact congrArg (·.getD me absent) (congrArg Prod.fst (core_buryThread stepped me))
        rw [same]
        unfold hasDied at died
        split at died
        · next payload at_end => exact ⟨payload, at_end⟩
        · contradiction
      · left
        rw [← performed leaves]
        by_cases known : me < stepped.threads.size
        · rwa [bearing_leaveThread stepped me known, Function.update_of_ne own] at stopped
        · rwa [leaveThread, updateThread_of_unknown stepped _ known] at stopped
    · left
      rw [← performed leaves]
      exact stopped

theorem reportsMade_of_silent (silent : ∀ point ∈ (state.strand me).told (host me) state,
    point.2.isReport = false) : state.reportsMade me = [] := by
  refine List.filterMap_eq_nil_iff.mpr ?_
  intro point member
  rw [silent point member]
  rfl

/-- A turn that writes a report writes one only, and its thread is to exit. -/
theorem reports_turn :
    state.reportsMade me = [] ∨ ∃ record, state.reportsMade me = [.reported me] ∧
      ((state.stepThread me).strand me).control = .exiting (some record) := by
  cases moving : (state.strand me).control.isMoving with
  | false =>
    left
    exact reportsMade_of_silent state me (Strand.silent_of_still (host me) state _ moving)
  | true =>
    cases Strand.step_fares (host me) state (state.strand me) moving with
    | goesOn goesOn => exact .inl (reportsMade_of_silent state me goesOn.silent)
    | stops halted stops => exact .inl (reportsMade_of_silent state me stops.silent)
    | reports counts record early reports =>
      refine .inr ⟨record, ?_, ?_⟩
      · rw [reportsMade, reports.told]
        rfl
      · rw [strand_stepThread]
        exact reports.control

end

/-- The first name a thread is given stays, whatever names it is told later. -/
theorem name_of_course (run : Runs Course start history last) (index : Nat) :
    (last.bearing index).1 = (start.bearing index).1.or (firstName index history) := by
  induction run with
  | start => simp [firstName]
  | next early now ih =>
    rw [firstName_append, ← Option.or_assoc, ← ih]
    cases now with
    | step me alive => exact name_turn _ me index
    | elapse | switch => simp [firstName, bearing, thread]

theorem not_report_of_given {state : State} {me moved : Nat} :
    .reported me ∉ state.namesGiven moved := by
  intro given
  unfold namesGiven at given
  cases next : (state.strand moved).upcoming with
  | none =>
    rw [next] at given
    contradiction
  | some instruction =>
    rw [next, Option.elim_some] at given
    unfold Instruction.noted at given
    split at given <;> simp at given

/-- No thread reports in the turn of another. -/
theorem not_report_of_other {state : State} {me moved : Nat} (other : me ≠ moved) :
    .reported me ∉ state.marksOf moved := by
  intro marked
  rcases List.mem_append.mp marked with given | made
  · exact not_report_of_given given
  · rcases reports_turn state moved with none | ⟨record, one, -⟩
    · rw [none] at made
      contradiction
    · rw [one] at made
      cases List.mem_singleton.mp made
      contradiction

theorem not_report_of_leaving {state : State} {me : Nat} {record : ExceptionRecord}
    (leaving : Leaving me record state) : .reported me ∉ state.marksOf me := by
  have still : (state.strand me).control.isMoving = false := by
    cases leaving with
    | holding control | released control | exited control => rw [control]; rfl
  have none := reportsMade_of_silent state me (Strand.silent_of_still (host me) state _ still)
  rw [marksOf, none, List.append_nil]
  exact not_report_of_given

/-- A thread that has reported an exception is on its way to make the process exit, or has done
so. -/
structure LeavesProcess (me : Nat) (record : ExceptionRecord) (last : State) : Prop where
  leaving : Leaving me record last
  ended : (last.strand me).control = .halted → last.machine.ended = some (.exited 1)

/-- A thread reports nothing, or it reports once and has nothing to do after it but to exit. -/
inductive ReportsOnce (me : Nat) (history : List Mark) (last : State) : Prop
  | silent (silent : .reported me ∉ history)
  | once (record : ExceptionRecord) (early late : List Mark)
      (marks : history = early ++ .reported me :: late) (before : .reported me ∉ early)
      (after : .reported me ∉ late) (leaves : LeavesProcess me record last)

theorem LeavesProcess.of_held {state : State} {me : Nat} {record : ExceptionRecord}
    (control : (state.strand me).control = .exiting (some record)) :
    LeavesProcess me record state :=
  ⟨.of_held control, fun halted => nomatch halted.symm.trans control⟩

theorem LeavesProcess.turn {state : State} {me : Nat} {record : ExceptionRecord}
    (leaves : LeavesProcess me record state) (alive : state.machine.ended = none) (moved : Nat) :
    LeavesProcess me record (state.stepThread moved) := by
  obtain ⟨leaving, ended⟩ := leaves
  refine ⟨(leaving.step moved).1, fun halted => ?_⟩
  have running : (state.strand me).control ≠ .halted := by
    intro stopped
    exact nomatch alive.symm.trans (ended stopped)
  by_cases own : me = moved
  · subst own
    cases leaving with
    | holding control next => exact nomatch halted.symm.trans next.control
    | released control next => exact next.ended
    | exited control => exact absurd control running
  · rcases strand_stepThread_of_ne state moved own with same | ⟨none, -⟩
    · exact absurd (same ▸ halted) running
    · have there := leaving.isLeaving
      rw [none] at there
      contradiction

/-- After its report a thread makes no other. -/
theorem leaves_of_course {record : ExceptionRecord} (run : Runs Course start history last)
    (leaves : LeavesProcess me record start) :
    .reported me ∉ history ∧ LeavesProcess me record last := by
  induction run with
  | start => exact ⟨List.not_mem_nil, leaves⟩
  | next early course ih =>
    obtain ⟨silent, before⟩ := ih
    cases course with
    | elapse | switch =>
      rw [List.append_nil]
      exact ⟨silent, before.leaving.of_same rfl, before.ended⟩
    | step moved alive =>
      refine ⟨fun marked => ?_, before.turn alive moved⟩
      rcases List.mem_append.mp marked with earlier | now
      · exact silent earlier
      · by_cases own : me = moved
        · subst own
          exact not_report_of_leaving before.leaving now
        · exact not_report_of_other own now

/-- A turn of a thread that has reported nothing: it may report now. -/
theorem reports_of_turn {state : State} {me : Nat} {before : List Mark}
    (silent : .reported me ∉ before) (moved : Nat) :
    ReportsOnce me (before ++ state.marksOf moved) (state.stepThread moved) := by
  have still (none : .reported me ∉ state.marksOf moved) :
      .reported me ∉ before ++ state.marksOf moved := by
    intro marked
    rcases List.mem_append.mp marked with earlier | now
    · exact silent earlier
    · exact none now
  by_cases own : me = moved
  · subst own
    rcases reports_turn state me with none | ⟨record, one, control⟩
    · refine .silent (still ?_)
      rw [marksOf, none, List.append_nil]
      exact not_report_of_given
    · refine .once record (before ++ state.namesGiven me) [] ?_ ?_ List.not_mem_nil
        (.of_held control)
      · rw [marksOf, one, List.append_assoc]
      · intro marked
        rcases List.mem_append.mp marked with earlier | given
        · exact silent earlier
        · exact not_report_of_given given
  · exact .silent (still (not_report_of_other own))

/-- Every thread reports once at most. -/
theorem reports_of_course (run : Runs Course start history last) (me : Nat) :
    ReportsOnce me history last := by
  induction run with
  | start => exact .silent List.not_mem_nil
  | @next _ _ now _ early course ih =>
    cases ih with
    | silent silent =>
      cases course with
      | step moved => exact reports_of_turn silent moved
      | elapse | switch =>
        rw [List.append_nil]
        exact .silent silent
    | once record before after marks first none leaves =>
      obtain ⟨quiet, leaves⟩ := leaves_of_course (.one course) leaves
      refine .once record before (after ++ now) ?_ first ?_ leaves
      · rw [marks, List.append_assoc, List.cons_append]
      · intro marked
        rcases List.mem_append.mp marked with earlier | later
        · exact none earlier
        · exact quiet later

end State
end ManagedRuntime.Scenario
