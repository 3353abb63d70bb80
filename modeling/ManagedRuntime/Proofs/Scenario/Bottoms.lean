import ManagedRuntime.Proofs.Exception.Bottom
import ManagedRuntime.Proofs.Scenario.Course

/-! Bottoms of managed stacks in a process. What runs above a bottom returns, or its thread stops
there: with one report, with a trap, or for a reason of its own. -/
namespace ManagedRuntime.Scenario
open Exception

/-- The bottom of a program that is started, with what follows the start. -/
def entryBottom (route : Route) (todo : List Step) (outer : List (Frame Instruction Site)) :
    Bottom Instruction Site :=
  ⟨.entry, .act (.started route) :: todo, outer⟩

/-- The bottom of a managed thread. -/
def threadBottom : Bottom Instruction Site := ⟨.threadBottom, [.act .leaveThread], []⟩

/-- The thread is about to run a body above the bottom; a program may still have to be prepared. -/
inductive Ahead (bottom : Bottom Instruction Site) : Strand Instruction Site → Prop
  | entering (body : List Step) (counts : Counts) :
      Ahead bottom ⟨.run (.outermost bottom.site body :: bottom.rest), bottom.outer, counts⟩
  | preparing (arguments : List (List UInt8)) (count : Nat) (name : Option String) (route : Route)
      (body todo : List Step) (outer : List (Frame Instruction Site)) (counts : Counts)
      (same : bottom = entryBottom route todo outer) :
      Ahead bottom ⟨.run (.act (.start arguments count name route body) :: todo), outer, counts⟩

namespace State

/-- At some moment of a run the body above the bottom has returned, and the thread has gone on. -/
structure Passed (me : Nat) (bottom : Bottom Instruction Site) (first last : State)
    (history : List Mark) : Prop where
  middle : ∃ middle before after, Runs Course first before middle ∧
    middle.machine.ended = none ∧ bottom.Returned (middle.strand me) ∧
    Runs Course (middle.stepThread me) after last ∧ history = before ++ (middle.marksOf me ++ after)

/-- How a body above a bottom has fared in a run. -/
inductive Fate (me : Nat) (bottom : Bottom Instruction Site) (first last : State)
    (history : List Mark) : Prop
  | ahead (near : Ahead bottom (last.strand me))
  | inside (holds : bottom.Holds (last.strand me))
  /-- The thread has reported an exception above the bottom or at it, and is to exit. -/
  | leaving (record : ExceptionRecord) (leaving : Leaving me record last)
  /-- The thread stopped above the bottom or at it, and the process has ended. -/
  | stopped (stopped : (last.strand me).control = .halted) (ended : last.machine.ended ≠ none)
  | passed (passed : Passed me bottom first last history)

section
variable {me : Nat} {bottom : Bottom Instruction Site} {first state last : State}
  {history : List Mark}

theorem Passed.next (passed : Passed me bottom first state history)
    (course : Course state now last) : Passed me bottom first last (history ++ now) := by
  obtain ⟨middle, before, after, early, alive, returned, late, rfl⟩ := passed
  refine ⟨middle, before, after ++ now, early, alive, returned, late.next course, ?_⟩
  simp only [List.append_assoc]

theorem Passed.of_returned (run : Runs Course first history state)
    (alive : state.machine.ended = none) (returned : bottom.Returned (state.strand me)) :
    Passed me bottom first (state.stepThread me) (history ++ state.marksOf me) := by
  refine ⟨state, history, [], run, alive, returned, .start _, ?_⟩
  rw [List.append_nil]

theorem moving_of_ahead {strand : Strand Instruction Site} (near : Ahead bottom strand) :
    strand.control.isMoving = true := by
  cases near <;> rfl

/-- A thread that moves is where it was after the turn of another. -/
theorem strand_of_other {other : Nat} (moving : (state.strand me).control.isMoving = true)
    (different : me ≠ other) : (state.stepThread other).strand me = state.strand me := by
  rcases strand_stepThread_of_ne state other different with same | ⟨none, -⟩
  · exact same
  · rw [none] at moving
    contradiction

theorem ended_stepThread :
    (state.stepThread me).machine.ended =
      ((state.strand me).step (host me) state).2.machine.ended :=
  congrArg Machine.ended (machine_stepThread state me)

/-- A thread that moves stops with a report or together with the process. -/
theorem fate_of_leaving (moving : (state.strand me).control.isMoving = true)
    (leaves : ((state.strand me).step (host me) state).1.control.isLeaving = true) :
    Fate me bottom first (state.stepThread me) history := by
  cases Strand.step_fares (host me) state (state.strand me) moving with
  | goesOn goesOn => exact absurd leaves (Bool.eq_false_iff.mp goesOn.control)
  | reports counts record early reports =>
    refine .leaving record (.of_held ?_)
    rw [strand_stepThread]
    exact reports.control
  | stops halted stops =>
    refine .stopped ?_ ?_
    · rw [strand_stepThread]
      exact halted
    · rw [ended_stepThread]
      exact ended_of_stops stops

theorem ahead_step {strand : Strand Instruction Site} (near : Ahead bottom strand) (state : State) :
    Ahead bottom (strand.step (host me) state).1 ∨ bottom.Holds (strand.step (host me) state).1 ∨
      (strand.step (host me) state).1.control.isLeaving = true := by
  cases near with
  | entering body counts =>
    right
    left
    exact ⟨List.suffix_rfl, rfl⟩
  | preparing arguments count name route body todo outer counts same =>
    subst same
    simp only [Strand.step, Strand.enter, Strand.act, host, perform, startProgram_eq]
    by_cases stopped : (state.startUp me arguments count).2.machine.ended.isSome
    · right
      right
      simp only [stopped, if_true]
      rfl
    · left
      simp only [stopped]
      exact .entering (.act (.enterProgram name) :: body) counts

/-- A bottom is left in one way: its body returns. -/
theorem fate_of_course (run : Runs Course first history last)
    (near : Ahead bottom (first.strand me) ∨ bottom.Holds (first.strand me)) :
    Fate me bottom first last history := by
  induction run with
  | start =>
    rcases near with ahead | holds
    · exact .ahead ahead
    · exact .inside holds
  | next early course ih =>
    have alive := alive_of_course course
    cases ih with
    | stopped stopped ended => exact absurd alive ended
    | passed passed => exact .passed (passed.next course)
    | leaving record leaving =>
      cases course with
      | elapse | switch => exact .leaving record (leaving.of_same rfl)
      | step moved => exact .leaving record (leaving.step moved).1
    | ahead ahead =>
      cases course with
      | elapse | switch => exact .ahead ahead
      | step moved =>
        by_cases own : me = moved
        · subst own
          rcases ahead_step ahead _ with still | holds | leaves
          · exact .ahead (strand_stepThread _ me ▸ still)
          · exact .inside (strand_stepThread _ me ▸ holds)
          · exact fate_of_leaving (moving_of_ahead ahead) leaves
        · exact .ahead ((strand_of_other (moving_of_ahead ahead) own).symm ▸ ahead)
    | inside holds =>
      cases course with
      | elapse | switch => exact .inside holds
      | step moved =>
        by_cases own : me = moved
        · subst own
          rcases Bottom.step_cases (host me) _ holds with within | leaves | returned
          · exact .inside (strand_stepThread _ me ▸ within)
          · exact fate_of_leaving holds.moving leaves
          · exact .passed (.of_returned early alive returned)
        · exact .inside ((strand_of_other holds.moving own).symm ▸ holds)

/-! What the turn of the thread does when its body has come to an end. -/

/-- The exception is reported, once, and the thread exits: it has nothing else to do, and two turns
later the process ends with status 1, unless another thread has ended it by then. -/
structure ReportedAt (me : Nat) (record : ExceptionRecord) (before : State) : Prop where
  once : before.marksOf me = [.reported me]
  /-- No region further out is told of the exception. -/
  told : ((before.strand me).told (host me) before).map (·.2) = [.uncaught record]
  written : (before.stepThread me).machine.errors =
    before.machine.errors ++ utf8 (reportText (before.currentName me) record)
  headed : ∀ name, (before.thread me).ownName = some name → ∃ lines,
    reportText (before.currentName me) record =
      "Exception in thread \"" ++ name ++ "\"\n" ++ lines
  alive : (before.stepThread me).machine.ended = before.machine.ended
  control : ((before.stepThread me).strand me).control = .exiting (some record)
  leaves : ∀ {history last}, Runs Course (before.stepThread me) history last →
    .reported me ∉ history ∧ LeavesProcess me record last
  exits : (((before.stepThread me).stepThread me).stepThread me).machine.ended = some (.exited 1)

/-- The process traps, and nothing is reported. -/
structure Aborted (me : Nat) (before : State) : Prop where
  silent : before.marksOf me = []
  told : ((before.strand me).told (host me) before).map (·.2) = [.foreignAtBottom]
  traps : (before.stepThread me).machine =
    { before.machine.trap .foreignUnwind with journal := [] }

theorem reportedAt_of_escaped (escaped : bottom.Escaped (.managed record) (state.strand me)) :
    ReportedAt me record state := by
  have told := Bottom.told_escaped_managed (host me) state escaped
  have stepped := Bottom.step_escaped_managed (host me) state escaped
  have upcoming : (state.strand me).upcoming = none := by
    simp only [Strand.upcoming, escaped.control]
  have machine := machine_stepThread state me
  have control : ((state.stepThread me).strand me).control = .exiting (some record) := by
    rw [strand_stepThread, stepped]
  rw [stepped] at machine
  refine ⟨?_, ?_, ?_, ?_, ?_, control, ?_, ended_of_exiting control⟩
  · simp only [marksOf, namesGiven, upcoming, reportsMade, told]
    rfl
  · rw [told]
    rfl
  · rw [machine]
    exact errors_uncaught state me (state.strand me).counts.leaveRegion record
  · intro name own
    have current : state.currentName me = some name := by
      rw [currentName, own, Option.some_or]
    rw [current, reportText, headerLine_some]
    exact ⟨_, rfl⟩
  · rw [machine]
    exact ended_uncaught state me (state.strand me).counts.leaveRegion record
  · intro history last run
    exact leaves_of_course run (.of_held control)

theorem aborted_of_escaped (escaped : bottom.Escaped (.foreign message) (state.strand me)) :
    Aborted me state := by
  have told := Bottom.told_escaped_foreign (host me) state escaped
  have upcoming : (state.strand me).upcoming = none := by
    simp only [Strand.upcoming, escaped.control]
  have machine : (state.stepThread me).machine = _ :=
    (machine_stepThread state me).trans
      (congrArg (·.2.machine) (Bottom.step_escaped_foreign (host me) state escaped))
  constructor
  · simp only [marksOf, namesGiven, upcoming, reportsMade, told]
    rfl
  · rw [told]
    rfl
  · rw [machine]
    exact machine_flushJournal ..

theorem strand_of_returned (returned : bottom.Returned (state.strand me)) :
    (state.stepThread me).strand me =
      ⟨.run bottom.rest, bottom.outer, (state.strand me).counts.leaveRegion⟩ := by
  rw [strand_stepThread, Bottom.step_returned (host me) state returned]

theorem ended_of_returned (returned : bottom.Returned (state.strand me)) :
    (state.stepThread me).machine.ended = state.machine.ended := by
  rw [ended_stepThread, Bottom.step_returned (host me) state returned]
  simp only [host, hear]
  split
  · simp only [tell, tellEntry, updateThread, machine_flushJournal]
  · rfl

/-- The bottom counts as a region, so an exception thrown above it is on its way. -/
theorem sheltered_of_holds (holds : bottom.Holds (state.strand me)) :
    0 < regionsOn (state.strand me).frames := by
  have kept : regionsOn bottom.stack ≤ regionsOn (state.strand me).frames :=
    holds.above.sublist.countP_le
  have counts : regionsOn bottom.stack = regionsOn bottom.outer + 1 := regionsOn_outermost ..
  omega

/-! Programs that are started, and managed threads. -/

/-- A start that has returned has passed its bottom. -/
theorem passed_of_started (run : Runs Course first history last)
    (near : Ahead (entryBottom route todo outer) (first.strand me))
    (control : (last.strand me).control = .run todo) (frames : (last.strand me).frames = outer) :
    Passed me (entryBottom route todo outer) first last history := by
  cases fate_of_course run (.inl near) with
  | passed passed => exact passed
  | stopped stopped ended =>
    rw [stopped] at control
    contradiction
  | leaving record leaving =>
    have leaves := leaving.isLeaving
    rw [control] at leaves
    contradiction
  | inside holds =>
    have deeper := holds.deeper
    rw [frames] at deeper
    exact absurd deeper (Nat.lt_irrefl _)
  | ahead ahead =>
    have longer (code : List Step) : ¬(.run (code ++ .act (.started route) :: todo) :
        Control Instruction Site) = .run todo := by
      intro same
      have lengths := congrArg List.length (Control.run.inj same)
      simp only [List.length_append, List.length_cons] at lengths
      omega
    generalize last.strand me = strand at ahead control
    cases ahead with
    | entering body counts => exact absurd control (longer [_])
    | preparing arguments count name other body rest frames counts same =>
      obtain ⟨-, follows, -⟩ := Bottom.mk.inj same
      obtain ⟨-, rfl⟩ := List.cons.inj follows
      exact absurd (congrArg List.length (Control.run.inj control)) (Nat.succ_ne_self _)

/-- What a thread tells is the last entry of its account. -/
theorem told_tell (state : State) {me : Nat} (event : Event) (known : me < state.threads.size) :
    ((state.tell me event).thread me).told.head? =
      some ⟨(state.thread me).label, event⟩ := by
  have size : (state.flushJournal me).threads.size = state.threads.size :=
    congrArg Outlook.size (outlook_flushJournal state me)
  rw [tell, tellEntry, thread_updateThread _ _ (size.symm ▸ known), if_pos rfl]
  rfl

theorem told_updateThread (state : State) {me : Nat} {change : Thread → Thread}
    (keeps : ∀ thread, (change thread).told = thread.told) (index : Nat) :
    ((state.updateThread me change).thread index).told = (state.thread index).told := by
  by_cases known : me < state.threads.size
  · rw [thread_updateThread state change known]
    split
    · next own => rw [own, keeps]
    · rfl
  · rw [updateThread_of_unknown state change known]

/-- A turn adds to the account of its thread what the step tells. -/
theorem told_stepThread (state : State) (me : Nat) :
    ((state.stepThread me).thread me).told =
      (((state.strand me).step (host me) state).2.thread me).told := by
  have buried (state : State) :
      ((state.buryThread me).thread me).told = (state.thread me).told := by
    unfold buryThread
    split
    · refine told_updateThread state ?_ me
      exact fun _ => rfl
    · rfl
  refine (buried _).trans (told_updateThread _ ?_ me)
  exact fun _ => rfl

/-- A start that has passed its bottom says that it is over, and goes on. -/
theorem turn_started {counts : Counts} (alive : state.machine.ended = none)
    (stands : state.strand me = ⟨.run (.act (.started route) :: todo), outer, counts⟩) :
    ((state.stepThread me).strand me).control = .run todo ∧
      ((state.stepThread me).strand me).frames = outer ∧
      (state.stepThread me).machine.ended = none ∧
      ((state.stepThread me).thread me).told.head? = some ⟨(state.thread me).label,
        .started (if route = .entryPoint then some 0 else none)⟩ := by
  have next : (state.strand me).upcoming = some (.started route) := by
    rw [stands]
    rfl
  have known := known_of_upcoming state me next
  have told : (state.started me route).machine.journal = [] := by
    simp only [started_eq, tell, tellEntry, updateThread, machine_flushJournal]
  have goesOn : (state.started me route).machine.ended = none := by
    simp only [started_eq, tell, tellEntry, updateThread, machine_flushJournal, setMachine]
    exact (Machine.ended_log ..).trans alive
  have stepped : (state.strand me).step (host me) state =
      (⟨.run todo, outer, counts⟩, state.started me route) := by
    rw [stands]
    simp only [Strand.step, Strand.enter, Strand.act, host, perform, done,
      flushJournal_of_empty _ me told, goesOn]
    rfl
  refine ⟨?_, ?_, ?_, ?_⟩
  · rw [strand_stepThread, stepped]
  · rw [strand_stepThread, stepped]
  · rw [ended_stepThread, stepped]
    exact goesOn
  · rw [told_stepThread, stepped]
    rw [started_eq]
    exact told_tell _ _ known

/-- A turn of a thread above its bottom, or before it, does not say that the thread is over. -/
theorem upcoming_above (near : Ahead bottom (state.strand me) ∨ bottom.Holds (state.strand me))
    (orderly : ∀ height, .stopped me height ∈ state.marksOf me → height = 0) :
    (state.strand me).upcoming ≠ some .leaveThread := by
  intro leaves
  rcases near with ahead | holds
  · generalize state.strand me = strand at ahead leaves
    cases ahead with
    | entering body counts => contradiction
    | preparing arguments count body counts => simp [Strand.upcoming] at leaves
  · have marked : .stopped me (state.strand me).frames.length ∈ state.marksOf me := by
      rw [marksOf, namesGiven, leaves]
      exact List.mem_append_left _ (List.mem_singleton_self _)
    have deeper := holds.deeper
    rw [orderly _ marked] at deeper
    exact absurd deeper (Nat.not_lt_zero _)

/-- A thread that is over has passed its bottom, if nothing above the bottom says so instead. -/
theorem passed_of_done (run : Runs Course first history last)
    (near : Ahead bottom (first.strand me) ∨ bottom.Holds (first.strand me))
    (fresh : (first.bearing me).2 = false)
    (orderly : ∀ height, .stopped me height ∈ history → height = 0)
    (stopped : (last.bearing me).2 = true) : Passed me bottom first last history := by
  induction run with
  | start => exact absurd (fresh.symm.trans stopped) Bool.false_ne_true
  | @next before state now last early course ih =>
    have before_orderly (height : Nat) (marked : .stopped me height ∈ before) : height = 0 :=
      orderly height (List.mem_append_left _ marked)
    by_cases already : (state.bearing me).2 = true
    · exact (ih before_orderly already).next course
    · have fate := fate_of_course (early.next course) near
      have alive := alive_of_course course
      cases course with
      | elapse | switch => exact absurd stopped already
      | step moved =>
        rcases done_turn state moved stopped with earlier | ⟨rfl, leaves | ⟨payload, died⟩⟩
        · exact absurd earlier already
        · have now_orderly (height : Nat) (marked : .stopped me height ∈ state.marksOf me) :
              height = 0 := orderly height (List.mem_append_right _ marked)
          cases fate_of_course early near with
          | stopped stopped ended => exact absurd alive ended
          | passed passed => exact passed.next (.step me alive)
          | leaving record leaving =>
            obtain ⟨todo, shape⟩ := Strand.eq_of_upcoming leaves
            have stays := leaving.isLeaving
            rw [shape] at stays
            contradiction
          | ahead ahead => exact absurd leaves (upcoming_above (.inl ahead) now_orderly)
          | inside holds => exact absurd leaves (upcoming_above (.inr holds) now_orderly)
        · have still : ((state.stepThread me).strand me).control.isMoving = false :=
            congrArg Control.isMoving died
          cases fate with
          | passed passed => exact passed
          | leaving record leaving =>
            have leaves := leaving.isLeaving
            rw [died] at leaves
            contradiction
          | stopped stopped ended => exact nomatch died.symm.trans stopped
          | ahead ahead => exact absurd (moving_of_ahead ahead) (Bool.eq_false_iff.mp still)
          | inside holds => exact absurd holds.moving (Bool.eq_false_iff.mp still)

/-! A managed thread when it is started. -/

theorem core_step (state : State) (me : Nat) :
    ((state.strand me).step (host me) state).2.core =
      ((state.strand me).performed (host me) state).core := by
  let same (early late : State) : Prop := late.core = early.core
  have heard : same _ _ := Strand.step_hears same (fun _ => rfl)
    (fun {_ _ _} first second => second.trans first)
    (fun counts signal state => core_hear state me counts signal) (state.strand me) state
  exact heard

theorem strand_spawned {label : String} {name : Option String} {managed asked : Bool}
    (next : (state.strand me).upcoming = some (.spawn label name managed asked)) :
    (state.stepThread me).strand state.threads.size =
      { control := .run (threadProgram managed) } := by
  have other : me ≠ state.threads.size := Nat.ne_of_lt (known_of_upcoming state me next)
  have performed : ((state.strand me).performed (host me) state).core =
      (state.strands.push { control := .run (threadProgram managed) }, state.records) := by
    simp only [Strand.performed, next]
    exact (core_done _ me _).trans (core_spawn state me label name managed asked)
  have strands : ((state.strand me).step (host me) state).2.strands =
      state.strands.push { control := .run (threadProgram managed) } :=
    congrArg Prod.fst ((core_step state me).trans performed)
  have size : state.strands.size = state.threads.size := Array.size_map
  rw [strand_eq, Array.getD_eq_getD_getElem?]
  have moved := congrArg Prod.fst (core_stepThread state me)
  simp only [core, strands] at moved
  rw [moved, Array.getElem?_setIfInBounds_ne other, ← size, Array.getElem?_push_size,
    Option.getD_some]

theorem bearing_spawned {label name : String} {asked : Bool}
    (next : (state.strand me).upcoming = some (.spawn label (some name) true asked)) :
    (state.stepThread me).bearing state.threads.size = (some name, false) := by
  have known := known_of_upcoming state me next
  have unknown : state.bearing state.threads.size = (none, false) := by simp [bearing_eq]
  refine Prod.ext ?_ ?_
  · rw [name_turn, unknown, firstName_marks, namesGiven, next]
    simp [Instruction.noted, firstName, Mark.name?]
  · refine Bool.eq_false_iff.mpr fun stopped => ?_
    rcases done_turn state me stopped with earlier | ⟨own, -⟩
    · rw [unknown] at earlier
      contradiction
    · omega

end

/-- What holds of a thread with a bottom on its stack. -/
structure Decides (me : Nat) (bottom : Bottom Instruction Site) (first : State) : Prop where
  /-- The bottom is left when its body has returned, and only then. -/
  returns : bottom.Left ((first.stepThread me).strand me) ↔ bottom.Returned (first.strand me)
  goesOn : bottom.Returned (first.strand me) → (first.stepThread me).machine.ended = none
  /-- What is thrown above the bottom is on its way, and not yet reported. -/
  thrown : ∀ name route todo,
    (first.strand me).control = .run (.act (.throw name route) :: todo) →
    first.machine.readSettings.1.unwind = .propagate →
    ∃ record, record.throwable = first.reference name ∧
      ((first.stepThread me).strand me).control = .unwind (.managed record) ∧
      ((first.stepThread me).strand me).frames = (first.strand me).frames ∧
      (first.stepThread me).machine.ended = none
  reports : ∀ record, bottom.Escaped (.managed record) (first.strand me) →
    ReportedAt me record first
  aborts : ∀ message, bottom.Escaped (.foreign message) (first.strand me) → Aborted me first

/-- What holds of a thread that is about to start a program, with `todo` behind it. -/
structure Starts (me : Nat) (route : Route) (todo : List Step)
    (outer : List (Frame Instruction Site)) (first : State) : Prop where
  /-- The name the thread has had before stays. -/
  named : ∀ {history last}, Runs Course (first.stepThread me) history last →
    (last.thread me).ownName = some ((first.thread me).ownName.getD "main")
  /-- The start returns only when the entry has returned. -/
  returns : ∀ {history last}, Runs Course first history last →
    (last.strand me).control = .run todo → (last.strand me).frames = outer →
    Passed me (entryBottom route todo outer) first last history
  /-- It does so then, and compiled code gets the status 0. -/
  succeeds : ∀ {history middle}, Runs Course first history middle →
    middle.machine.ended = none →
    (entryBottom route todo outer).Returned (middle.strand me) →
    let last := (middle.stepThread me).stepThread me
    (last.strand me).control = .run todo ∧ (last.strand me).frames = outer ∧
      last.machine.ended = none ∧ (last.thread me).told.head? = some
        ⟨((middle.stepThread me).thread me).label,
          .started (if route = .entryPoint then some 0 else none)⟩

/-- What holds of a managed thread that is about to be started by thread `me`. -/
structure Spawns (me child : Nat) (name : String) (first : State) : Prop where
  begins : Ahead threadBottom ((first.stepThread me).strand child)
  named : ∀ {history last}, Runs Course (first.stepThread me) history last →
    (last.thread child).ownName = some name
  /-- If nothing it is given to run says that the thread is over, it is so only when its body has
  returned. -/
  finishes : ∀ {history last}, Runs Course (first.stepThread me) history last →
    (∀ height, .stopped child height ∈ history → height = 0) →
    (last.thread child).completion.done = true →
    Passed child threadBottom (first.stepThread me) last history

theorem decides {bottom : Bottom Instruction Site} {first : State} {me : Nat}
    (counted : Counted (first.strand me)) (alive : first.machine.ended = none)
    (holds : bottom.Holds (first.strand me)) : Decides me bottom first where
  returns := by
    rw [strand_stepThread]
    exact Bottom.step_left_iff (host me) first holds
  goesOn returned := (ended_of_returned returned).trans alive
  thrown name route todo throwing propagates := by
    obtain ⟨record, memory, thrown, lands, goesOn⟩ :=
      throw_under_region counted throwing propagates (sheltered_of_holds holds)
    have moved : (first.stepThread me).strand me = _ :=
      (strand_stepThread first me).trans (congrArg Prod.fst lands)
    refine ⟨record, thrown, ?_, ?_, goesOn.trans alive⟩
    · rw [moved]
      rfl
    · rw [moved]
      rfl
  reports record escaped := reportedAt_of_escaped escaped
  aborts message escaped := aborted_of_escaped escaped

theorem starts {first : State} {me : Nat}
    (stands : first.strand me =
      ⟨.run (.act (.start arguments count name route body) :: todo), outer, counts⟩) :
    Starts me route todo outer first where
  named run := by
    have next : (first.strand me).upcoming =
        some (.start arguments count name route body) := by
      rw [stands]
      rfl
    have own : ((first.stepThread me).bearing me).1 =
        some ((first.thread me).ownName.getD "main") := by
      rw [name_turn, firstName_marks, namesGiven, next]
      have before : (first.bearing me).1 = (first.thread me).ownName := rfl
      rw [before]
      cases (first.thread me).ownName <;> simp [Instruction.noted, firstName, Mark.name?]
    have kept := name_of_course run me
    rw [own] at kept
    exact kept
  returns run control frames := by
    have near : Ahead (entryBottom route todo outer) (first.strand me) := by
      rw [stands]
      exact .preparing arguments count name route body todo outer counts rfl
    exact passed_of_started run near control frames
  succeeds run alive returned := by
    have next := turn_started ((ended_of_returned returned).trans alive)
      (strand_of_returned returned)
    exact next

theorem spawns {first : State} {me : Nat} {asked : Bool}
    (next : (first.strand me).upcoming = some (.spawn label (some name) true asked)) :
    Spawns me first.threads.size name first where
  begins := by
    rw [strand_spawned next]
    exact .entering [.act .nextJob] {}
  named run := by
    have kept := name_of_course run first.threads.size
    rw [bearing_spawned next] at kept
    exact kept
  finishes run orderly stopped := by
    have near : Ahead threadBottom ((first.stepThread me).strand first.threads.size) := by
      rw [strand_spawned next]
      exact .entering [.act .nextJob] {}
    exact passed_of_done run (.inl near) (congrArg Prod.snd (bearing_spawned next)) orderly stopped

/-- A program that is started inside a catch region, and throws. -/
def regionStart : List Step :=
  [.protect (.attempt .direct (some "caught") false)
    [.act (.start [] 0 none .entryPoint [.act (.throw "$null" .direct)])] []]

def regionStarted : State where
  machine := {}
  threads := #[{ strand := { control := .run regionStart } }]

/-- The moment at which the exception has left the entry. -/
def entryEscaped : State := regionStarted.takeTurns [0, 0, 0, 0, 0]

/-- An exception has come to the bottom of a stack. -/
def atBottom (strand : Strand Instruction Site) : Bool :=
  match strand.control, strand.frames with
  | .unwind (.managed _), .outermost _ _ :: _ => true
  | _, _ => false

end State
end ManagedRuntime.Scenario
