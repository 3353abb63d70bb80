import ManagedRuntime.Proofs.Scenario.Exits
import ManagedRuntime.Proofs.Scenario.Parallel

/-! A thread that runs goes on running while its turns change nothing that threads wait for. So a
thread that has reported an exception exits before any other has a turn. -/
namespace ManagedRuntime.Scenario
open Exception

/-- What decides whether a thread can go on, wherever it is in its code. -/
def Thread.plight (thread : Thread) : Thread :=
  { thread with told := [], strand := { control := .returned } }

namespace State

/-- Whatever threads wait for is as it was. -/
structure SamePlight (before after : State) : Prop where
  heap : after.machine.heap = before.machine.heap
  clock : after.clock = before.clock
  threads : after.threads.map Thread.plight = before.threads.map Thread.plight
  died : ∀ index, after.hasDied index = before.hasDied index

theorem SamePlight.isReady {before after : State} (same : SamePlight before after) (index : Nat) :
    after.isReady index (after.thread index) = before.isReady index (before.thread index) := by
  obtain ⟨heap, clock, threads, died⟩ := same
  have plight (index : Nat) : (after.thread index).plight = (before.thread index).plight :=
    view_of_map threads index
  have size : after.threads.size = before.threads.size := by
    simpa using congrArg Array.size threads
  have completion (index : Nat) :
      (after.thread index).completion = (before.thread index).completion :=
    (congrArg Thread.completion (plight index) :)
  have job (index : Nat) : (after.thread index).job = (before.thread index).job :=
    (congrArg Thread.job (plight index) :)
  have finished : after.isFinished = before.isFinished := by
    funext index
    simp only [isFinished, job]
  have gone : after.isGone = before.isGone := by
    funext index
    simp only [isGone, completion]
  have out : after.isOut = before.isOut := by
    funext index
    simp only [isOut, died, gone]
  have waiting : (after.thread index).waiting = (before.thread index).waiting :=
    (congrArg Thread.waiting (plight index) :)
  have token : (after.thread index).token = (before.thread index).token :=
    (congrArg Thread.token (plight index) :)
  have inbox : (after.thread index).inbox = (before.thread index).inbox :=
    (congrArg Thread.inbox (plight index) :)
  have toldToEnd : (after.thread index).toldToEnd = (before.thread index).toldToEnd :=
    (congrArg Thread.toldToEnd (plight index) :)
  simp only [State.isReady, waiting, token, inbox, toldToEnd, Machine.monitorPhase, heap, isPast,
    clock, completion, gone, finished, out, finishedJobs, size]
  rfl

theorem flushJournal_keeps {β : Type} (view : State → β) (state : State) (me : Nat)
    (keeps : ∀ (early : State) entry, view (early.tellEntry me entry) = view early) :
    view (state.flushJournal me) =
      view { state with machine := { state.machine with journal := [] } } := by
  have told (records : List LogRecord) (early : State) : view (records.foldl
      (fun told record => told.tellEntry me (state.logEntry me record)) early) = view early := by
    induction records generalizing early with
    | nil => rfl
    | cons record rest ih => rw [List.foldl_cons, ih, keeps]
  exact told ..

theorem hasDied_of_strand {before after : State} {index : Nat}
    (same : after.strand index = before.strand index) :
    after.hasDied index = before.hasDied index := by
  have control : (after.thread index).strand.control = (before.thread index).strand.control :=
    congrArg Strand.control same
  simp only [hasDied, control]

theorem hasDied_eq_false {state : State} {index : Nat}
    (lives : ∀ payload, (state.strand index).control ≠ .died payload) :
    state.hasDied index = false := by
  unfold hasDied
  split
  · next payload died => exact absurd died (lives payload)
  · rfl

theorem clock_flushJournal (state : State) (me : Nat) :
    (state.flushJournal me).clock = state.clock :=
  flushJournal_keeps (·.clock) state me fun _ _ => rfl

theorem running_flushJournal (state : State) (me : Nat) :
    (state.flushJournal me).running = state.running :=
  flushJournal_keeps (·.running) state me fun _ _ => rfl

theorem plight_flushJournal (state : State) (me : Nat) :
    (state.flushJournal me).threads.map Thread.plight = state.threads.map Thread.plight := by
  refine flushJournal_keeps (·.threads.map Thread.plight) state me fun early entry => ?_
  have same : (early.tellEntry me entry).seen Thread.plight = early.seen Thread.plight := by
    refine seen_updateThread ?_
    exact fun _ => rfl
  exact congrArg Prod.fst same

/-- Of what threads see only the process has changed, and of that not the memory. -/
structure OnlyHeard (before after : State) : Prop where
  heap : after.machine.heap = before.machine.heap
  clock : after.clock = before.clock
  running : after.running = before.running
  threads : after.threads.map Thread.plight = before.threads.map Thread.plight
  strands : after.strands = before.strands

theorem OnlyHeard.trans {first middle last : State} (early : OnlyHeard first middle)
    (late : OnlyHeard middle last) : OnlyHeard first last :=
  ⟨late.heap.trans early.heap, late.clock.trans early.clock, late.running.trans early.running,
    late.threads.trans early.threads, late.strands.trans early.strands⟩

theorem onlyHeard_setMachine (state : State) (me : Nat) {machine : Machine}
    (heap : machine.heap = state.machine.heap) :
    OnlyHeard state ((state.setMachine machine).flushJournal me) where
  heap := (congrArg Machine.heap (machine_flushJournal _ me)).trans heap
  clock := clock_flushJournal ..
  running := running_flushJournal ..
  threads := plight_flushJournal ..
  strands := congrArg Prod.fst (core_flushJournal (state.setMachine machine) me)

section
variable {state later : State} {me : Nat} {strand : Strand Instruction Site}
variable (stepped : (state.strand me).step (host me) state = (strand, later))
include stepped

theorem stepThread_of_alive (stays : ∀ payload, strand.control ≠ .died payload) :
    state.stepThread me = later.updateThread me fun thread => { thread with strand } := by
  let moved := later.updateThread me fun thread => { thread with strand }
  have turn : state.stepThread me = moved.buryThread me := by
    unfold stepThread
    exact congrArg (fun moment => (moment.2.updateThread me fun thread =>
      { thread with strand := moment.1 }).buryThread me) stepped
  have same : (state.stepThread me).strand me = moved.strand me := by
    rw [strand_eq, strand_eq, turn]
    exact congrArg (·.getD me absent) (congrArg Prod.fst (core_buryThread moved me))
  have lives : moved.hasDied me = false := by
    refine hasDied_eq_false ?_
    rwa [← same, strand_stepThread, stepped]
  rw [turn, buryThread, lives]
  rfl

variable (heard : OnlyHeard state later)
include heard

/-- Where the others are after a step that only the process hears. -/
theorem strand_of_heard {index : Nat} (other : index ≠ me) :
    (state.stepThread me).strand index = state.strand index := by
  refine strand_of_kept ?_ other
  rw [stepped]
  exact heard.strands

/-- A turn of which only the process hears is nothing that threads wait for. -/
theorem samePlight_of_heard (lives : ∀ payload, (state.strand me).control ≠ .died payload)
    (stays : ∀ payload, strand.control ≠ .died payload) :
    SamePlight state (state.stepThread me) := by
  have turn := stepThread_of_alive stepped stays
  refine ⟨?_, ?_, ?_, fun index => ?_⟩
  · rw [turn]
    exact heard.heap
  · rw [turn]
    exact heard.clock
  · rw [turn]
    refine Eq.trans (congrArg Prod.fst (seen_updateThread ?_)) heard.threads
    exact fun _ => rfl
  · by_cases own : index = me
    · subst own
      have still : ∀ payload, ((state.stepThread index).strand index).control ≠ .died payload := by
        rwa [strand_stepThread, stepped]
      rw [hasDied_eq_false lives, hasDied_eq_false still]
    · exact hasDied_of_strand (strand_of_heard stepped heard own)

end

/-- The thread has its turn, and will have the next one unless it gives it away. -/
structure OnTurn (me : Nat) (state : State) : Prop where
  running : state.running = me
  going : state.isOver = false
  ready : state.isReady me (state.thread me) = true

theorem advance_of_onTurn {state : State} {me : Nat} (turn : OnTurn me state)
    (active : isActive (state.thread me) = true) : state.advance = state.stepThread me := by
  obtain ⟨rfl, going, ready⟩ := turn
  have chosen : state.choose = some state.running := by
    simp only [choose, canRun, active, ready, Bool.and_self, if_true]
  simp only [advance, going, chosen, Bool.false_eq_true, if_false]

theorem onTurn_of_choose {state : State} {me : Nat} (going : state.isOver = false)
    (chosen : state.choose = some me) : OnTurn me { state with running := me } := by
  refine ⟨rfl, going, ?_⟩
  have able : state.canRun me = true := by
    unfold choose at chosen
    split at chosen
    · next able => rwa [Option.some.inj chosen] at able
    · exact List.find?_some chosen
  exact (Bool.and_eq_true _ _ ▸ able).2

theorem isActive_of_exiting {state : State} {me : Nat} {held : Option ExceptionRecord}
    (control : (state.strand me).control = .exiting held) : isActive (state.thread me) = true := by
  have control : (state.thread me).strand.control = .exiting held := control
  simp only [isActive, control]

/-- A thread that is about to exit keeps its turn. -/
theorem OnTurn.next {state later : State} {me : Nat} {strand : Strand Instruction Site}
    {held : Option ExceptionRecord} (turn : OnTurn me state)
    (stepped : (state.strand me).step (host me) state = (strand, later))
    (heard : OnlyHeard state later) (alive : later.machine.ended = state.machine.ended)
    (lives : ∀ payload, (state.strand me).control ≠ .died payload)
    (exits : strand.control = .exiting held) : OnTurn me (state.stepThread me) := by
  have stays : ∀ payload, strand.control ≠ .died payload := by
    rw [exits]
    rintro payload ⟨⟩
  have same := samePlight_of_heard stepped heard lives stays
  have moved := stepThread_of_alive stepped stays
  obtain ⟨here, going, ready⟩ := turn
  refine ⟨?_, ?_, (same.isReady me).trans ready⟩
  · rw [moved]
    exact heard.running.trans here
  · have ended : (state.stepThread me).machine.ended = state.machine.ended := by
      rw [moved]
      exact alive
    simp only [isOver, Bool.or_eq_false_iff, ended] at going ⊢
    refine ⟨going.1, ?_⟩
    by_cases first : 0 = me
    · subst first
      have control : ((state.stepThread 0).strand 0).control = .exiting held := by
        rw [strand_stepThread, stepped, exits]
      rw [isActive_of_exiting control]
      rfl
    · have other : ((state.stepThread me).thread 0).strand = (state.thread 0).strand :=
        strand_of_heard stepped heard first
      have kept := going.2
      simp only [isActive] at kept ⊢
      rwa [other]

/-- What is reported is released next, and the process exits, before another thread has a turn. -/
theorem advance_of_reported {state : State} {me : Nat} {record : ExceptionRecord}
    (turn : OnTurn me state) (control : (state.strand me).control = .exiting (some record)) :
    state.advance = state.stepThread me ∧
      state.advance.advance = (state.stepThread me).stepThread me := by
  have released_turn : OnTurn me (state.stepThread me) := by
    refine turn.next (Strand.step_held control) ?_ ?_ ?_ rfl
    · exact onlyHeard_setMachine state me (Machine.heap_log ..)
    · exact (congrArg Machine.ended (machine_flushJournal _ me)).trans (Machine.ended_log ..)
    · rw [control]
      rintro payload ⟨⟩
  have first := advance_of_onTurn turn (isActive_of_exiting control)
  refine ⟨first, ?_⟩
  rw [first]
  exact advance_of_onTurn released_turn (isActive_of_exiting (releasesNext control).control)

end State
end ManagedRuntime.Scenario
