import ManagedRuntime.Proofs.Scenario.EndOfStack

/-! How a process ends with one of its threads. A thread of a scenario stops for good only together
with the process. -/
namespace ManagedRuntime.Scenario.State
open Exception

/-- An answer that stops the thread comes from a process that has ended. -/
structure StopsEnded (answer : Reply Instruction Site × Counts × State) : Prop where
  ended : answer.1 = .halted → answer.2.2.machine.ended ≠ none

section
variable (state : State) (me : Nat) (counts : Counts)

theorem stopsEnded_done : StopsEnded (done me counts state) := by
  constructor
  intro halted
  unfold done at halted ⊢
  dsimp only at halted ⊢
  split at halted
  · next stopped => exact Option.isSome_iff_ne_none.mp stopped
  · contradiction

theorem stopsEnded_settleMonitor (object : UInt64) (token : Token) (deadline : Option Nat)
    (finish : State → State) :
    StopsEnded (state.settleMonitor me object token deadline counts finish) := by
  unfold settleMonitor
  split
  · next stopped =>
    constructor
    intro _
    rw [machine_flushJournal]
    exact Option.isSome_iff_ne_none.mp stopped
  · split <;> exact ⟨nofun⟩

theorem stopsEnded_useMonitor (r : Ref) (verb : MonitorVerb) (route : Route)
    (finish : Token → State → State) :
    StopsEnded (state.useMonitor me r verb route counts finish) := by
  unfold useMonitor useMonitorAs resumeMonitor
  dsimp only
  split <;> exact stopsEnded_settleMonitor ..

theorem stopsEnded_invoke (r : Ref) (interface : Option UInt64) (index : Nat) (announced : Bool)
    (height : Nat) :
    StopsEnded (state.invoke me r interface index announced height counts) := by
  unfold invoke
  dsimp only
  split
  · exact ⟨nofun⟩
  · exact ⟨nofun⟩
  · exact ⟨nofun⟩
  · constructor
    intro _
    rw [machine_flushJournal]
    nofun
  · split <;> exact ⟨nofun⟩
  · exact ⟨nofun⟩

theorem stopsEnded_stress (r : Ref) (index threads times : Nat) :
    StopsEnded (state.stress me r index threads times counts) := by
  unfold stress
  split <;> exact ⟨nofun⟩

theorem stopsEnded_continueJoin (index : Nat) (deadline : Option Nat)
    (finish : Bool → State → State) :
    StopsEnded (state.continueJoin me index deadline counts finish) := by
  unfold continueJoin
  split <;> exact ⟨nofun⟩

theorem stopsEnded_joinThread (label : String) (limit : Option Nat)
    (finish : Bool → State → State) :
    StopsEnded (state.joinThread me label limit counts finish) := by
  unfold joinThread
  split
  · exact ⟨nofun⟩
  · split <;> exact stopsEnded_continueJoin ..

theorem stopsEnded_joinMany (label : String) (threads : Nat) (limit : Option Nat) :
    StopsEnded (state.joinMany me label threads limit counts) := by
  unfold joinMany
  split
  · exact ⟨nofun⟩
  · split <;> exact ⟨nofun⟩

theorem stopsEnded_settle (milliseconds : Nat) :
    StopsEnded (state.settle me milliseconds counts) := by
  unfold settle
  split <;> exact ⟨nofun⟩

theorem stopsEnded_assign (label verb : String) (patience : Nat) (steps : List Step) :
    StopsEnded (state.assign me label verb patience steps counts) := by
  unfold assign
  split
  · exact ⟨nofun⟩
  · split <;> exact ⟨nofun⟩

theorem stopsEnded_await (label : String) : StopsEnded (state.await me label counts) := by
  unfold await
  split
  · exact ⟨nofun⟩
  · split <;> exact ⟨nofun⟩

theorem stopsEnded_awaitFinished (count : Nat) :
    StopsEnded (state.awaitFinished me count counts) := by
  unfold awaitFinished
  split <;> exact ⟨nofun⟩

theorem stopsEnded_nextJob : StopsEnded (state.nextJob me counts) := by
  unfold nextJob
  dsimp only
  split
  · exact ⟨nofun⟩
  · split <;> exact ⟨nofun⟩

theorem stopsEnded_startProgram (arguments : List (List UInt8)) (count : Nat) (name : Option String)
    (route : Route) (body : List Step) :
    StopsEnded (state.startProgram me arguments count name route body counts) := by
  rw [startProgram_eq]
  refine ⟨fun halted => ?_⟩
  dsimp only at halted
  split at halted
  · next ended => exact Option.isSome_iff_ne_none.mp ended
  · cases halted

theorem stopsEnded_perform (height : Nat) (instruction : Instruction) :
    StopsEnded ((host me).perform counts height instruction state) := by
  cases instruction with
  | call | invoke => exact stopsEnded_invoke ..
  | stress => exact stopsEnded_stress ..
  | lock | unlock | monitor =>
    simp only [host, perform, monitorStep]
    exact stopsEnded_useMonitor ..
  | join | joinTimeout =>
    simp only [host, perform, join, joinTimeout]
    exact stopsEnded_joinThread ..
  | joinMany => exact stopsEnded_joinMany ..
  | settle => exact stopsEnded_settle ..
  | assign => exact stopsEnded_assign ..
  | await => exact stopsEnded_await ..
  | awaitFinished => exact stopsEnded_awaitFinished ..
  | nextJob => exact stopsEnded_nextJob ..
  | start => exact stopsEnded_startProgram ..
  | throw | rethrowLevel | foreign | raise => exact ⟨by rintro ⟨⟩⟩
  | raiseCaptured name =>
    simp only [host, perform]
    split <;> exact ⟨by rintro ⟨⟩⟩
  | _ => exact stopsEnded_done ..

end

/-- A thread that stops ends the process. -/
theorem ended_of_stops {strand : Strand Instruction Site}
    (stops : strand.Stops (host me) state) :
    (strand.step (host me) state).2.machine.ended ≠ none := by
  cases stops with
  | asked instruction next answer after quiet =>
    have stopped := (stopsEnded_perform state me strand.counts strand.frames.length
      instruction).ended
      answer
    rw [after]
    simpa only [Strand.performed, next] using stopped
  | foreign counts after told =>
    rw [after]
    simp only [host, hear, machine_flushJournal]
    rintro ⟨⟩
  | escaped counts after told =>
    rw [after]
    simp only [host, hear, machine_flushJournal]
    rintro ⟨⟩

end ManagedRuntime.Scenario.State
