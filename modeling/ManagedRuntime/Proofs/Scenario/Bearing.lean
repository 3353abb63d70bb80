import ManagedRuntime.Proofs.Scenario.Outlook

/-! What lasts of a thread: the name it was given first and whether it is over. Few instructions
touch either, and they touch it on their own thread or on one that they start. -/
namespace ManagedRuntime.Scenario
open Exception

def Thread.bearing (thread : Thread) : Option String × Bool :=
  (thread.ownName, thread.completion.done)

instance : Blind Thread.bearing :=
  { told := fun _ _ => rfl, waiting := fun _ _ => rfl, token := fun _ _ => rfl
    scratch := fun _ _ => rfl, job := fun _ _ => rfl
    inbox := fun _ _ => rfl, toldToEnd := fun _ _ => rfl
    callers := fun _ _ same => Prod.ext rfl same }

namespace State

def bearing (state : State) (index : Nat) : Option String × Bool := (state.thread index).bearing

theorem bearing_eq (state : State) (index : Nat) :
    state.bearing index = (state.threads.map Thread.bearing).getD index (none, false) := by
  simp only [bearing, thread, Array.getD_eq_getD_getElem?, Array.getElem?_map]
  cases state.threads[index]? <;> rfl

theorem bearing_congr {before after : State}
    (same : after.threads.map Thread.bearing = before.threads.map Thread.bearing) :
    after.bearing = before.bearing :=
  funext (view_of_map same)

theorem bearing_of_seen {before after : State}
    (same : after.seen Thread.bearing = before.seen Thread.bearing) :
    after.bearing = before.bearing :=
  bearing_congr (congrArg Prod.fst same)

section
variable (state : State) (me : Nat)

theorem bearing_updateThread (change : Thread → Thread) (known : me < state.threads.size) :
    (state.updateThread me change).bearing =
      Function.update state.bearing me (change (state.thread me)).bearing := by
  funext index
  simp only [bearing, thread_updateThread state change known, Function.update_apply]
  split <;> rfl

/-- The first name a thread is given stays. -/
theorem bearing_setOwnName (name : String) (known : me < state.threads.size) :
    (state.setOwnName me name).2.bearing = Function.update state.bearing me
      ((state.bearing me).1.or (some name), (state.bearing me).2) := by
  unfold setOwnName
  split
  · next given named =>
    have same : ((state.bearing me).1.or (some name), (state.bearing me).2) = state.bearing me := by
      simp [bearing, Thread.bearing, named]
    rw [same, Function.update_eq_self]
  · next unnamed =>
    let asked := state.tokenToWord me (state.machine.wordsRecords .trace)
    have before : asked.2.bearing = state.bearing := bearing_of_seen (seen_tokenToWord state me _)
    have known : me < asked.2.threads.size := by
      simpa [asked, tokenToWord, updateThread] using known
    have own : (state.bearing me).1 = none := unnamed
    have named := bearing_updateThread asked.2 me
      (fun thread => { thread with ownName := some name }) known
    rw [own, ← before]
    exact named

theorem bearing_setName (name : String) (known : me < state.threads.size) :
    (state.setName me name).bearing = Function.update state.bearing me
      ((state.bearing me).1.or (some name), (state.bearing me).2) :=
  (bearing_of_seen (seen_tell ..)).trans (bearing_setOwnName state me name known)

/-- A program that is started names its thread. -/
theorem bearing_startUp (arguments : List (List UInt8)) (count : Nat)
    (known : me < state.threads.size) :
    (state.startUp me arguments count).2.bearing = Function.update state.bearing me
      ((state.bearing me).1.or (some "main"), (state.bearing me).2) := by
  have named :=
    bearing_setOwnName (state.setMachine (state.machine.beginStart count)) me "main" known
  obtain ⟨r, -, taken⟩ := (state.namedMain me count).takeArguments_eq me arguments count
  rw [startUp_snd, taken, bearing_of_seen (seen_flushJournal ..)]
  refine (bearing_of_seen (seen_updateThread ?_)).trans named
  exact fun _ => rfl

/-- Threads that are new have no name and are not over. -/
theorem bearing_stress (r : Ref) (index threads times : Nat) (counts : Counts) :
    (state.stress me r index threads times counts).2.2.bearing = state.bearing :=
  funext (view_stress state me r index threads times counts rfl)

/-- A managed thread has the name that was meant for it from the start. -/
theorem bearing_spawn (label : String) (name : Option String) (managed asked : Bool) :
    (state.spawn me label name managed asked).bearing =
      Function.update state.bearing state.threads.size
        (if managed then name else none, false) := by
  let started : State := state.withThread me label name managed
  have before : started.bearing = state.bearing :=
    funext (view_withThread state me label name managed rfl)
  have unknown : state.bearing state.threads.size = (none, false) := by
    simp [bearing_eq]
  have known : state.threads.size < started.threads.size := by simp [started, withThread]
  have named : (started.nameStarted state.threads.size managed name).bearing =
      Function.update state.bearing state.threads.size
        (if managed then name else none, false) := by
    have unnamed : started.bearing =
        Function.update state.bearing state.threads.size (none, false) := by
      rw [before, ← unknown, Function.update_eq_self]
    cases managed with
    | false => cases name <;> exact unnamed
    | true =>
      cases name with
      | none => exact unnamed
      | some name =>
        refine (bearing_setOwnName started _ name known).trans ?_
        rw [before, unknown]
        rfl
  exact (bearing_of_seen (seen_spawn ..)).trans named

theorem bearing_leaveThread (known : me < state.threads.size) :
    (state.leaveThread me).bearing = Function.update state.bearing me
      ((state.bearing me).1, (state.thread me).completion.finish.done) :=
  bearing_updateThread state me _ known

end

end State
end ManagedRuntime.Scenario
