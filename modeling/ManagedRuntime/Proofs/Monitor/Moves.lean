import Mathlib.Data.List.Basic
import ManagedRuntime.Proofs.Monitor.Phases
import ManagedRuntime.Proofs.Runs

/-! Everything that can happen to one monitor, in any order: threads call it and take their
steps, sleepers wake, and what wakes first is left open. Labels keep what each move brings about. -/
namespace ManagedRuntime.Monitor

/-- What happens to a thread. -/
inductive Happening
  | called (request : MonitorRequest)
  /-- An enter came to its end with the lock taken once more. -/
  | entered
  /-- The owner gave up one level of the lock by an exit. -/
  | left
  /-- Taken off the queue of waiting threads. -/
  | roused
  /-- A request of whatever kind came to its end. -/
  | returned
deriving DecidableEq, Repr

abbrev Log := List (Token × Happening)

/-- On its way through an enter. -/
def isEntering : MonitorPhase → Bool
  | .requested .enter | .inside .enter => true
  | phase => phase.entryDepth.isSome

/-- Waiting threads that are not waiting any more. -/
def roused (monitor after : Monitor) : Log :=
  (monitor.waiters.filter fun waiter => !after.waiters.contains waiter).map (·, .roused)

/-- What a step of `thread` brings about. An enter that overflows takes no lock. -/
def happenings (monitor : Monitor) (thread : Token) (note : Option MonitorNote)
    (after : Monitor) : Log :=
  (if isEntering (monitor.phase thread) ∧ after.phase thread = .idle ∧ note ≠ some .overflow then
    [(thread, .entered)] else []) ++
  (if monitor.phase thread = .inside .exit ∧ monitor.owner = thread then
    [(thread, .left)] else []) ++
  (if after.phase thread = .idle then [(thread, .returned)] else []) ++
  monitor.roused after

inductive Move : Monitor → Log → Monitor → Prop
  | call (real : thread ≠ nobody) (idle : monitor.phase thread = .idle) :
      Move monitor [(thread, .called request)] (monitor.begin thread request)
  | go (stepped : monitor.step thread = some (note, after)) :
      Move monitor (monitor.happenings thread note after) after
  /-- A waiting thread's time is over, or it wakes for no reason. -/
  | rouse (thread : Token) : Move monitor (monitor.roused (monitor.rouse thread))
      (monitor.rouse thread)
  /-- A contender wakes for no reason. -/
  | stir (thread : Token) : Move monitor [] (monitor.stir thread)
  /-- The order in which sleepers came does not bind the order in which they are woken. -/
  | requeue (contenders waiters : List Token) (contended : monitor.contenders.Perm contenders)
      (waited : monitor.waiters.Perm waiters) :
      Move monitor [] { monitor with contenders, waiters }

/-- Every way a step can go, with all that it changes. -/
inductive Advance (monitor : Monitor) (thread : Token) : Option MonitorNote → Monitor → Prop
  | notifyUnchecked (here : monitor.phase thread = .requested (.notify all false)) :
      Advance monitor thread none (monitor.setPhase thread (.notifying all))
  | latch (here : monitor.phase thread = .requested request) (free : monitor.latch = none) :
      Advance monitor thread none
        ({ monitor with latch := some thread }.setPhase thread (.inside request))
  | deepen (here : monitor.phase thread = .inside .enter) (owns : monitor.owner = thread)
      (fits : monitor.depth.toNat + 1 < UInt32.size) :
      Advance monitor thread none
        ({ monitor with latch := none, depth := monitor.depth + 1 }.setPhase thread .idle)
  | overflow (here : monitor.phase thread = .inside .enter) (owns : monitor.owner = thread)
      (full : UInt32.size ≤ monitor.depth.toNat + 1) :
      Advance monitor thread (some .overflow)
        ({ monitor with latch := none }.setPhase thread .idle)
  | approach (here : monitor.phase thread = .inside .enter) (other : monitor.owner ≠ thread) :
      Advance monitor thread none (monitor.setPhase thread (.acquiring 1 true))
  | leave (here : monitor.phase thread = .inside .exit) (owns : monitor.owner = thread)
      (last : monitor.depth - 1 = 0) :
      Advance monitor thread none
        ({ monitor with depth := monitor.depth - 1, owner := nobody }.setPhase thread .vacating)
  | rise (here : monitor.phase thread = .inside .exit) (owns : monitor.owner = thread)
      (more : monitor.depth - 1 ≠ 0) :
      Advance monitor thread none
        ({ monitor with latch := none, depth := monitor.depth - 1 }.setPhase thread .idle)
  | misuseExit (here : monitor.phase thread = .inside .exit) (other : monitor.owner ≠ thread) :
      Advance monitor thread (some (.misuse "exit" monitor.owner))
        ({ monitor with latch := none }.setPhase thread .idle)
  | giveUp (here : monitor.phase thread = .inside .wait) (owns : monitor.owner = thread) :
      Advance monitor thread none ({ monitor with owner := nobody, depth := 0 }.setPhase thread
        (.yielding monitor.depth))
  | misuseWait (here : monitor.phase thread = .inside .wait) (other : monitor.owner ≠ thread) :
      Advance monitor thread (some (.misuse "wait" monitor.owner))
        (monitor.setPhase thread (.parking none))
  | notifyChecked (here : monitor.phase thread = .inside (.notify all checked)) :
      Advance monitor thread note
        ({ monitor with latch := none }.setPhase thread (.notifying all))
  | take (depth : UInt32) (here : monitor.phase thread = .acquiring depth fresh)
      (free : monitor.owner = nobody) :
      Advance monitor thread (if fresh then some .entered else none)
        ({ monitor with latch := none, owner := thread, depth }.setPhase thread .idle)
  | contend (depth : UInt32) (here : monitor.phase thread = .acquiring depth fresh)
      (held : monitor.owner ≠ nobody) :
      Advance monitor thread none
        ({ monitor with latch := none, contenders := monitor.contenders ++ [thread] }.setPhase
          thread (.contending depth fresh))
  | retry (depth : UInt32) (here : monitor.phase thread = .summoned depth fresh)
      (free : monitor.latch = none) :
      Advance monitor thread none
        ({ monitor with latch := some thread }.setPhase thread (.acquiring depth fresh))
  | vacate (here : monitor.phase thread = .vacating) :
      Advance monitor thread (some .released)
        ({ monitor.summon with latch := none }.setPhase thread .idle)
  | yield (depth : UInt32) (here : monitor.phase thread = .yielding depth) :
      Advance monitor thread none (monitor.summon.setPhase thread (.parking (some depth)))
  | park (here : monitor.phase thread = .parking saved) :
      Advance monitor thread none
        ({ monitor with latch := none, waiters := monitor.waiters ++ [thread] }.setPhase
          thread (.parked saved))
  | reacquire (depth : UInt32) (here : monitor.phase thread = .roused (some depth))
      (free : monitor.latch = none) :
      Advance monitor thread none
        ({ monitor with latch := some thread }.setPhase thread (.acquiring depth false))
  | giveBack (here : monitor.phase thread = .roused none) (free : monitor.latch = none) :
      Advance monitor thread none (monitor.setPhase thread .idle)
  | rouseFirst (here : monitor.phase thread = .notifying false) :
      Advance monitor thread none (monitor.rouseFirst.setPhase thread .idle)
  | rouseAll (here : monitor.phase thread = .notifying true) :
      Advance monitor thread none (monitor.rouseAll.setPhase thread .idle)

theorem latched_eq_some {monitor after : Monitor}
    (stepped : monitor.latched thread next = some (note, after)) :
    monitor.latch = none ∧ note = none ∧
      after = { monitor with latch := some thread }.setPhase thread next := by
  unfold latched at stepped
  split at stepped
  · next free =>
    cases stepped
    exact ⟨free, rfl, rfl⟩
  · contradiction

theorem examine_advance {monitor : Monitor} (here : monitor.phase thread = .inside request) :
    Advance monitor thread (monitor.examine thread request).1
      (monitor.examine thread request).2 := by
  cases request with
  | enter =>
    simp only [examine]
    split
    · next owns =>
      split
      · next fits => exact .deepen here owns fits
      · next full => exact .overflow here owns (Nat.le_of_not_lt full)
    · next other => exact .approach here other
  | exit =>
    simp only [examine]
    split
    · next owns =>
      split
      · next last => exact .leave here owns last
      · next more => exact .rise here owns more
    · next other => exact .misuseExit here other
  | wait =>
    simp only [examine]
    split
    · next owns => exact .giveUp here owns
    · next other => exact .misuseWait here other
  | notify all checked =>
    simp only [examine]
    split <;> exact .notifyChecked here

theorem step_advance {monitor after : Monitor}
    (stepped : monitor.step thread = some (note, after)) : Advance monitor thread note after := by
  cases here : monitor.phase thread with
  | idle | contending | parked => simp [step, here] at stepped
  | requested request =>
    by_cases unchecked : ∃ all, request = .notify all false
    · obtain ⟨all, rfl⟩ := unchecked
      simp only [step, here, Option.some.injEq, Prod.mk.injEq] at stepped
      obtain ⟨rfl, rfl⟩ := stepped
      exact .notifyUnchecked here
    · have latches : monitor.step thread = monitor.latched thread (.inside request) := by
        cases request with
        | enter | exit | wait => simp only [step, here]
        | notify all checked =>
          cases checked with
          | false => exact absurd ⟨all, rfl⟩ unchecked
          | true => simp only [step, here]
      obtain ⟨free, rfl, rfl⟩ := latched_eq_some (latches.symm.trans stepped)
      exact .latch here free
  | inside request =>
    simp only [step, here, Option.some.injEq] at stepped
    simpa only [stepped] using examine_advance here
  | acquiring depth fresh =>
    simp only [step, here] at stepped
    split at stepped
    · next free =>
      cases stepped
      exact .take depth here free
    · next held =>
      cases stepped
      exact .contend depth here held
  | summoned depth fresh =>
    simp only [step, here] at stepped
    obtain ⟨free, rfl, rfl⟩ := latched_eq_some stepped
    exact .retry depth here free
  | vacating =>
    simp only [step, here, Option.some.injEq, Prod.mk.injEq] at stepped
    obtain ⟨rfl, rfl⟩ := stepped
    exact .vacate here
  | yielding depth =>
    simp only [step, here, Option.some.injEq, Prod.mk.injEq] at stepped
    obtain ⟨rfl, rfl⟩ := stepped
    exact .yield depth here
  | parking saved =>
    simp only [step, here, Option.some.injEq, Prod.mk.injEq] at stepped
    obtain ⟨rfl, rfl⟩ := stepped
    exact .park here
  | roused saved =>
    cases saved with
    | none =>
      simp only [step, here] at stepped
      split at stepped
      · next free =>
        cases stepped
        exact .giveBack here free
      · contradiction
    | some depth =>
      simp only [step, here] at stepped
      obtain ⟨free, rfl, rfl⟩ := latched_eq_some stepped
      exact .reacquire depth here free
  | notifying all =>
    simp only [step, here, Option.some.injEq, Prod.mk.injEq] at stepped
    obtain ⟨rfl, rfl⟩ := stepped
    cases all with
    | false => exact .rouseFirst here
    | true => exact .rouseAll here

section
variable {monitor after : Monitor}

/-- A step leaves another thread where it stands or wakes it. Contenders are woken on leaving. -/
theorem phase_other (taken : Advance monitor thread note after) (different : other ≠ thread) :
    after.phase other = monitor.phase other ∨
      (monitor.phase thread).hasLetGo = true ∧
        after.phase other = (monitor.phase other).summon ∨
      after.phase other = (monitor.phase other).rouse := by
  have summoned : monitor.summon.phase other = monitor.phase other ∨
      monitor.summon.phase other = (monitor.phase other).summon := by
    rw [phase_summon]
    exact (ite_eq_or_eq _ _ _).symm
  cases taken with
  | vacate here =>
    obtain same | woken := summoned
    · exact .inl ((phase_setPhase_ne _ _ different).trans same)
    · exact .inr (.inl ⟨by rw [here]; rfl, (phase_setPhase_ne _ _ different).trans woken⟩)
  | yield depth here =>
    obtain same | woken := summoned
    · exact .inl ((phase_setPhase_ne _ _ different).trans same)
    · exact .inr (.inl ⟨by rw [here]; rfl, (phase_setPhase_ne _ _ different).trans woken⟩)
  | rouseFirst =>
    rw [phase_setPhase_ne _ _ different, phase_rouseFirst]
    split
    · exact .inr (.inr rfl)
    · exact .inl rfl
  | rouseAll =>
    rw [phase_setPhase_ne _ _ different, phase_rouseAll]
    split
    · exact .inr (.inr rfl)
    · exact .inl rfl
  | _ => exact .inl (phase_setPhase_ne _ _ different)

theorem owner_other (taken : Advance monitor thread note after) (different : other ≠ thread)
    (real : other ≠ nobody) : after.owner = other ↔ monitor.owner = other := by
  cases taken with
  | leave _ owns | giveUp _ owns =>
    exact iff_of_false real.symm fun same => different (same.symm.trans owns)
  | take _ _ free =>
    exact iff_of_false different.symm fun same => real (same.symm.trans free)
  | vacate | yield | rouseFirst | rouseAll => simp
  | _ => rfl

theorem depth_other (taken : Advance monitor thread note after) (different : other ≠ thread)
    (real : other ≠ nobody) (owns : monitor.owner = other) : after.depth = monitor.depth := by
  cases taken with
  | deepen _ other | leave _ other | rise _ other | giveUp _ other =>
    exact absurd (owns.symm.trans other) different
  | take _ _ free => exact absurd (owns.symm.trans free) real
  | vacate | yield | rouseFirst | rouseAll => simp
  | _ => rfl

end

/-- What a thread can do of its own accord. -/
inductive Turn
  | call (thread : Token) (request : MonitorRequest)
  | go (thread : Token)
deriving DecidableEq, Repr

/-- Lets threads have their turns in the given order; there is none if one of them cannot. -/
def follow (monitor : Monitor) : List Turn → Option (Log × Monitor)
  | [] => some ([], monitor)
  | .call thread request :: rest =>
    if thread ≠ nobody ∧ monitor.phase thread = .idle then do
      let (log, after) ← (monitor.begin thread request).follow rest
      some ((thread, .called request) :: log, after)
    else none
  | .go thread :: rest => do
    let (note, stepped) ← monitor.step thread
    let (log, after) ← stepped.follow rest
    some (monitor.happenings thread note stepped ++ log, after)

theorem runs_of_follow {monitor after : Monitor}
    (followed : monitor.follow turns = some (log, after)) : Runs Move monitor log after := by
  induction turns generalizing monitor log with
  | nil =>
    cases followed
    exact .start _
  | cons turn rest ih =>
    cases turn with
    | call thread request =>
      simp only [follow, Option.ite_none_right_eq_some, Option.bind_eq_bind,
        Option.bind_eq_some_iff, Option.some.injEq, Prod.mk.injEq] at followed
      obtain ⟨⟨real, idle⟩, ⟨later, last⟩, followed, rfl, rfl⟩ := followed
      exact ((Runs.start monitor).next (.call real idle)).append (ih followed)
    | go thread =>
      simp only [follow, Option.bind_eq_bind, Option.bind_eq_some_iff, Option.some.injEq,
        Prod.mk.injEq] at followed
      obtain ⟨⟨note, stepped⟩, steps, ⟨later, last⟩, followed, rfl, rfl⟩ := followed
      exact ((Runs.start monitor).next (.go steps)).append (ih followed)

end ManagedRuntime.Monitor
