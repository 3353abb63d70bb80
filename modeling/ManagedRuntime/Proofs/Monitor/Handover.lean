import ManagedRuntime.Proofs.Monitor.Requests

/-! A release wakes one contender, and while the lock is free that wakeup is on its way: no thread
is left asleep next to a lock that nobody is about to take. -/
namespace ManagedRuntime.Monitor
open MonitorPhase

/-- Holds the latch and takes the lock, or wakes a contender, before it lets go. -/
def isHandingOver : MonitorPhase → Bool
  | .vacating | .acquiring _ _ | .yielding _ => true
  | _ => false

/-- Stands somewhere in a notify. -/
def isNotifying : MonitorPhase → Bool
  | .requested (.notify _ _) | .inside (.notify _ _) | .notifying _ => true
  | _ => false

/-- Someone is on the way to a free lock that others sleep for. -/
def Handed (monitor : Monitor) : Prop :=
  monitor.owner = nobody → monitor.contenders ≠ [] →
    ∃ thread, (monitor.phase thread).isSummoned = true ∨
      isHandingOver (monitor.phase thread) = true

theorem isLatched_of_isHandingOver {phase : MonitorPhase} (hands : isHandingOver phase = true) :
    phase.isLatched = true := by
  cases phase <;> simp_all [isHandingOver, isLatched]

section
variable {monitor after : Monitor}

/-- Only the thread itself ends its wakeup, and then it has the latch. -/
theorem summoned_advance (taken : Advance monitor thread note after)
    (summoned : (monitor.phase other).isSummoned = true) :
    (after.phase other).isSummoned = true ∨
      other = thread ∧ isHandingOver (after.phase other) = true := by
  by_cases same : other = thread
  · subst other
    cases taken with
    | retry => exact .inr ⟨rfl, by rw [phase_setPhase_self]; rfl⟩
    | _ => simp_all [isSummoned]
  · left
    obtain same | ⟨-, woken⟩ | roused := phase_other taken same
    · rwa [same]
    · rw [woken, isSummoned_summon, summoned, Bool.or_true]
    · rwa [roused, isSummoned_rouse]

theorem isHandingOver_advance (taken : Advance monitor thread note after)
    (different : other ≠ thread) :
    isHandingOver (after.phase other) = isHandingOver (monitor.phase other) := by
  obtain same | ⟨-, summoned⟩ | roused := phase_other taken different
  · rw [same]
  · rw [summoned]
    cases monitor.phase other <;> rfl
  · rw [roused]
    cases monitor.phase other <;> rfl

/-- A summons wakes the contender that came first. -/
theorem summon_wakes (consistent : Consistent monitor)
    (queued : monitor.contenders.head? = some first) :
    (monitor.phase first).isContending = true ∧ (monitor.summon.phase first).isSummoned = true := by
  have contends := (consistent.contending first).mp (List.mem_of_head? queued)
  refine ⟨contends, ?_⟩
  rw [phase_summon, if_pos queued, isSummoned_summon, contends, Bool.true_or]

/-- A release wakes the contender that came first and leaves the thread that made it aside. -/
theorem release_wakes (consistent : Consistent monitor) (taken : Advance monitor thread note after)
    (here : monitor.phase thread = .vacating ∨ ∃ depth, monitor.phase thread = .yielding depth)
    (queued : monitor.contenders.head? = some first) :
    (after.phase first).isSummoned = true := by
  obtain ⟨contends, summoned⟩ := summon_wakes consistent queued
  have different : first ≠ thread := by
    rintro rfl
    obtain here | ⟨depth, here⟩ := here <;> simp [here, isContending] at contends
  cases taken with
  | vacate => simpa [phase_setPhase, different] using summoned
  | yield => simpa [phase_setPhase, different] using summoned
  | _ => simp_all

theorem Handed.advance (handed : Handed monitor) (consistent : Consistent monitor)
    (taken : Advance monitor thread note after) : Handed after := by
  intro vacant queued
  by_cases hands : isHandingOver (after.phase thread) = true
  · exact ⟨thread, .inr hands⟩
  by_cases handing : isHandingOver (monitor.phase thread) = true
  · have woken (here : monitor.phase thread = .vacating ∨
        ∃ depth, monitor.phase thread = .yielding depth)
        (left : after.contenders = monitor.contenders.tail) : ∃ first,
        (after.phase first).isSummoned = true ∨ isHandingOver (after.phase first) = true := by
      obtain ⟨first, ahead⟩ : ∃ first, monitor.contenders.head? = some first := by
        cases sleeping : monitor.contenders with
        | nil => simp [left, sleeping] at queued
        | cons first rest => exact ⟨first, rfl⟩
      exact ⟨first, .inl (release_wakes consistent taken here ahead)⟩
    cases taken with
    | vacate here => exact woken (.inl here) (contenders_summon monitor)
    | yield depth here => exact woken (.inr ⟨depth, here⟩) (contenders_summon monitor)
    | take depth here free => exact absurd vacant (consistent.real (by simp [here]))
    | contend depth here held => exact absurd vacant held
    | _ => simp_all [isHandingOver]
  · have before : monitor.owner = nobody ∧ monitor.contenders ≠ [] := by
      cases taken with
      | leave | giveUp => exact absurd (by rw [phase_setPhase_self]; rfl) hands
      | take _ here | contend _ here | vacate here | yield _ here =>
        exact absurd (by rw [here]; rfl) handing
      | rouseFirst =>
        exact ⟨owner_rouseFirst monitor ▸ vacant, contenders_rouseFirst monitor ▸ queued⟩
      | rouseAll => exact ⟨owner_rouseAll monitor ▸ vacant, contenders_rouseAll monitor ▸ queued⟩
      | _ => exact ⟨vacant, queued⟩
    obtain ⟨other, summoned | holds⟩ := handed before.1 before.2
    · obtain still | ⟨rfl, holds⟩ := summoned_advance taken summoned
      · exact ⟨other, .inl still⟩
      · exact absurd holds hands
    · have different : other ≠ thread := fun same => handing (same ▸ holds)
      exact ⟨other, .inr ((isHandingOver_advance taken different).trans holds)⟩

theorem Handed.move (handed : Handed monitor) (consistent : Consistent monitor)
    (moved : Move monitor now after) : Handed after := by
  cases moved with
  | @call caller _ request real idle =>
    intro vacant queued
    obtain ⟨other, hands⟩ := handed vacant queued
    refine ⟨other, ?_⟩
    rw [Monitor.begin, phase_setPhase]
    split
    · next same => simp [same, idle, isSummoned, isHandingOver] at hands
    · exact hands
  | go stepped => exact handed.advance consistent (step_advance stepped)
  | rouse sleeper =>
    intro vacant queued
    rw [owner_rouse] at vacant
    rw [contenders_rouse] at queued
    obtain ⟨other, hands⟩ := handed vacant queued
    refine ⟨other, ?_⟩
    rw [phase_rouse]
    split
    · next same =>
      subst same
      rw [isSummoned_rouse]
      exact hands.imp_right fun holds => by
        cases here : monitor.phase other <;> simp_all [isHandingOver, MonitorPhase.rouse]
    · exact hands
  | stir sleeper =>
    cases contends : (monitor.phase sleeper).isContending with
    | true =>
      intro _ _
      refine ⟨sleeper, .inl ?_⟩
      rw [phase_stir, if_pos rfl, isSummoned_summon, contends, Bool.true_or]
    | false =>
      have same : monitor.stir sleeper = monitor := by
        unfold Monitor.stir
        split
        · next here => simp [here, isContending] at contends
        · rfl
      rwa [same]
  | requeue contenders waiters contended waited =>
    intro vacant queued
    exact handed vacant fun none => queued (by simpa [none] using contended)

end

theorem handed_of_runs {monitor : Monitor} (run : Runs Move {} log monitor) : Handed monitor :=
  (run.invariant (fun monitor => Consistent monitor ∧ Handed monitor)
    (fun held moved => ⟨held.1.move moved, held.2.move held.1 moved⟩)
    ⟨consistent_initial, fun _ queued => absurd rfl queued⟩).2

/-- A woken thread has its way to a free lock before it. -/
theorem summoned_takes {monitor : Monitor} (free : monitor.latch = none)
    (vacant : monitor.owner = nobody) (summoned : (monitor.phase thread).isSummoned = true) :
    ∃ latched note entered, monitor.step thread = some (none, latched) ∧
      latched.step thread = some (note, entered) ∧ entered.owner = thread := by
  cases here : monitor.phase thread with
  | summoned depth fresh =>
    let latched := { monitor with latch := some thread }.setPhase thread (.acquiring depth fresh)
    have latches : monitor.step thread = some (none, latched) := by
      simp only [Monitor.step, here, Monitor.latched, free, if_true, latched]
    have enters : latched.step thread = some (if fresh then some .entered else none,
        { latched with owner := thread, depth }.finish thread) := by
      simp only [Monitor.step, latched, phase_setPhase, if_true, owner_setPhase, vacant]
    exact ⟨latched, _, _, latches, enters, rfl⟩
  | _ => simp [here, isSummoned] at summoned

/-- Wherever threads stand in a notify, no contender notices. -/
theorem notify_advance {monitor after : Monitor} (taken : Advance monitor thread note after)
    (notifies : isNotifying (monitor.phase thread) = true) :
    after.contenders = monitor.contenders ∧ ∀ other,
      (after.phase other).isContending = (monitor.phase other).isContending ∧
        (after.phase other).isSummoned = (monitor.phase other).isSummoned := by
  constructor
  · cases taken with
    | contend _ here | vacate here | yield _ here => simp [here, isNotifying] at notifies
    | rouseFirst => exact contenders_rouseFirst monitor
    | rouseAll => exact contenders_rouseAll monitor
    | _ => rfl
  · intro other
    by_cases same : other = thread
    · subst other
      cases taken with
      | notifyUnchecked here | latch here | notifyChecked here | rouseFirst here | rouseAll here =>
        rw [phase_setPhase_self, here]
        exact ⟨rfl, rfl⟩
      | _ => simp_all [isNotifying]
    · obtain same | ⟨gone, -⟩ | roused := phase_other taken same
      · rw [same]
        exact ⟨rfl, rfl⟩
      · cases here : monitor.phase thread <;> simp_all [isNotifying, hasLetGo]
      · rw [roused, isContending_rouse, isSummoned_rouse]
        exact ⟨rfl, rfl⟩

/-- While the lock is free and a thread is asleep for it, another has been woken that has not
latched the monitor again, and nothing keeps that one from the lock. A notify has no part in this,
a wakeup lasts until the woken thread itself latches the monitor, a newcomer that takes the lock
first leaves all wakeups and sleepers as they are, and so does whoever has it until the release
that wakes the next. -/
theorem no_contender_stranded {monitor : Monitor} (run : Runs Move {} log monitor) :
    (∀ thread, monitor.latch = none → monitor.owner = nobody →
      (monitor.phase thread).isContending = true →
      ∃ other, other ≠ thread ∧ (monitor.phase other).isSummoned = true ∧
        ∃ latched note entered, monitor.step other = some (none, latched) ∧
          latched.step other = some (note, entered) ∧ entered.owner = other) ∧
    (∀ thread note after, isNotifying (monitor.phase thread) = true →
      monitor.step thread = some (note, after) →
      after.contenders = monitor.contenders ∧ ∀ other,
        (after.phase other).isContending = (monitor.phase other).isContending ∧
          (after.phase other).isSummoned = (monitor.phase other).isSummoned) ∧
    (∀ thread now after, (monitor.phase thread).isSummoned = true → Move monitor now after →
      (after.phase thread).isSummoned = true ∨ after.latch = some thread) ∧
    (∀ thread depth fresh note after, monitor.phase thread = .acquiring depth fresh →
      monitor.owner = nobody → monitor.step thread = some (note, after) →
      after.owner = thread ∧ after.contenders = monitor.contenders ∧
        ∀ other, other ≠ thread → after.phase other = monitor.phase other) ∧
    (∀ thread note after first,
      monitor.phase thread = .vacating ∨ (∃ depth, monitor.phase thread = .yielding depth) →
      monitor.contenders.head? = some first → monitor.step thread = some (note, after) →
      (after.phase first).isSummoned = true) := by
  have consistent := consistent_of_runs run
  have handed := handed_of_runs run
  refine ⟨?_, fun thread note after notifies stepped =>
    notify_advance (step_advance stepped) notifies, ?_, ?_, ?_⟩
  · intro thread free vacant contends
    have queued : monitor.contenders ≠ [] :=
      List.ne_nil_of_mem ((consistent.contending thread).mpr contends)
    obtain ⟨other, summoned | holds⟩ := handed vacant queued
    · refine ⟨other, ?_, summoned, summoned_takes free vacant summoned⟩
      rintro rfl
      cases here : monitor.phase other <;> simp_all [isContending, isSummoned]
    · have latched := (consistent.latched other).mpr (isLatched_of_isHandingOver holds)
      simp [free] at latched
  · intro thread now after summoned moved
    have busy : monitor.phase thread ≠ .idle := by
      intro idle
      simp [idle, isSummoned] at summoned
    obtain ⟨request, idle, -, -⟩ | ⟨note, taken, -⟩ | seen :=
      own_or_spectates consistent moved (consistent.real busy)
    · exact absurd idle busy
    · obtain still | ⟨-, holds⟩ := summoned_advance taken summoned
      · exact .inl still
      · exact .inr (((consistent.move moved).latched thread).mpr (isLatched_of_isHandingOver holds))
    · left
      obtain same | woken | ⟨parked, -, -⟩ := seen.phase
      · rwa [same]
      · rw [woken, isSummoned_summon, summoned, Bool.or_true]
      · cases here : monitor.phase thread <;> simp_all [isParked, isSummoned]
  · intro thread depth fresh note after here vacant stepped
    cases step_advance stepped with
    | take => exact ⟨rfl, rfl, fun other different => by simp [phase_setPhase, different]⟩
    | contend _ _ held => exact absurd vacant held
    | _ => simp_all
  · intro thread note after first here ahead stepped
    exact release_wakes consistent (step_advance stepped) here ahead

/-- The owner of a lock that two others sleep for leaves it. -/
def departure : List Turn :=
  [.call 1 .enter, .go 1, .go 1, .go 1, .call 2 .enter, .go 2, .go 2, .go 2,
    .call 3 .enter, .go 3, .go 3, .go 3, .call 1 .exit, .go 1, .go 1, .go 1]

/-- One of them has been woken then. -/
def departed : Monitor :=
  { contenders := [3], phases := [(2, .summoned 1 true), (3, .contending 1 true)] }

theorem runs_departure : ∃ log, Runs Move {} log departed :=
  ⟨_, runs_of_follow (rfl : Monitor.follow {} departure = some (_, departed))⟩

theorem no_contender_stranded_departed :
    ∃ other, other ≠ 3 ∧ (departed.phase other).isSummoned = true ∧
      ∃ latched note entered, departed.step other = some (none, latched) ∧
        latched.step other = some (note, entered) ∧ entered.owner = other := by
  obtain ⟨log, run⟩ := runs_departure
  exact (no_contender_stranded run).1 3 rfl rfl rfl

end ManagedRuntime.Monitor
