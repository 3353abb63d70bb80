import ManagedRuntime.Proofs.Monitor.Likeness

/-! A monitor whose notifiers are checked next to one whose notifiers are not. As long as only the
owner asks for what is the owner's, each answers the other: the check costs one more hold of the
latch, and nothing comes of it. -/
namespace ManagedRuntime

/-- Asked by the owner alone, unless it is misuse. -/
def MonitorRequest.isOwners : MonitorRequest → Bool
  | .enter => false
  | .exit | .wait | .notify _ _ => true

/-- Notifies without a comparison with the owner. -/
def MonitorRequest.isUnchecked : MonitorRequest → Bool
  | .notify _ checked => !checked
  | .enter | .exit | .wait => false

namespace MonitorPhase

/-- In a request of the owner that has not given up the lock. -/
def needsLock : MonitorPhase → Bool
  | .requested request | .inside request => request.isOwners
  | .notifying _ => true
  | _ => false

def isNotifying : MonitorPhase → Bool
  | .notifying _ => true
  | _ => false

/-- On the way to notify without a comparison with the owner. -/
def isUnchecked : MonitorPhase → Bool
  | .requested request | .inside request => request.isUnchecked
  | _ => false

/-- Where an unchecked notifier stands that has come as far. -/
def unchecked : MonitorPhase → MonitorPhase
  | .requested (.notify all _) | .inside (.notify all _) => .requested (.notify all false)
  | phase => phase

@[simp] theorem unchecked_summon (phase : MonitorPhase) :
    phase.summon.unchecked = phase.unchecked.summon := by
  rcases phase with _ | ⟨_ | _ | _ | _⟩ | ⟨_ | _ | _ | _⟩ <;> rfl

@[simp] theorem unchecked_rouse (phase : MonitorPhase) :
    phase.rouse.unchecked = phase.unchecked.rouse := by
  rcases phase with _ | ⟨_ | _ | _ | _⟩ | ⟨_ | _ | _ | _⟩ <;> rfl

theorem isLatched_of_unchecked {phase : MonitorPhase} (latched : phase.unchecked.isLatched = true) :
    phase.isLatched = true := by
  rcases phase with _ | ⟨_ | _ | _ | _⟩ | ⟨_ | _ | _ | _⟩ <;> first | rfl | exact latched

end MonitorPhase

namespace Monitor
open MonitorPhase

/-- Threads may ask for what is the owner's when they own the monitor. -/
def permits (monitor : Monitor) (thread : Token) (request : MonitorRequest) : Prop :=
  request.isOwners = true → monitor.owner = thread

/-- Whoever stands where `view` holds owns the monitor. -/
def Vouches (view : MonitorPhase → Bool) (monitor : Monitor) : Prop :=
  ∀ thread, view (monitor.phase thread) = true → monitor.owner = thread

section
variable {monitor after : Monitor} {view : MonitorPhase → Bool}

/-- Lock and its depth change in the hands of a thread that holds the latch. -/
theorem owner_of_advance (taken : Advance monitor thread note after) :
    after.owner = monitor.owner ∨
      (monitor.phase thread).isLatched = true ∧ (after.owner = nobody ∨ after.owner = thread) := by
  cases taken with
  | leave here | giveUp here => exact .inr ⟨by rw [here]; rfl, .inl rfl⟩
  | take _ here => exact .inr ⟨by rw [here]; rfl, .inr rfl⟩
  | vacate | yield | rouseFirst | rouseAll => exact .inl (by simp)
  | _ => exact .inl rfl

/-- Nobody is in two places with the latch. -/
theorem Consistent.latched_once (consistent : Consistent monitor)
    (held : (monitor.phase thread).isLatched = true)
    (held' : (monitor.phase other).isLatched = true) : other = thread := by
  have latch := (consistent.latched thread).mpr held
  exact Option.some.inj (((consistent.latched other).mpr held').symm.trans latch)

theorem Consistent.latch_free (consistent : Consistent monitor)
    (free : ∀ thread, (monitor.phase thread).isLatched = false) : monitor.latch = none := by
  by_contra held
  obtain ⟨thread, held⟩ := Option.ne_none_iff_exists'.mp held
  have latched := (consistent.latched thread).mp held
  rw [free thread] at latched
  contradiction

/-- On the way through a request, and with nobody woken, nothing happens. -/
theorem happenings_setPhase {changed : Monitor} {next : MonitorPhase} (busy : next ≠ .idle)
    (stays : monitor.phase thread ≠ .inside .exit) (kept : changed.waiters = monitor.waiters) :
    monitor.happenings thread note (changed.setPhase thread next) = [] := by
  have asleep : monitor.roused (changed.setPhase thread next) = [] := by
    rw [Monitor.roused, waiters_setPhase, kept, List.map_eq_nil_iff, List.filter_eq_nil_iff]
    simp
  simp [happenings, phase_setPhase_self, busy, stays, asleep]

namespace Vouches

theorem setPhase (vouches : Vouches view monitor) {next : MonitorPhase}
    (own : view next = true → monitor.owner = thread) :
    Vouches view (monitor.setPhase thread next) := by
  intro other stands
  rw [phase_setPhase] at stands
  split at stands
  · next same => exact same ▸ own stands
  · exact vouches other stands

theorem requeue (vouches : Vouches view monitor) (contenders waiters : List Token) :
    Vouches view { monitor with contenders, waiters } := vouches

section
variable (summons : ∀ phase, view phase.summon = view phase)
  (rouses : ∀ phase, view phase.rouse = view phase)

include summons in
theorem stir (vouches : Vouches view monitor) (thread : Token) :
    Vouches view (monitor.stir thread) := by
  intro other stands
  rw [view_stir monitor thread summons] at stands
  rw [owner_stir]
  exact vouches other stands

include rouses in
theorem rouse (vouches : Vouches view monitor) (thread : Token) :
    Vouches view (monitor.rouse thread) := by
  intro other stands
  rw [view_rouse monitor thread rouses] at stands
  rw [owner_rouse]
  exact vouches other stands

include summons rouses in
/-- A step leaves the owners among the other threads what they are. -/
theorem advance (vouches : Vouches view monitor) (consistent : Consistent monitor)
    (asleep : view .idle = false) (taken : Advance monitor thread note after)
    (own : view (after.phase thread) = true → after.owner = thread) : Vouches view after := by
  intro other stands
  by_cases same : other = thread
  · subst same
    exact own stands
  · have real : other ≠ nobody := by
      rintro rfl
      rw [(consistent.advance taken).nobody_idle, asleep] at stands
      contradiction
    refine (owner_other taken same real).mpr (vouches other ?_)
    obtain kept | ⟨-, woken⟩ | woken := phase_other taken same
    · rwa [kept] at stands
    · rwa [woken, summons] at stands
    · rwa [woken, rouses] at stands

end

/-- A thread that began as the owner is the owner as long as it needs the lock. -/
theorem advance_needsLock (vouches : Vouches needsLock monitor) (consistent : Consistent monitor)
    (taken : Advance monitor thread note after) : Vouches needsLock after := by
  refine vouches.advance (fun phase => by cases phase <;> rfl) (fun phase => by cases phase <;> rfl)
    consistent rfl taken ?_
  have owner := vouches thread
  cases taken with
  | notifyUnchecked here | notifyChecked here =>
    rw [here] at owner
    exact fun _ => owner rfl
  | latch here =>
    rw [here] at owner
    rw [phase_setPhase_self]
    exact owner
  | _ => simp [phase_setPhase_self, needsLock]

end Vouches
end

/-- How a lenient monitor stands when only owners have asked for what is theirs: it never waited
for the latch to notify. -/
structure Relaxes (strict lenient : Monitor) : Prop where
  lock : Resembles strict lenient
  phases : ∀ thread, lenient.phase thread = (strict.phase thread).unchecked

namespace Relaxes
variable {strict lenient strict' : Monitor}

theorem begin {request request' : MonitorRequest} (relaxes : Relaxes strict lenient)
    (same : (requested request).unchecked = requested request') (thread : Token) :
    Relaxes (strict.begin thread request) (lenient.begin thread request') where
  lock := ⟨relaxes.lock.owner, relaxes.lock.depth, relaxes.lock.contenders, relaxes.lock.waiters⟩
  phases other := by
    rw [Monitor.begin, Monitor.begin, phase_setPhase, phase_setPhase, relaxes.phases]
    split
    · exact same.symm
    · rfl

theorem requeue (relaxes : Relaxes strict lenient) (contenders waiters : List Token) :
    Relaxes { strict with contenders, waiters } { lenient with contenders, waiters } :=
  ⟨relaxes.lock.requeue contenders waiters, relaxes.phases⟩

/-- Both monitors go on together, from a place that does not tell them apart. -/
theorem inStep {lenient' : Monitor} (relaxes : Relaxes strict lenient)
    (moved : InStep thread strict lenient strict' lenient')
    (same : (strict'.phase thread).unchecked = strict'.phase thread) :
    Relaxes strict' lenient' where
  lock := moved.lock
  phases other := by
    by_cases here : other = thread
    · rw [here, ← moved.here, same]
    · have woken := moved.others other here
      rw [relaxes.phases] at woken
      generalize strict'.phase other = now, lenient'.phase other = now' at woken ⊢
      cases woken with
      | not => rfl
      | summoned => exact (unchecked_summon _).symm
      | roused => exact (unchecked_rouse _).symm

section
variable (consistent : Consistent strict) (consistent' : Consistent lenient)
include consistent consistent'

theorem rouse (relaxes : Relaxes strict lenient) (thread : Token) :
    Relaxes (strict.rouse thread) (lenient.rouse thread) where
  lock := relaxes.lock.rouse consistent consistent' thread
  phases other := by
    rw [phase_rouse, phase_rouse, relaxes.phases, relaxes.phases]
    split
    · exact (unchecked_rouse _).symm
    · rfl

theorem stir (relaxes : Relaxes strict lenient) (thread : Token) :
    Relaxes (strict.stir thread) (lenient.stir thread) where
  lock := relaxes.lock.stir consistent consistent' thread
  phases other := by
    rw [phase_stir, phase_stir, relaxes.phases, relaxes.phases]
    split
    · exact (unchecked_summon _).symm
    · rfl

/-- The latch is free for the lenient thread whenever it is for the strict one. -/
theorem latch_free (relaxes : Relaxes strict lenient) (free : strict.latch = none) :
    lenient.latch = none := by
  refine consistent'.latch_free fun thread => ?_
  rw [Bool.eq_false_iff, relaxes.phases]
  intro latched
  have held := (consistent.latched thread).mpr (isLatched_of_unchecked latched)
  rw [free] at held
  contradiction

/-- A step of the strict monitor is the same step of the lenient one, or the check of a notifier,
which the lenient one spares itself. -/
theorem step (relaxes : Relaxes strict lenient) (vouches : Vouches needsLock strict)
    (stepped : strict.step thread = some (note, strict')) :
    (note = none ∧ strict.happenings thread none strict' = [] ∧ Relaxes strict' lenient) ∨
    ∃ lenient', lenient.step thread = some (note, lenient') ∧ Relaxes strict' lenient' ∧
      lenient.happenings thread note lenient' = strict.happenings thread note strict' := by
  have together (same : (strict.phase thread).unchecked = strict.phase thread)
      (ends : (strict'.phase thread).unchecked = strict'.phase thread) :
      ∃ lenient', lenient.step thread = some (note, lenient') ∧ Relaxes strict' lenient' ∧
        lenient.happenings thread note lenient' = strict.happenings thread note strict' := by
    have here := same.symm.trans (relaxes.phases thread).symm
    obtain ⟨lenient', answered, moved⟩ := relaxes.lock.step consistent consistent' here
      (relaxes.latch_free consistent consistent') stepped
    exact ⟨lenient', answered, relaxes.inStep moved ends, moved.happenings relaxes.lock here note⟩
  have taken := step_advance stepped
  cases here : strict.phase thread with
  | requested request =>
    cases request with
    | notify all checked =>
      simp only [Monitor.step, here] at stepped
      cases checked with
      | true =>
        -- The latch is all that the check has taken so far.
        obtain ⟨-, rfl, rfl⟩ := latched_eq_some stepped
        obtain ⟨owner, depth, contenders, waiters⟩ := relaxes.lock
        refine .inl ⟨rfl, ?_, ⟨owner, depth, contenders, waiters⟩, fun other => ?_⟩
        · exact happenings_setPhase (by rintro ⟨⟩) (by simp [here]) rfl
        · rw [phase_setPhase, relaxes.phases]
          split
          · next same =>
            rw [same, here]
            rfl
          · rfl
      | false =>
        cases stepped
        exact .inr (together (by rw [here]; rfl) (by rw [phase_setPhase_self]; rfl))
    | enter | exit | wait =>
      refine .inr (together (by rw [here]; rfl) ?_)
      cases taken with
      | latch stands =>
        cases here.symm.trans stands
        rw [phase_setPhase_self]
        rfl
      | _ => simp_all
  | inside request =>
    cases request with
    | notify all checked =>
      have owns := vouches thread (by rw [here]; rfl)
      simp only [Monitor.step, here, examine, owns, ne_eq, not_true_eq_false, and_false, if_false]
        at stepped
      cases stepped
      have here' : lenient.phase thread = .requested (.notify all false) := by
        rw [relaxes.phases, here]
        rfl
      refine .inr ⟨lenient.setPhase thread (.notifying all), ?_, ?_, ?_⟩
      · simp only [Monitor.step, here']
      · refine relaxes.inStep (inStep_quiet _ ?_) (by rw [phase_setPhase_self]; rfl)
        exact ⟨relaxes.lock.owner, relaxes.lock.depth, relaxes.lock.contenders,
          relaxes.lock.waiters⟩
      · have silent : strict.happenings thread none
            (strict.unlatch.setPhase thread (.notifying all)) = [] :=
          happenings_setPhase (by rintro ⟨⟩) (by simp [here]) rfl
        rw [silent]
        exact happenings_setPhase (by rintro ⟨⟩) (by simp [here']) rfl
    | enter | exit | wait =>
      refine .inr (together (by rw [here]; rfl) ?_)
      cases taken with
      | latch stands => simp_all
      | _ => simp [phase_setPhase_self, unchecked]
  | _ =>
    refine .inr (together (by rw [here]; rfl) ?_)
    cases taken with
    | latch stands => simp_all
    | _ => simp [phase_setPhase_self, unchecked]

end

end Relaxes

end Monitor
end ManagedRuntime
