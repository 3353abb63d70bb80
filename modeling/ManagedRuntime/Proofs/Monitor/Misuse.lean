import ManagedRuntime.Proofs.Monitor.Strictness

/-! Misuse of a checked monitor. Whoever asks for what is the owner's without the lock comes as far
as the look at the owner, and leaves everything as it was; so who notifies has passed that look, and
is the owner still. -/
namespace ManagedRuntime.Monitor
open MonitorPhase

/-- Has asked for what is the owner's without the lock, and has not been found out. -/
structure Oversteps (request : MonitorRequest) (thread : Token) (monitor : Monitor) : Prop where
  asked : monitor.phase thread = .requested request ∨ monitor.phase thread = .inside request
  other : monitor.owner ≠ thread

/-- Nothing but the latch and the place of one thread is new. -/
structure Untouched (thread : Token) (monitor after : Monitor) : Prop where
  lock : Resembles monitor after
  others : ∀ other, other ≠ thread → after.phase other = monitor.phase other

section
variable {monitor after : Monitor} {request : MonitorRequest}

theorem untouched_setPhase {latch : Option Token} {next : MonitorPhase} :
    Untouched thread monitor ({ monitor with latch }.setPhase thread next) :=
  ⟨⟨rfl, rfl, rfl, rfl⟩, fun _ => phase_setPhase_ne _ _⟩

theorem Untouched.trans {last : Monitor} (early : Untouched thread monitor after)
    (late : Untouched thread after last) : Untouched thread monitor last :=
  ⟨early.lock.trans late.lock, fun other different =>
    (late.others other different).trans (early.others other different)⟩

/-- The look at the owner finds misuse out. -/
theorem examine_misuse (asks : request.isOwners = true)
    (checked : request.isUnchecked = false) (other : monitor.owner ≠ thread) :
    (monitor.examine thread request).1 = some (.misuse request.operation monitor.owner) ∧
      Untouched thread monitor (monitor.examine thread request).2 := by
  cases request with
  | enter => cases asks
  | exit | wait =>
    simp only [examine, if_neg other]
    exact ⟨rfl, untouched_setPhase⟩
  | notify all strictly =>
    cases strictly with
    | false => cases checked
    | true =>
      rw [examine, if_pos ⟨rfl, other⟩]
      exact ⟨rfl, untouched_setPhase⟩

theorem step_requested (checked : request.isUnchecked = false)
    (here : monitor.phase thread = .requested request) :
    monitor.step thread = monitor.latched thread (.inside request) := by
  cases request with
  | notify all strictly =>
    cases strictly with
    | false => nomatch checked
    | true => simp only [step, here]
  | enter | exit | wait => simp only [step, here]

namespace Oversteps

theorem begin (other : monitor.owner ≠ thread) :
    Oversteps request thread (monitor.begin thread request) :=
  ⟨.inl (phase_setPhase_self _ _ _), other⟩

/-- A step takes the latch or finds the misuse out, and touches nothing else. -/
theorem step (oversteps : Oversteps request thread monitor) (asks : request.isOwners = true)
    (checked : request.isUnchecked = false)
    (stepped : monitor.step thread = some (note, after)) :
    Untouched thread monitor after ∧
      (note = none ∧ Oversteps request thread after ∨
        note = some (.misuse request.operation monitor.owner)) := by
  obtain ⟨here | here, other⟩ := oversteps
  · rw [step_requested checked here] at stepped
    obtain ⟨-, rfl, rfl⟩ := latched_eq_some stepped
    exact ⟨untouched_setPhase, .inl ⟨rfl, .inr (phase_setPhase_self _ _ _), other⟩⟩
  · simp only [Monitor.step, here, Option.some.injEq] at stepped
    obtain ⟨found, untouched⟩ := examine_misuse asks checked other
    rw [stepped] at found untouched
    exact ⟨untouched, .inr found⟩

/-- What other threads do leaves the misuse to be found out. -/
theorem carry (oversteps : Oversteps request thread monitor)
    (phase : after.phase thread = monitor.phase thread ∨
      after.phase thread = (monitor.phase thread).summon ∨
      after.phase thread = (monitor.phase thread).rouse)
    (owner : after.owner = thread → monitor.owner = thread) :
    Oversteps request thread after where
  asked := by
    obtain ⟨here | here, -⟩ := oversteps
    · rw [here] at phase
      exact .inl (phase.elim id fun woken => woken.elim id id)
    · rw [here] at phase
      exact .inr (phase.elim id fun woken => woken.elim id id)
  other := fun owns => oversteps.other (owner owns)

theorem takes_latch (oversteps : Oversteps request thread monitor)
    (checked : request.isUnchecked = false) (here : monitor.phase thread = .requested request)
    (free : monitor.latch = none) :
    ∃ after, monitor.step thread = some (none, after) ∧ Untouched thread monitor after ∧
      Oversteps request thread after ∧ after.phase thread = .inside request := by
  refine ⟨_, by rw [step_requested checked here, latched, if_pos free], untouched_setPhase,
    ⟨.inr (phase_setPhase_self _ _ _), oversteps.other⟩, phase_setPhase_self _ _ _⟩

theorem found_out (oversteps : Oversteps request thread monitor) (asks : request.isOwners = true)
    (checked : request.isUnchecked = false) (here : monitor.phase thread = .inside request) :
    ∃ after, monitor.step thread =
        some (some (.misuse request.operation monitor.owner), after) ∧
      Untouched thread monitor after := by
  obtain ⟨found, untouched⟩ := examine_misuse asks checked oversteps.other
  refine ⟨(monitor.examine thread request).2, ?_, untouched⟩
  rw [Monitor.step, here, ← found]

end Oversteps

/-- No notifier of the monitor goes without the look at the owner. -/
def Checked (monitor : Monitor) : Prop :=
  ∀ thread, (monitor.phase thread).isUnchecked = false

theorem isUnchecked_summon (phase : MonitorPhase) :
    phase.summon.isUnchecked = phase.isUnchecked := by cases phase <;> rfl

theorem isUnchecked_rouse (phase : MonitorPhase) :
    phase.rouse.isUnchecked = phase.isUnchecked := by cases phase <;> rfl

/-- Owners who notify and nobody else, as long as misuse ends the process. -/
structure Guarded (monitor : Monitor) : Prop where
  checked : Checked monitor
  notifying : Vouches MonitorPhase.isNotifying monitor

namespace Guarded

theorem initial : Guarded {} := ⟨fun _ => rfl, nofun⟩

theorem begin (guarded : Guarded monitor) (checked : request.isUnchecked = false)
    (thread : Token) : Guarded (monitor.begin thread request) where
  checked other := by
    rw [Monitor.begin, phase_setPhase]
    split
    · exact checked
    · exact guarded.checked other
  notifying := guarded.notifying.setPhase nofun

theorem stir (guarded : Guarded monitor) (thread : Token) : Guarded (monitor.stir thread) where
  checked other := by
    rw [view_stir monitor thread isUnchecked_summon]
    exact guarded.checked other
  notifying := guarded.notifying.stir (fun phase => by cases phase <;> rfl) thread

theorem rouse (guarded : Guarded monitor) (thread : Token) : Guarded (monitor.rouse thread) where
  checked other := by
    rw [view_rouse monitor thread isUnchecked_rouse]
    exact guarded.checked other
  notifying := guarded.notifying.rouse (fun phase => by cases phase <;> rfl) thread

theorem requeue (guarded : Guarded monitor) (contenders waiters : List Token) :
    Guarded { monitor with contenders, waiters } :=
  ⟨guarded.checked, guarded.notifying⟩

/-- A step that is no misuse lets nobody notify but the owner. -/
theorem step (guarded : Guarded monitor) (consistent : Consistent monitor)
    (stepped : monitor.step thread = some (note, after))
    (used : ∀ operation owner, note ≠ some (.misuse operation owner)) : Guarded after := by
  have taken := step_advance stepped
  have own := guarded.checked thread
  constructor
  · intro other
    by_cases same : other = thread
    · subst same
      cases taken with
      | latch here =>
        rw [here] at own
        rw [phase_setPhase_self]
        exact own
      | _ => simp [phase_setPhase_self, isUnchecked]
    · obtain kept | ⟨-, woken⟩ | woken := phase_other taken same
      · rw [kept]
        exact guarded.checked other
      · rw [woken, isUnchecked_summon]
        exact guarded.checked other
      · rw [woken, isUnchecked_rouse]
        exact guarded.checked other
  · refine guarded.notifying.advance (fun phase => by cases phase <;> rfl)
      (fun phase => by cases phase <;> rfl) consistent rfl taken ?_
    cases taken with
    | notifyUnchecked here =>
      rw [here] at own
      nomatch own
    | @notifyChecked all strictly _ here =>
      intro _
      by_contra other
      replace other : monitor.owner ≠ thread := other
      rw [here] at own
      replace own : (MonitorRequest.notify all strictly).isUnchecked = false := own
      simp only [Monitor.step, here, Option.some.injEq] at stepped
      obtain ⟨found, -⟩ := examine_misuse (by rfl) own other
      rw [stepped] at found
      exact used _ _ found
    | _ => simp [phase_setPhase_self, MonitorPhase.isNotifying]

end Guarded

/-- The look at the owner finds nothing wrong with the owner. -/
theorem examine_proper (owns : request.isOwners = true → monitor.owner = thread)
    (operation : String) (owner : Token) :
    (monitor.examine thread request).1 ≠ some (.misuse operation owner) := by
  cases request with
  | enter =>
    simp only [examine]
    split
    · split <;> rintro ⟨⟩
    · rintro ⟨⟩
  | exit =>
    simp only [examine, owns rfl, if_true]
    split <;> rintro ⟨⟩
  | wait =>
    simp only [examine, owns rfl, if_true]
    rintro ⟨⟩
  | notify all checked =>
    simp only [examine, owns rfl, ne_eq, not_true_eq_false, and_false, if_false]
    rintro ⟨⟩

theorem Vouches.proper (vouches : Vouches needsLock monitor)
    (stepped : monitor.step thread = some (note, after)) (operation : String) (owner : Token) :
    note ≠ some (.misuse operation owner) := by
  have owns := vouches thread
  cases here : monitor.phase thread with
  | inside request =>
    rw [here] at owns
    simp only [Monitor.step, here, Option.some.injEq] at stepped
    have proper := examine_proper owns operation owner
    rwa [stepped] at proper
  | _ =>
    rintro rfl
    have taken := step_advance stepped
    generalize said : some (MonitorNote.misuse operation owner) = note at taken
    cases taken with
    | take => split at said <;> cases said
    | notifyChecked inside => simp [here] at inside
    | misuseExit inside => simp [here] at inside
    | misuseWait inside => simp [here] at inside
    | _ => cases said

end

end ManagedRuntime.Monitor
