import Mathlib.Logic.Relation
import ManagedRuntime.Proofs.Monitor.Strictness

/-! What a lenient monitor does, a strict one can do as well. A lenient notifier does not wait for
the latch, so the strict monitor lets threads that will only find the lock taken have the latch
later, all at once when they are done with it. -/
namespace ManagedRuntime.Monitor
open MonitorPhase

/-- What a thread that stands behind does with the latch before it looks at the lock. -/
inductive Approaches : MonitorPhase → MonitorPhase → Prop
  | latch : Approaches (.requested .enter) (.inside .enter)
  | enter : Approaches (.requested .enter) (.acquiring 1 true)
  | retry (depth : UInt32) (fresh : Bool) :
      Approaches (.summoned depth fresh) (.acquiring depth fresh)
  | reacquire (depth : UInt32) : Approaches (.roused (some depth)) (.acquiring depth false)

/-- Where a thread stands in a lenient monitor and in the strict one that follows it. It is behind
in the strict one while it has the latch for nothing, with the lock in other hands. -/
inductive Lags (owner thread : Token) : MonitorPhase → MonitorPhase → Prop
  | same {stands : MonitorPhase} (asked : ∀ all checked, stands ≠ .requested (.notify all checked))
      (useful : stands.isLatched = true → owner = nobody ∨ owner = thread) :
      Lags owner thread stands stands
  | notifier (all : Bool) :
      Lags owner thread (.requested (.notify all false)) (.requested (.notify all true))
  | behind (approaches : Approaches late early) (held : owner ≠ nobody) (other : owner ≠ thread) :
      Lags owner thread early late

structure Follows (lenient strict : Monitor) : Prop where
  lock : Resembles lenient strict
  phases : ∀ thread, Lags lenient.owner thread (lenient.phase thread) (strict.phase thread)

/-- Steps of one thread of which nothing is seen. -/
def Unseen (thread : Token) : Monitor → Monitor → Prop :=
  Relation.ReflTransGen fun monitor after =>
    monitor.step thread = some (none, after) ∧ monitor.happenings thread none after = []

theorem Unseen.consistent {monitor after : Monitor} (consistent : Consistent monitor)
    (unseen : Unseen thread monitor after) : Consistent after := by
  induction unseen with
  | refl => exact consistent
  | tail _ step ih => exact ih.advance (step_advance step.1)

/-- No step leads back to the beginning of a request. -/
theorem not_requested_of_advance {monitor after : Monitor}
    (taken : Advance monitor thread note after) (request : MonitorRequest) :
    after.phase thread ≠ .requested request := by
  cases taken <;> simp [phase_setPhase_self]

namespace Approaches
variable {late early : MonitorPhase}

theorem isLatched (approaches : Approaches late early) : early.isLatched = true := by
  cases approaches <;> rfl

theorem awake (approaches : Approaches late early) :
    (early.summon = early ∧ late.summon = late) ∧ early.rouse = early ∧ late.rouse = late := by
  cases approaches <;> exact ⟨⟨rfl, rfl⟩, rfl, rfl⟩

theorem catch_up {strict : Monitor} {depth : UInt32} (here : strict.phase thread = late)
    (approaches : Approaches late (.acquiring depth fresh)) (free : strict.latch = none)
    (other : strict.owner ≠ thread) :
    ∃ caught, Unseen thread strict caught ∧ Resembles strict caught ∧
      caught.phase thread = .acquiring depth fresh ∧
      ∀ other, other ≠ thread → caught.phase other = strict.phase other := by
  let latched (next : MonitorPhase) := { strict with latch := some thread }.setPhase thread next
  have latches (next : MonitorPhase) (stepped : strict.step thread = strict.latched thread next)
      (busy : next ≠ .idle) :
      strict.step thread = some (none, latched next) ∧
        strict.happenings thread none (latched next) = [] := by
    refine ⟨by rw [stepped, Monitor.latched, if_pos free], happenings_setPhase busy ?_ rfl⟩
    cases approaches <;> simp [here]
  have elsewhere (next : MonitorPhase) (other : Token) (different : other ≠ thread) :
      (latched next).phase other = strict.phase other :=
    phase_setPhase_ne { strict with latch := some thread } next different
  cases approaches with
  | enter =>
    have first := latches (.inside .enter) (by simp only [Monitor.step, here]) (by rintro ⟨⟩)
    have inside : (latched (.inside .enter)).phase thread = .inside .enter :=
      phase_setPhase_self _ _ _
    let caught := (latched (.inside .enter)).setPhase thread (.acquiring 1 true)
    have second : (latched (.inside .enter)).step thread = some (none, caught) := by
      have others : (latched (.inside .enter)).owner ≠ thread := other
      simp only [Monitor.step, inside, examine, if_neg others, caught]
    have unseen : (latched (.inside .enter)).happenings thread none caught = [] :=
      happenings_setPhase (by rintro ⟨⟩) (by simp [inside]) rfl
    refine ⟨caught, .tail (.single first) ⟨second, unseen⟩, ⟨rfl, rfl, rfl, rfl⟩,
      phase_setPhase_self _ _ _, fun other different => ?_⟩
    exact (phase_setPhase_ne _ _ different).trans (elsewhere _ other different)
  | retry | reacquire =>
    have first := latches (.acquiring depth _) (by simp only [Monitor.step, here]; rfl)
      (by rintro ⟨⟩)
    exact ⟨_, .single first, ⟨rfl, rfl, rfl, rfl⟩, phase_setPhase_self _ _ _, elsewhere _⟩

end Approaches

namespace Lags
variable {owner thread : Token} {early late now now' : MonitorPhase}

theorem woken (lags : Lags owner thread early late) (woken : Woken early late now now') :
    Lags owner thread now now' := by
  cases woken with
  | not => exact lags
  | summoned =>
    cases lags with
    | same asked useful =>
      refine .same (fun all checked => ?_) (by rwa [isLatched_summon])
      have asked := asked all checked
      cases early <;> simp_all [MonitorPhase.summon]
    | notifier all => exact .notifier all
    | behind approaches held other =>
      rw [approaches.awake.1.1, approaches.awake.1.2]
      exact .behind approaches held other
  | roused =>
    cases lags with
    | same asked useful =>
      refine .same (fun all checked => ?_) (by rwa [isLatched_rouse])
      have asked := asked all checked
      cases early <;> simp_all [MonitorPhase.rouse]
    | notifier all => exact .notifier all
    | behind approaches held other =>
      rw [approaches.awake.2.1, approaches.awake.2.2]
      exact .behind approaches held other

/-- Without the latch a thread is not behind, whoever has the lock. -/
theorem of_unlatched (lags : Lags owner thread early late) (free : early.isLatched = false)
    (other : Token) : Lags other thread early late := by
  cases lags with
  | same asked => exact .same asked fun latched => nomatch free.symm.trans latched
  | notifier all => exact .notifier all
  | behind approaches => exact nomatch free.symm.trans approaches.isLatched

theorem eq_of_unlatched (lags : Lags owner thread early late) (free : early.isLatched = false)
    (asked : ∀ all, early ≠ .requested (.notify all false)) : late = early := by
  cases lags with
  | same => rfl
  | notifier all => exact absurd rfl (asked all)
  | behind approaches => exact nomatch free.symm.trans approaches.isLatched

/-- A thread that has the latch in the strict monitor has it for good reason in both. -/
theorem of_latched (lags : Lags owner thread early late) (held : late.isLatched = true) :
    early = late ∧ (owner = nobody ∨ owner = thread) := by
  cases lags with
  | same asked useful => exact ⟨rfl, useful held⟩
  | notifier => nomatch held
  | behind approaches => cases approaches <;> nomatch held

/-- Without the latch the places differ by the check alone. -/
theorem unchecked (lags : Lags owner thread early late) (free : early.isLatched = false) :
    early = late.unchecked := by
  cases lags with
  | same asked =>
    rcases early with _ | ⟨_ | _ | _ | _⟩ | _ <;> first
      | rfl
      | exact absurd rfl (asked _ _)
      | nomatch free
  | notifier => rfl
  | behind approaches => exact nomatch free.symm.trans approaches.isLatched

end Lags

namespace Follows
variable {lenient strict lenient' : Monitor}

theorem begin {request request' : MonitorRequest} (follows : Follows lenient strict)
    (asked : Lags lenient.owner thread (.requested request) (.requested request')) :
    Follows (lenient.begin thread request) (strict.begin thread request') where
  lock := ⟨follows.lock.owner, follows.lock.depth, follows.lock.contenders, follows.lock.waiters⟩
  phases other := by
    rw [Monitor.begin, Monitor.begin, phase_setPhase, phase_setPhase]
    split
    · next same => exact same ▸ asked
    · exact follows.phases other

theorem requeue (follows : Follows lenient strict) (contenders waiters : List Token) :
    Follows { lenient with contenders, waiters } { strict with contenders, waiters } :=
  ⟨follows.lock.requeue contenders waiters, follows.phases⟩

section
variable (consistent : Consistent lenient) (consistent' : Consistent strict)
include consistent consistent'

theorem rouse (follows : Follows lenient strict) (thread : Token) :
    Follows (lenient.rouse thread) (strict.rouse thread) where
  lock := follows.lock.rouse consistent consistent' thread
  phases other := by
    rw [phase_rouse, phase_rouse, owner_rouse]
    split
    · next same => exact same ▸ (follows.phases other).woken .roused
    · exact follows.phases other

theorem stir (follows : Follows lenient strict) (thread : Token) :
    Follows (lenient.stir thread) (strict.stir thread) where
  lock := follows.lock.stir consistent consistent' thread
  phases other := by
    rw [phase_stir, phase_stir, owner_stir]
    split
    · next same => exact same ▸ (follows.phases other).woken .summoned
    · exact follows.phases other

omit consistent in
/-- The latch is free in the strict monitor when nobody has good reason to hold it. -/
theorem latch_free (follows : Follows lenient strict)
    (free : ∀ thread, (lenient.phase thread).isLatched = true →
      ¬ (lenient.owner = nobody ∨ lenient.owner = thread)) : strict.latch = none := by
  refine consistent'.latch_free fun thread => Bool.eq_false_iff.mpr fun latched => ?_
  obtain ⟨same, useful⟩ := (follows.phases thread).of_latched latched
  exact free thread (same.symm ▸ latched) useful

omit consistent' in
/-- What a step of one thread leaves of the places of the others. -/
theorem others {strict₁ strict' : Monitor} (follows : Follows lenient strict)
    (taken : Advance lenient thread note lenient')
    (kept : ∀ other, other ≠ thread → strict₁.phase other = strict.phase other)
    (moved : InStep thread lenient strict₁ lenient' strict') (different : other ≠ thread) :
    Lags lenient'.owner other (lenient'.phase other) (strict'.phase other) := by
  have woken := moved.others other different
  rw [kept other different] at woken
  refine Lags.woken ?_ woken
  obtain same | ⟨held, -⟩ := owner_of_advance taken
  · rw [same]
    exact follows.phases other
  · refine (follows.phases other).of_unlatched (Bool.eq_false_iff.mpr fun latched => ?_) _
    exact different (consistent.latched_once held latched)

omit consistent' in
/-- A thread that takes the latch while the lock is in other hands falls behind. -/
theorem falls_behind (follows : Follows lenient strict) (vouches : Vouches needsLock lenient)
    (taken : Advance lenient thread note lenient')
    (latched : (lenient'.phase thread).isLatched = true) (held : lenient.owner ≠ nobody)
    (other : lenient.owner ≠ thread) :
    note = none ∧ lenient.happenings thread none lenient' = [] ∧ Resembles lenient' strict ∧
      Approaches (strict.phase thread) (lenient'.phase thread) ∧
      ∀ other, other ≠ thread → lenient'.phase other = lenient.phase other := by
  have lags := follows.phases thread
  have owner := vouches thread
  obtain ⟨owners, depths, contenders, waiters⟩ := follows.lock
  cases taken with
  | @latch request here free =>
    rw [here] at lags owner
    cases request with
    | enter =>
      refine ⟨rfl, happenings_setPhase nofun (by simp [here]) rfl,
        ⟨owners, depths, contenders, waiters⟩, ?_, fun _ => phase_setPhase_ne _ _⟩
      rw [lags.eq_of_unlatched rfl nofun, phase_setPhase_self]
      exact .latch
    | exit | wait | notify => exact absurd (owner rfl) other
  | approach here =>
    rw [here] at lags
    refine ⟨rfl, happenings_setPhase nofun (by simp [here]) rfl,
      ⟨owners, depths, contenders, waiters⟩, ?_, fun _ => phase_setPhase_ne _ _⟩
    rw [phase_setPhase_self]
    generalize strict.phase thread = late at lags ⊢
    cases lags with
    | same _ useful => exact absurd (useful rfl) (not_or.mpr ⟨held, other⟩)
    | behind approaches =>
      cases approaches
      exact .enter
  | retry depth here | reacquire depth here =>
    rw [here] at lags
    refine ⟨rfl, happenings_setPhase nofun (by simp [here]) rfl,
      ⟨owners, depths, contenders, waiters⟩, ?_, fun _ => phase_setPhase_ne _ _⟩
    rw [lags.eq_of_unlatched rfl nofun, phase_setPhase_self]
    constructor
  | leave _ owns | giveUp _ owns => exact absurd owns other
  | misuseWait here => exact absurd (owner (by rw [here]; rfl)) other
  | yield _ here => exact absurd (consistent.vacant thread (by rw [here]; rfl)) held
  | _ => simp [phase_setPhase_self, isLatched] at latched

/-- A step of the lenient monitor is one that the strict one makes later, or the strict one catches
up and makes it now. -/
theorem step (follows : Follows lenient strict) (vouches : Vouches needsLock lenient)
    (stepped : lenient.step thread = some (note, lenient')) :
    (note = none ∧ lenient.happenings thread none lenient' = [] ∧ Follows lenient' strict) ∨
    ∃ caught strict', Unseen thread strict caught ∧
      caught.step thread = some (note, strict') ∧ Follows lenient' strict' ∧
      caught.happenings thread note strict' = lenient.happenings thread note lenient' := by
  have taken := step_advance stepped
  have requests := not_requested_of_advance taken
  by_cases lag : (lenient'.phase thread).isLatched = true ∧ lenient.owner ≠ nobody ∧
      lenient.owner ≠ thread
  · obtain ⟨latched, held, other⟩ := lag
    obtain ⟨quiet, silent, lock, approaches, kept⟩ :=
      follows.falls_behind consistent vouches taken latched held other
    have owner : lenient'.owner = lenient.owner := lock.owner.trans follows.lock.owner.symm
    refine .inl ⟨quiet, silent, lock, fun other' => ?_⟩
    rw [owner]
    by_cases same : other' = thread
    · exact same ▸ .behind approaches held other
    · rw [kept other' same]
      exact follows.phases other'
  · -- Each way of standing in the two monitors comes to the same place by its own means.
    have arrives (caught strict' : Monitor)
        (kept : ∀ other, other ≠ thread → caught.phase other = strict.phase other)
        (moved : InStep thread lenient caught lenient' strict') : Follows lenient' strict' := by
      refine ⟨moved.lock, fun other => ?_⟩
      by_cases same : other = thread
      · subst same
        rw [← moved.here]
        refine .same (fun all checked => requests (.notify all checked)) fun latched => ?_
        have near : lenient.owner = nobody ∨ lenient.owner = other := by
          by_contra far
          exact lag ⟨latched, not_or.mp far⟩
        obtain owner | ⟨-, owner⟩ := owner_of_advance taken
        · rwa [owner]
        · exact owner
      · exact follows.others consistent taken kept moved same
    right
    have lags := follows.phases thread
    generalize here : lenient.phase thread = early, here' : strict.phase thread = late at lags
    cases lags with
    | same =>
      have latch (free : lenient.latch = none) : strict.latch = none := by
        refine follows.latch_free consistent' fun other latched _ => ?_
        have holds := (consistent.latched other).mpr latched
        rw [free] at holds
        contradiction
      obtain ⟨strict', answered, moved⟩ := follows.lock.step consistent consistent'
        (here.trans here'.symm) latch stepped
      exact ⟨strict, strict', .refl, answered, arrives strict strict' (fun _ _ => rfl) moved,
        moved.happenings follows.lock (here.trans here'.symm) note⟩
    | notifier all =>
      have owns := vouches thread (by rw [here]; rfl)
      have free : strict.latch = none := by
        refine follows.latch_free consistent' fun other latched useful => ?_
        rw [owns] at useful
        obtain none | same := useful
        · exact consistent.real (by simp [here]) none
        · simp [← same, here, isLatched] at latched
      simp only [Monitor.step, here, Option.some.injEq, Prod.mk.injEq] at stepped
      obtain ⟨rfl, rfl⟩ := stepped
      obtain ⟨owners, depths, contenders, waiters⟩ := follows.lock
      let caught :=
        { strict with latch := some thread }.setPhase thread (.inside (.notify all true))
      have latches : strict.step thread = some (none, caught) := by
        simp only [Monitor.step, here', latched, if_pos free, caught]
      have inside : caught.phase thread = .inside (.notify all true) := phase_setPhase_self _ _ _
      have checks : caught.step thread =
          some (none, caught.unlatch.setPhase thread (.notifying all)) := by
        have owner : caught.owner = thread := owners.symm.trans owns
        simp [Monitor.step, inside, examine, owner]
      refine ⟨caught, _, .single
        ⟨latches, happenings_setPhase (by rintro ⟨⟩) (by simp [here']) rfl⟩,
        checks, arrives caught _ (fun _ => phase_setPhase_ne _ _) ?_, ?_⟩
      · exact inStep_quiet _ ⟨owners, depths, contenders, waiters⟩
      · have silent : lenient.happenings thread none
            (lenient.setPhase thread (.notifying all)) = [] :=
          happenings_setPhase (by rintro ⟨⟩) (by simp [here]) rfl
        rw [silent]
        exact happenings_setPhase (by rintro ⟨⟩) (by simp [inside]) rfl
    | behind approaches held other =>
      obtain ⟨depth, fresh, rfl⟩ : ∃ depth fresh, early = .acquiring depth fresh := by
        cases approaches with
        | latch =>
          simp only [Monitor.step, here, examine, if_neg other, Option.some.injEq,
            Prod.mk.injEq] at stepped
          obtain ⟨rfl, rfl⟩ := stepped
          exact absurd ⟨by rw [phase_setPhase_self]; rfl, held, other⟩ lag
        | enter | retry | reacquire => exact ⟨_, _, rfl⟩
      have latched : (lenient.phase thread).isLatched = true := by rw [here]; rfl
      have free : strict.latch = none := by
        refine follows.latch_free consistent' fun holder holds useful => ?_
        rw [consistent.latched_once latched holds] at useful
        exact useful.elim held other
      obtain ⟨caught, silent, same, stands, kept⟩ :=
        approaches.catch_up here' free (follows.lock.owner ▸ other)
      have lock : Resembles lenient caught := follows.lock.trans same
      have latch (free : lenient.latch = none) : caught.latch = none := by
        rw [(consistent.latched thread).mpr latched] at free
        contradiction
      obtain ⟨strict', answered, moved⟩ := lock.step consistent (silent.consistent consistent')
        (here.trans stands.symm) latch stepped
      exact ⟨caught, strict', silent, answered, arrives caught strict' kept moved,
        moved.happenings lock (here.trans stands.symm) note⟩

end

/-- While nobody has the latch the monitors differ by the check alone. -/
theorem relaxes (follows : Follows lenient strict) (consistent : Consistent lenient)
    (free : lenient.latch = none) : Relaxes strict lenient where
  lock := ⟨follows.lock.owner.symm, follows.lock.depth.symm, follows.lock.contenders.symm,
    follows.lock.waiters.symm⟩
  phases thread := by
    refine (follows.phases thread).unchecked (Bool.eq_false_iff.mpr fun latched => ?_)
    have holds := (consistent.latched thread).mpr latched
    rw [free] at holds
    contradiction

end Follows

end ManagedRuntime.Monitor
