import ManagedRuntime.Proofs.Monitor.Consistency

/-! Two monitors with the same lock and the same queues. A thread that stands at one place in both
takes the same step in both, and what it does to sleepers is the same. -/
namespace ManagedRuntime.Monitor
open MonitorPhase

/-- The same lock and queues; latch and phases may differ. -/
structure Resembles (first second : Monitor) : Prop where
  owner : first.owner = second.owner
  depth : first.depth = second.depth
  contenders : first.contenders = second.contenders
  waiters : first.waiters = second.waiters

/-- A thread is left alone in both monitors or woken in both. -/
inductive Woken (first second : MonitorPhase) : MonitorPhase → MonitorPhase → Prop
  | not : Woken first second first second
  | summoned : Woken first second first.summon second.summon
  | roused : Woken first second first.rouse second.rouse

/-- `thread` has come to the same place in both monitors. -/
structure InStep (thread : Token) (first second first' second' : Monitor) : Prop where
  lock : Resembles first' second'
  here : first'.phase thread = second'.phase thread
  others : ∀ other, other ≠ thread →
    Woken (first.phase other) (second.phase other) (first'.phase other) (second'.phase other)

section
variable {first second first' second' : Monitor}

theorem Resembles.trans {third : Monitor} (same : Resembles first second)
    (same' : Resembles second third) : Resembles first third :=
  ⟨same.owner.trans same'.owner, same.depth.trans same'.depth,
    same.contenders.trans same'.contenders, same.waiters.trans same'.waiters⟩

theorem Resembles.roused (same : Resembles first second) (same' : Resembles first' second') :
    second.roused second' = first.roused first' := by
  simp only [Monitor.roused, same.waiters, same'.waiters]

/-- What the step brings about is the same as well. -/
theorem InStep.happenings (moved : InStep thread first second first' second')
    (same : Resembles first second) (here : first.phase thread = second.phase thread)
    (note : Option MonitorNote) :
    second.happenings thread note second' = first.happenings thread note first' := by
  simp only [Monitor.happenings, here, moved.here, same.owner, same.roused moved.lock]

theorem inStep_setPhase (next : MonitorPhase) (lock : Resembles first' second')
    (others : ∀ other, other ≠ thread → Woken (first.phase other) (second.phase other)
      (first'.phase other) (second'.phase other)) :
    InStep thread first second (first'.setPhase thread next) (second'.setPhase thread next) where
  lock := ⟨lock.owner, lock.depth, lock.contenders, lock.waiters⟩
  here := by rw [phase_setPhase_self, phase_setPhase_self]
  others other different := by
    rw [phase_setPhase_ne _ _ different, phase_setPhase_ne _ _ different]
    exact others other different

/-- A step that wakes nobody, with the same effect on lock and queues. -/
theorem inStep_quiet (next : MonitorPhase) (lock : Resembles first' second')
    (phases : first'.phases = first.phases := by rfl)
    (phases' : second'.phases = second.phases := by rfl) :
    InStep thread first second (first'.setPhase thread next) (second'.setPhase thread next) := by
  refine inStep_setPhase next lock fun other _ => ?_
  have kept : first'.phase other = first.phase other := by simp only [Monitor.phase, phases]
  have kept' : second'.phase other = second.phase other := by simp only [Monitor.phase, phases']
  rw [kept, kept']
  exact .not

namespace Resembles

theorem summon (same : Resembles first second) : Resembles first.summon second.summon where
  owner := by simpa using same.owner
  depth := by simpa using same.depth
  contenders := by simp [same.contenders]
  waiters := by simpa using same.waiters

theorem woken_summon (same : Resembles first second) (other : Token) :
    Woken (first.phase other) (second.phase other) (first.summon.phase other)
      (second.summon.phase other) := by
  rw [phase_summon, phase_summon, same.contenders]
  split
  · exact .summoned
  · exact .not

theorem requeue (same : Resembles first second) (contenders waiters : List Token) :
    Resembles { first with contenders, waiters } { second with contenders, waiters } :=
  ⟨same.owner, same.depth, rfl, rfl⟩

/-- Waking the waiting threads named by one list. -/
theorem woken_rouse {threads : List Token} (other : Token)
    (here : first'.phase other =
      if other ∈ threads then (first.phase other).rouse else first.phase other)
    (here' : second'.phase other =
      if other ∈ threads then (second.phase other).rouse else second.phase other) :
    Woken (first.phase other) (second.phase other) (first'.phase other) (second'.phase other) := by
  rw [here, here']
  split
  · exact .roused
  · exact .not

variable (consistent : Consistent first) (consistent' : Consistent second)
include consistent consistent'

theorem rouse (same : Resembles first second) (thread : Token) :
    Resembles (first.rouse thread) (second.rouse thread) where
  owner := by simpa using same.owner
  depth := by simpa using same.depth
  contenders := by simpa using same.contenders
  waiters := by
    simp only [waiters_rouse, ← consistent.waiting, ← consistent'.waiting, same.waiters]

theorem stir (same : Resembles first second) (thread : Token) :
    Resembles (first.stir thread) (second.stir thread) where
  owner := by simpa using same.owner
  depth := by simpa using same.depth
  contenders := by
    simp only [contenders_stir, ← consistent.contending, ← consistent'.contending,
      same.contenders]
  waiters := by simpa using same.waiters

theorem rouseFirst (same : Resembles first second) :
    Resembles first.rouseFirst second.rouseFirst where
  owner := by simpa using same.owner
  depth := by simpa using same.depth
  contenders := by simpa using same.contenders
  waiters := by
    rw [waiters_rouseFirst _ consistent.parked consistent.waited_once,
      waiters_rouseFirst _ consistent'.parked consistent'.waited_once, same.waiters]

theorem rouseAll (same : Resembles first second) :
    Resembles first.rouseAll second.rouseAll where
  owner := by simpa using same.owner
  depth := by simpa using same.depth
  contenders := by simpa using same.contenders
  waiters := by rw [waiters_rouseAll _ consistent.parked, waiters_rouseAll _ consistent'.parked]

theorem inStep_notifying (same : Resembles first second) (all : Bool) :
    InStep thread first second
      ((if all then first.rouseAll else first.rouseFirst).setPhase thread .idle)
      ((if all then second.rouseAll else second.rouseFirst).setPhase thread .idle) := by
  cases all with
  | true =>
    refine inStep_setPhase _ (same.rouseAll consistent consistent') fun other _ => ?_
    exact woken_rouse other (phase_rouseAll first other)
      (same.waiters ▸ phase_rouseAll second other)
  | false =>
    refine inStep_setPhase _ (same.rouseFirst consistent consistent') fun other _ => ?_
    simp only [Bool.false_eq_true, if_false, phase_rouseFirst, same.waiters]
    split
    · exact .roused
    · exact .not

omit consistent consistent' in
theorem inStep_latched (same : Resembles first second) (next : MonitorPhase)
    (latch : first.latch = none → second.latch = none)
    (stepped : first.latched thread next = some (note, first')) :
    ∃ second', second.latched thread next = some (note, second') ∧
      InStep thread first second first' second' := by
  obtain ⟨free, rfl, rfl⟩ := latched_eq_some stepped
  refine ⟨_, by rw [latched, if_pos (latch free)], ?_⟩
  exact inStep_quiet next ⟨same.owner, same.depth, same.contenders, same.waiters⟩

omit consistent consistent' in
theorem inStep_examine (same : Resembles first second) (thread : Token)
    (request : MonitorRequest) :
    (first.examine thread request).1 = (second.examine thread request).1 ∧
      InStep thread first second (first.examine thread request).2
        (second.examine thread request).2 := by
  obtain ⟨owner, depth, contenders, waiters⟩ := same
  cases request with
  | enter =>
    simp only [examine, owner, depth]
    split
    · split
      · exact ⟨rfl, inStep_quiet _ ⟨rfl, rfl, contenders, waiters⟩⟩
      · exact ⟨rfl, inStep_quiet _ ⟨owner, depth, contenders, waiters⟩⟩
    · exact ⟨rfl, inStep_quiet _ ⟨owner, depth, contenders, waiters⟩⟩
  | exit =>
    simp only [examine, owner, depth]
    split
    · split
      · exact ⟨rfl, inStep_quiet _ ⟨rfl, rfl, contenders, waiters⟩⟩
      · exact ⟨rfl, inStep_quiet _ ⟨rfl, rfl, contenders, waiters⟩⟩
    · exact ⟨rfl, inStep_quiet _ ⟨owner, depth, contenders, waiters⟩⟩
  | wait =>
    simp only [examine, owner, depth]
    split
    · exact ⟨rfl, inStep_quiet _ ⟨rfl, rfl, contenders, waiters⟩⟩
    · exact ⟨rfl, inStep_quiet _ ⟨owner, depth, contenders, waiters⟩⟩
  | notify all checked =>
    simp only [examine, owner]
    split <;> exact ⟨rfl, inStep_quiet _ ⟨owner, depth, contenders, waiters⟩⟩

/-- The step of a thread that stands at one place in both monitors. -/
theorem step (same : Resembles first second) (here : first.phase thread = second.phase thread)
    (latch : first.latch = none → second.latch = none)
    (stepped : first.step thread = some (note, first')) :
    ∃ second', second.step thread = some (note, second') ∧
      InStep thread first second first' second' := by
  cases stands : first.phase thread with
  | idle | contending | parked => simp [Monitor.step, stands] at stepped
  | requested request =>
    have stands' := here.symm.trans stands
    cases request with
    | notify all checked =>
      cases checked with
      | false =>
        simp only [Monitor.step, stands, stands', Option.some.injEq, Prod.mk.injEq] at stepped ⊢
        obtain ⟨rfl, rfl⟩ := stepped
        exact ⟨_, ⟨rfl, rfl⟩, inStep_quiet _ same⟩
      | true =>
        simp only [Monitor.step, stands, stands'] at stepped ⊢
        exact same.inStep_latched _ latch stepped
    | enter | exit | wait =>
      simp only [Monitor.step, stands, stands'] at stepped ⊢
      exact same.inStep_latched _ latch stepped
  | inside request =>
    have stands' := here.symm.trans stands
    simp only [Monitor.step, stands, stands', Option.some.injEq] at stepped ⊢
    obtain ⟨noted, moved⟩ := same.inStep_examine thread request
    rw [stepped] at noted moved
    refine ⟨(second.examine thread request).2, ?_, moved⟩
    exact Prod.ext noted.symm rfl
  | acquiring depth fresh =>
    have stands' := here.symm.trans stands
    simp only [Monitor.step, stands, stands', ← same.owner] at stepped ⊢
    by_cases free : first.owner = nobody
    · rw [if_pos free] at stepped ⊢
      cases stepped
      refine ⟨_, rfl, inStep_quiet _ ⟨rfl, rfl, ?_, ?_⟩⟩
      · exact same.contenders
      · exact same.waiters
    · rw [if_neg free] at stepped ⊢
      cases stepped
      have joined := congrArg (· ++ [thread]) same.contenders
      refine ⟨_, rfl, inStep_quiet _ ⟨?_, ?_, joined, ?_⟩⟩
      · exact same.owner
      · exact same.depth
      · exact same.waiters
  | summoned depth fresh =>
    have stands' := here.symm.trans stands
    simp only [Monitor.step, stands, stands'] at stepped ⊢
    exact same.inStep_latched _ latch stepped
  | vacating =>
    have stands' := here.symm.trans stands
    simp only [Monitor.step, stands, stands', Option.some.injEq, Prod.mk.injEq] at stepped ⊢
    obtain ⟨rfl, rfl⟩ := stepped
    obtain ⟨owner, depth, contenders, waiters⟩ := same.summon
    refine ⟨_, ⟨rfl, rfl⟩, inStep_setPhase _ ⟨owner, depth, contenders, waiters⟩ ?_⟩
    exact fun other _ => same.woken_summon other
  | yielding saved =>
    have stands' := here.symm.trans stands
    simp only [Monitor.step, stands, stands', Option.some.injEq, Prod.mk.injEq] at stepped ⊢
    obtain ⟨rfl, rfl⟩ := stepped
    refine ⟨_, ⟨rfl, rfl⟩, inStep_setPhase _ same.summon ?_⟩
    exact fun other _ => same.woken_summon other
  | parking saved =>
    have stands' := here.symm.trans stands
    simp only [Monitor.step, stands, stands', Option.some.injEq, Prod.mk.injEq] at stepped ⊢
    obtain ⟨rfl, rfl⟩ := stepped
    have joined := congrArg (· ++ [thread]) same.waiters
    exact ⟨_, ⟨rfl, rfl⟩, inStep_quiet _ ⟨same.owner, same.depth, same.contenders, joined⟩⟩
  | roused saved =>
    have stands' := here.symm.trans stands
    cases saved with
    | none =>
      simp only [Monitor.step, stands, stands'] at stepped ⊢
      split at stepped
      · next free =>
        cases stepped
        exact ⟨_, by rw [if_pos (latch free)], inStep_quiet _ same⟩
      · contradiction
    | some depth =>
      simp only [Monitor.step, stands, stands'] at stepped ⊢
      exact same.inStep_latched _ latch stepped
  | notifying all =>
    have stands' := here.symm.trans stands
    simp only [Monitor.step, stands, stands', Option.some.injEq, Prod.mk.injEq] at stepped ⊢
    obtain ⟨rfl, rfl⟩ := stepped
    exact ⟨_, ⟨rfl, rfl⟩, same.inStep_notifying consistent consistent' all⟩

end Resembles
end

end ManagedRuntime.Monitor
