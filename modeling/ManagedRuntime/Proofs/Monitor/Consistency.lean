import Mathlib.Data.List.Nodup
import ManagedRuntime.Proofs.Monitor.Moves

/-! Latch, queues and ownership agree with where the threads stand, between any two moves of any
threads. Waking a sleeper keeps that by itself, so a step is judged by what its own thread does. -/
namespace ManagedRuntime.Monitor
open MonitorPhase

structure Consistent (monitor : Monitor) : Prop where
  latched : ∀ thread, monitor.latch = some thread ↔ (monitor.phase thread).isLatched = true
  contending : ∀ thread, thread ∈ monitor.contenders ↔
    (monitor.phase thread).isContending = true
  contended_once : monitor.contenders.Nodup
  waiting : ∀ thread, thread ∈ monitor.waiters ↔ (monitor.phase thread).isParked = true
  waited_once : monitor.waiters.Nodup
  owned : monitor.owner = nobody ↔ monitor.depth = 0
  nobody_idle : monitor.phase nobody = .idle
  /-- A thread that has a depth to give back has given it up, and it is a real depth. -/
  saved : ∀ thread depth, (monitor.phase thread).saved = some depth →
    monitor.owner ≠ thread ∧ depth ≠ 0
  /-- A thread on its way in is not in already. -/
  entry : ∀ thread depth, (monitor.phase thread).entryDepth = some depth →
    monitor.owner ≠ thread ∧ depth = 1
  vacant : ∀ thread, (monitor.phase thread).hasLetGo = true → monitor.owner = nobody

/-- What a step of `thread` does with the latch. -/
inductive Latching (thread : Token) (before next : Bool) (latch : Option Token) :
    Option Token → Prop
  | keeps (same : next = before) : Latching thread before next latch latch
  | takes (free : latch = none) (inside : next = true) :
      Latching thread before next latch (some thread)
  | drops (held : before = true) (outside : next = false) : Latching thread before next latch none

/-- A step from one phase to the next may touch the lock with the latch in hand, joins a queue
to sleep, and answers for its own thread. -/
structure Settles (monitor : Monitor) (thread : Token) (before next : MonitorPhase)
    (changed : Monitor) : Prop where
  phases : changed.phases = monitor.phases := by rfl
  awake : before.isContending = false ∧ before.isParked = false := by exact ⟨rfl, rfl⟩
  latch : Latching thread before.isLatched next.isLatched monitor.latch changed.latch
  contenders : changed.contenders =
    if next.isContending then monitor.contenders ++ [thread] else monitor.contenders := by rfl
  waiters : changed.waiters =
    if next.isParked then monitor.waiters ++ [thread] else monitor.waiters := by rfl
  owned : changed.owner = nobody ↔ changed.depth = 0
  owner : changed.owner = monitor.owner ∨
    before.isLatched = true ∧ (changed.owner = nobody ∨ changed.owner = thread)
  saved : ∀ depth, next.saved = some depth → changed.owner ≠ thread ∧ depth ≠ 0 := by nofun
  entry : ∀ depth, next.entryDepth = some depth → changed.owner ≠ thread ∧ depth = 1 := by nofun
  vacant : next.hasLetGo = true → changed.owner = nobody := by nofun

namespace Latching
variable {before next : Bool} {latch later : Option Token}

theorem own (latching : Latching thread before next latch later)
    (held : latch = some thread ↔ before = true) : later = some thread ↔ next = true := by
  cases latching with
  | keeps same => rw [same, held]
  | takes free inside => simp [inside]
  | drops held outside => simp [outside]

theorem other (latching : Latching thread before next latch later)
    (held : latch = some thread ↔ before = true) {other : Token} (different : other ≠ thread) :
    later = some other ↔ latch = some other := by
  cases latching with
  | keeps same => rfl
  | takes free inside => simp [free, different.symm]
  | drops from_inside outside => simp [held.mpr from_inside, different.symm]

end Latching

theorem isLatched_of_hasLetGo {phase : MonitorPhase} (gone : phase.hasLetGo = true) :
    phase.isLatched = true := by
  cases phase <;> first | rfl | nomatch gone

theorem toNat_deepened {depth : UInt32} (fits : depth.toNat + 1 < UInt32.size) :
    (depth + 1).toNat = depth.toNat + 1 := by
  simp only [UInt32.toNat_add, UInt32.toNat_one]
  exact Nat.mod_eq_of_lt fits

theorem deepened_ne_zero {depth : UInt32} (fits : depth.toNat + 1 < UInt32.size) :
    depth + 1 ≠ 0 := by
  intro zero
  have level := toNat_deepened fits
  rw [zero, UInt32.toNat_zero] at level
  omega

theorem mem_joined {threads joined : List Token} {sleeps : Bool}
    (queue : joined = if sleeps then threads ++ [thread] else threads) (other : Token) :
    other ∈ joined ↔ other ∈ threads ∨ sleeps = true ∧ other = thread := by
  cases sleeps <;> simp [queue]

theorem nodup_joined {threads joined : List Token} {sleeps : Bool} (absent : thread ∉ threads)
    (once : threads.Nodup) (queue : joined = if sleeps then threads ++ [thread] else threads) :
    joined.Nodup := by
  cases sleeps with
  | false => simpa [queue] using once
  | true => simpa [queue] using List.Nodup.concat absent once

theorem consistent_initial : Consistent {} where
  latched _ := by constructor <;> nofun
  contending _ := by constructor <;> nofun
  contended_once := .nil
  waiting _ := by constructor <;> nofun
  waited_once := .nil
  owned := by constructor <;> exact fun _ => rfl
  nobody_idle := rfl
  saved := nofun
  entry := nofun
  vacant := nofun

namespace Consistent
variable {monitor after : Monitor}

theorem parked (consistent : Consistent monitor) :
    ∀ waiter ∈ monitor.waiters, (monitor.phase waiter).isParked = true :=
  fun waiter waits => (consistent.waiting waiter).mp waits

theorem real (consistent : Consistent monitor) (busy : monitor.phase thread ≠ .idle) :
    thread ≠ nobody := by
  intro same
  exact busy (same ▸ consistent.nobody_idle)

/-- An owner in the middle of a request has a level to leave. -/
theorem depth_ne_zero (consistent : Consistent monitor) (busy : monitor.phase thread ≠ .idle)
    (owns : monitor.owner = thread) : monitor.depth ≠ 0 := by
  intro zero
  exact consistent.real busy (owns.symm.trans (consistent.owned.mpr zero))

theorem acquiring_depth {depth : UInt32} (consistent : Consistent monitor)
    (here : monitor.phase thread = .acquiring depth fresh) : depth ≠ 0 := by
  cases fresh with
  | true =>
    have one := (consistent.entry thread depth (by rw [here]; rfl)).2
    simp [one]
  | false => exact (consistent.saved thread depth (by rw [here]; rfl)).2

/-- Waking a contender, whichever it is, moves it from the queue to the woken. -/
theorem stir (consistent : Consistent monitor) (thread : Token) :
    Consistent (monitor.stir thread) where
  latched other := by
    rw [latch_stir, view_stir monitor thread isLatched_summon]
    exact consistent.latched other
  contending other := by
    rw [contenders_stir, phase_stir]
    by_cases same : other = thread
    · subst same
      rw [if_pos rfl, isContending_summon]
      split
      · simp
      · next awake => simpa [consistent.contending] using awake
    · rw [if_neg same]
      split
      · simpa [same] using consistent.contending other
      · exact consistent.contending other
  contended_once := by
    rw [contenders_stir]
    split
    · exact consistent.contended_once.filter _
    · exact consistent.contended_once
  waiting other := by
    rw [waiters_stir, view_stir monitor thread isParked_summon]
    exact consistent.waiting other
  waited_once := by
    rw [waiters_stir]
    exact consistent.waited_once
  owned := by
    rw [owner_stir, depth_stir]
    exact consistent.owned
  nobody_idle := by
    rw [phase_stir]
    split
    · next same =>
      rw [← same, consistent.nobody_idle]
      rfl
    · exact consistent.nobody_idle
  saved other := by
    rw [owner_stir, view_stir monitor thread saved_summon]
    exact consistent.saved other
  entry other := by
    rw [owner_stir, view_stir monitor thread entryDepth_summon]
    exact consistent.entry other
  vacant other := by
    rw [owner_stir, view_stir monitor thread hasLetGo_summon]
    exact consistent.vacant other

/-- A summons wakes the contender that came first and no other. -/
theorem summon_eq_stir (consistent : Consistent monitor)
    (queued : monitor.contenders = first :: rest) : monitor.summon = monitor.stir first := by
  have contends := (consistent.contending first).mp (by simp [queued])
  have fresh : first ∉ rest := by
    have once := consistent.contended_once
    rw [queued] at once
    exact (List.nodup_cons.mp once).1
  have kept : (first :: rest).filter (· != first) = rest := by
    rw [List.filter_cons_of_neg (by simp), List.filter_eq_self]
    intro other member
    simpa using fun equal : other = first => fresh (equal ▸ member)
  cases here : monitor.phase first with
  | contending depth entering => simp only [Monitor.summon, Monitor.stir, queued, here, kept]
  | _ => simp [here, isContending] at contends

theorem summon (consistent : Consistent monitor) : Consistent monitor.summon := by
  cases queued : monitor.contenders with
  | nil => simpa [Monitor.summon, queued] using consistent
  | cons first rest => exact consistent.summon_eq_stir queued ▸ consistent.stir first

/-- Waking a waiting thread takes it off the queue. -/
theorem rouse (consistent : Consistent monitor) (thread : Token) :
    Consistent (monitor.rouse thread) where
  latched other := by
    rw [latch_rouse, view_rouse monitor thread isLatched_rouse]
    exact consistent.latched other
  contending other := by
    rw [contenders_rouse, view_rouse monitor thread isContending_rouse]
    exact consistent.contending other
  contended_once := by
    rw [contenders_rouse]
    exact consistent.contended_once
  waiting other := by
    rw [waiters_rouse, phase_rouse]
    by_cases same : other = thread
    · subst same
      rw [if_pos rfl, isParked_rouse]
      split
      · simp
      · next awake => simpa [consistent.waiting] using awake
    · rw [if_neg same]
      split
      · simpa [same] using consistent.waiting other
      · exact consistent.waiting other
  waited_once := by
    rw [waiters_rouse]
    split
    · exact consistent.waited_once.filter _
    · exact consistent.waited_once
  owned := by
    rw [owner_rouse, depth_rouse]
    exact consistent.owned
  nobody_idle := by
    rw [phase_rouse]
    split
    · next same =>
      rw [← same, consistent.nobody_idle]
      rfl
    · exact consistent.nobody_idle
  saved other := by
    rw [owner_rouse, view_rouse monitor thread saved_rouse]
    exact consistent.saved other
  entry other := by
    rw [owner_rouse, view_rouse monitor thread entryDepth_rouse]
    exact consistent.entry other
  vacant other := by
    rw [owner_rouse, view_rouse monitor thread hasLetGo_rouse]
    exact consistent.vacant other

theorem rouseFirst (consistent : Consistent monitor) : Consistent monitor.rouseFirst := by
  unfold Monitor.rouseFirst
  split
  · exact consistent
  · exact consistent.rouse _

theorem rouseAll (consistent : Consistent monitor) : Consistent monitor.rouseAll := by
  unfold Monitor.rouseAll
  generalize monitor.waiters = threads
  induction threads generalizing monitor with
  | nil => exact consistent
  | cons thread rest ih => exact ih (consistent.rouse thread)

theorem requeue {contenders waiters : List Token} (consistent : Consistent monitor)
    (contended : monitor.contenders.Perm contenders) (waited : monitor.waiters.Perm waiters) :
    Consistent { monitor with contenders, waiters } where
  latched := consistent.latched
  contending thread := contended.mem_iff.symm.trans (consistent.contending thread)
  contended_once := contended.nodup consistent.contended_once
  waiting thread := waited.mem_iff.symm.trans (consistent.waiting thread)
  waited_once := waited.nodup consistent.waited_once
  owned := consistent.owned
  nobody_idle := consistent.nobody_idle
  saved := consistent.saved
  entry := consistent.entry
  vacant := consistent.vacant

theorem settle {changed : Monitor} {before next : MonitorPhase} (consistent : Consistent monitor)
    (real : thread ≠ nobody) (here : monitor.phase thread = before)
    (settles : Settles monitor thread before next changed) :
    Consistent (changed.setPhase thread next) := by
  subst here
  have others (other : Token) : changed.phase other = monitor.phase other := by
    simp only [Monitor.phase, settles.phases]
  have keeper (held : (monitor.phase thread).isLatched = true) {other : Token}
      (gone : (monitor.phase other).hasLetGo = true) : other = thread := by
    have latched := (consistent.latched other).mpr (isLatched_of_hasLetGo gone)
    exact Option.some.inj (latched.symm.trans ((consistent.latched thread).mpr held))
  have owner_other {other : Token} (different : other ≠ thread) (real : other ≠ nobody)
      (free : monitor.owner ≠ other) : changed.owner ≠ other := by
    obtain same | ⟨-, same | same⟩ := settles.owner
    · exact same ▸ free
    · exact fun equal => real (equal.symm.trans same)
    · exact fun equal => different (equal.symm.trans same)
  constructor
  case latched =>
    intro other
    rw [latch_setPhase, phase_setPhase, others]
    split
    · next same => exact same ▸ settles.latch.own (consistent.latched thread)
    · next different =>
      exact (settles.latch.other (consistent.latched thread) different).trans
        (consistent.latched other)
  case contending =>
    intro other
    rw [contenders_setPhase, phase_setPhase, others, mem_joined settles.contenders,
      consistent.contending]
    split
    · next same => simp [same, settles.awake.1]
    · next different => simp [different]
  case contended_once =>
    rw [contenders_setPhase]
    refine nodup_joined ?_ consistent.contended_once settles.contenders
    simp [consistent.contending, settles.awake.1]
  case waiting =>
    intro other
    rw [waiters_setPhase, phase_setPhase, others, mem_joined settles.waiters,
      consistent.waiting]
    split
    · next same => simp [same, settles.awake.2]
    · next different => simp [different]
  case waited_once =>
    rw [waiters_setPhase]
    refine nodup_joined ?_ consistent.waited_once settles.waiters
    simp [consistent.waiting, settles.awake.2]
  case owned => exact settles.owned
  case nobody_idle =>
    rw [phase_setPhase_ne _ _ real.symm, others]
    exact consistent.nobody_idle
  case saved =>
    intro other depth
    rw [owner_setPhase, phase_setPhase, others]
    split
    · next same => exact same ▸ settles.saved depth
    · next different =>
      intro saved
      have ⟨free, positive⟩ := consistent.saved other depth saved
      have awake : monitor.phase other ≠ .idle := by
        intro idle
        simp [idle, MonitorPhase.saved] at saved
      exact ⟨owner_other different (consistent.real awake) free, positive⟩
  case entry =>
    intro other depth
    rw [owner_setPhase, phase_setPhase, others]
    split
    · next same => exact same ▸ settles.entry depth
    · next different =>
      intro entry
      have ⟨free, one⟩ := consistent.entry other depth entry
      have awake : monitor.phase other ≠ .idle := by
        intro idle
        simp [idle, entryDepth] at entry
      exact ⟨owner_other different (consistent.real awake) free, one⟩
  case vacant =>
    intro other
    rw [owner_setPhase, phase_setPhase, others]
    split
    · next same => exact settles.vacant
    · next different =>
      intro gone
      obtain same | ⟨held, -⟩ := settles.owner
      · exact same.trans (consistent.vacant other gone)
      · exact absurd (keeper held gone) different

theorem begin {request : MonitorRequest} (consistent : Consistent monitor)
    (real : thread ≠ nobody) (idle : monitor.phase thread = .idle) :
    Consistent (monitor.begin thread request) :=
  consistent.settle real idle
    { latch := .keeps rfl, owned := consistent.owned, owner := .inl rfl }

/-- A thread keeps its consistency whichever way its step goes. What it has to give back, it
carries along. -/
theorem advance (consistent : Consistent monitor) (taken : Advance monitor thread note after) :
    Consistent after := by
  have real : thread ≠ nobody := by
    refine consistent.real ?_
    intro idle
    cases taken <;> simp_all
  have owned := consistent.owned
  have carries {before next : MonitorPhase} (here : monitor.phase thread = before)
      (same : next.saved = before.saved) :
      ∀ depth, next.saved = some depth → monitor.owner ≠ thread ∧ depth ≠ 0 := by
    rw [same, ← here]
    exact consistent.saved thread
  have enters {before next : MonitorPhase} (here : monitor.phase thread = before)
      (same : next.entryDepth = before.entryDepth) :
      ∀ depth, next.entryDepth = some depth → monitor.owner ≠ thread ∧ depth = 1 := by
    rw [same, ← here]
    exact consistent.entry thread
  cases taken with
  | notifyUnchecked here | giveBack here =>
    exact consistent.settle real here { latch := .keeps rfl, owned, owner := .inl rfl }
  | latch here free =>
    exact consistent.settle real here { latch := .takes free rfl, owned, owner := .inl rfl }
  | overflow here | misuseExit here | notifyChecked here =>
    exact consistent.settle real here { latch := .drops rfl rfl, owned, owner := .inl rfl }
  | misuseWait here other =>
    exact consistent.settle real here { latch := .keeps rfl, owned, owner := .inl rfl }
  | deepen here owns fits =>
    have owned : monitor.owner = nobody ↔ monitor.depth + 1 = 0 :=
      iff_of_false (owns ▸ real) (deepened_ne_zero fits)
    exact consistent.settle real here { latch := .drops rfl rfl, owned, owner := .inl rfl }
  | rise here owns more =>
    have owned : monitor.owner = nobody ↔ monitor.depth - 1 = 0 := iff_of_false (owns ▸ real) more
    exact consistent.settle real here { latch := .drops rfl rfl, owned, owner := .inl rfl }
  | leave here owns last =>
    exact consistent.settle real here
      { latch := .keeps rfl
        owned := iff_of_true rfl last
        owner := .inr ⟨rfl, .inl rfl⟩
        vacant := fun _ => rfl }
  | giveUp here owns =>
    have positive := consistent.depth_ne_zero (by simp [here]) owns
    exact consistent.settle real here
      { latch := .keeps rfl
        owned := iff_of_true rfl rfl
        owner := .inr ⟨rfl, .inl rfl⟩
        saved := fun _ same => ⟨real.symm, Option.some.inj same ▸ positive⟩
        vacant := fun _ => rfl }
  | approach here other =>
    exact consistent.settle real here
      { latch := .keeps rfl
        owned
        owner := .inl rfl
        entry := fun _ same => ⟨other, (Option.some.inj same).symm⟩ }
  | take depth here free =>
    exact consistent.settle real here
      { latch := .drops rfl rfl
        owned := iff_of_false real (consistent.acquiring_depth here)
        owner := .inr ⟨rfl, .inr rfl⟩ }
  | contend depth here held =>
    exact consistent.settle real here
      { latch := .drops rfl rfl
        owned
        owner := .inl rfl
        saved := carries here (saved_contending depth _)
        entry := enters here (entryDepth_contending depth _) }
  | retry depth here free =>
    exact consistent.settle real here
      { latch := .takes free rfl
        owned
        owner := .inl rfl
        saved := carries here (saved_summoned depth _).symm
        entry := enters here (entryDepth_summoned depth _).symm }
  | reacquire depth here free =>
    exact consistent.settle real here
      { latch := .takes free rfl, owned, owner := .inl rfl, saved := carries here rfl }
  | park here =>
    exact consistent.settle real here
      { latch := .drops rfl rfl, owned, owner := .inl rfl, saved := carries here rfl }
  | vacate here =>
    have kept : monitor.summon.phase thread = .vacating := by
      rw [phase_summon, here]
      split <;> rfl
    exact consistent.summon.settle real kept
      { latch := .drops rfl rfl, owned := consistent.summon.owned, owner := .inl rfl }
  | yield depth here =>
    have kept : monitor.summon.phase thread = .yielding depth := by
      rw [phase_summon, here]
      split <;> rfl
    have carried := consistent.summon.saved thread
    rw [kept] at carried
    exact consistent.summon.settle real kept
      { latch := .keeps rfl
        owned := consistent.summon.owned
        owner := .inl rfl
        saved := carried
        vacant := fun _ => consistent.summon.vacant thread (by rw [kept]; rfl) }
  | rouseFirst here =>
    have kept : monitor.rouseFirst.phase thread = .notifying false := by
      rw [phase_rouseFirst, here]
      split <;> rfl
    exact consistent.rouseFirst.settle real kept
      { latch := .keeps rfl, owned := consistent.rouseFirst.owned, owner := .inl rfl }
  | rouseAll here =>
    have kept : monitor.rouseAll.phase thread = .notifying true := by
      rw [phase_rouseAll, here]
      split <;> rfl
    exact consistent.rouseAll.settle real kept
      { latch := .keeps rfl, owned := consistent.rouseAll.owned, owner := .inl rfl }

theorem move (consistent : Consistent monitor) (moved : Move monitor now after) :
    Consistent after := by
  cases moved with
  | call real idle => exact consistent.begin real idle
  | go stepped => exact consistent.advance (step_advance stepped)
  | rouse thread => exact consistent.rouse thread
  | stir thread => exact consistent.stir thread
  | requeue contenders waiters contended waited => exact consistent.requeue contended waited

end Consistent

/-- However threads use a new monitor, it stays consistent. -/
theorem consistent_of_runs {monitor : Monitor} (run : Runs Move {} log monitor) :
    Consistent monitor :=
  run.invariant Consistent (fun consistent moved => consistent.move moved) consistent_initial

end ManagedRuntime.Monitor
