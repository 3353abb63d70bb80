import ManagedRuntime.Proofs.Monitor.Consistency

/-! The levels of the lock that a monitor holds for a thread are the enters that the thread has
completed, less the exits it made as the owner. Levels given up to wait count as held. -/
namespace ManagedRuntime.Monitor
open MonitorPhase

/-- Completed enters of a thread minus its exits as the owner. -/
def balance (log : Log) (thread : Token) : Int :=
  log.count (thread, .entered) - log.count (thread, .left)

/-- Levels of the lock that belong to a thread, in its hands or to be given back to it. -/
def credit (monitor : Monitor) (thread : Token) : Nat :=
  match (monitor.phase thread).saved with
  | some depth => depth.toNat
  | none => if monitor.owner = thread then monitor.depth.toNat else 0

theorem balance_nil (thread : Token) : balance [] thread = 0 := rfl

theorem balance_append (early late : Log) (thread : Token) :
    balance (early ++ late) thread = balance early thread + balance late thread := by
  simp only [balance, List.count_append]
  omega

theorem balance_roused (monitor after : Monitor) (thread : Token) :
    balance (monitor.roused after) thread = 0 := by
  have none {happened : Happening} (other : happened ≠ .roused) :
      (monitor.roused after).count (thread, happened) = 0 := by
    rw [List.count_eq_zero]
    intro member
    simp only [roused, List.mem_map, Prod.mk.injEq] at member
    obtain ⟨_, _, _, same⟩ := member
    exact other same.symm
  rw [balance, none (by simp), none (by simp)]
  rfl

theorem balance_happenings (monitor after : Monitor) (thread other : Token) :
    balance (monitor.happenings thread note after) other =
      if other = thread then
        (if isEntering (monitor.phase thread) ∧ after.phase thread = .idle ∧
          note ≠ some .overflow then 1 else 0) -
        (if monitor.phase thread = .inside .exit ∧ monitor.owner = thread then 1 else 0)
      else 0 := by
  simp only [happenings, balance_append, balance_roused]
  have single (happened : Happening) :
      balance [(thread, happened)] other = if other = thread then
        (if happened = .entered then 1 else 0) - (if happened = .left then 1 else 0) else 0 := by
    simp only [balance, List.count_singleton, beq_iff_eq, Prod.mk.injEq]
    by_cases same : other = thread
    · subst other
      cases happened <;> simp
    · simp [same, Ne.symm same]
  split_ifs <;> simp_all [balance_nil]

theorem toNat_positive {depth : UInt32} (real : depth ≠ 0) : 1 ≤ depth.toNat := by
  rcases Nat.eq_zero_or_pos depth.toNat with zero | positive
  · exact absurd (UInt32.toNat_inj.mp zero) real
  · exact positive

theorem toNat_left {depth : UInt32} (real : depth ≠ 0) :
    (depth - 1).toNat + 1 = depth.toNat := by
  have positive := toNat_positive real
  rw [UInt32.toNat_sub_of_le _ _ (UInt32.le_iff_toNat_le.mpr (by simpa using positive)),
    UInt32.toNat_one]
  omega

section
variable {monitor after : Monitor}

/-- The credit of a thread goes by what it has to give back and by what it owns. -/
theorem credit_congr (saved : (after.phase thread).saved = (monitor.phase thread).saved)
    (owner : after.owner = thread ↔ monitor.owner = thread)
    (depth : monitor.owner = thread → after.depth = monitor.depth) :
    credit after thread = credit monitor thread := by
  simp only [credit, saved, owner]
  split
  · rfl
  · split
    · next owns => rw [depth owns]
    · rfl

theorem credit_nobody (consistent : Consistent monitor) : credit monitor nobody = 0 := by
  rw [credit, consistent.nobody_idle]
  simp only [MonitorPhase.saved]
  split
  · next free => simp [consistent.owned.mp free]
  · rfl

/-- A step moves no levels of other threads. -/
theorem credit_other (taken : Advance monitor thread note after) (different : other ≠ thread)
    (real : other ≠ nobody) : credit after other = credit monitor other := by
  refine credit_congr ?_ (owner_other taken different real) (depth_other taken different real)
  obtain same | ⟨-, summoned⟩ | roused := phase_other taken different
  · rw [same]
  · rw [summoned, saved_summon]
  · rw [roused, saved_rouse]

theorem credit_own (consistent : Consistent monitor)
    (taken : Advance monitor thread note after) :
    (credit after thread : Int) = credit monitor thread +
      (if isEntering (monitor.phase thread) ∧ after.phase thread = .idle ∧
        note ≠ some .overflow then 1 else 0) -
      (if monitor.phase thread = .inside .exit ∧ monitor.owner = thread then 1 else 0) := by
  have still (kept : credit after thread = credit monitor thread)
      (entering : ¬(isEntering (monitor.phase thread) ∧ after.phase thread = .idle ∧
        note ≠ some .overflow))
      (leaving : ¬(monitor.phase thread = .inside .exit ∧ monitor.owner = thread)) :
      (credit after thread : Int) = credit monitor thread +
        (if isEntering (monitor.phase thread) ∧ after.phase thread = .idle ∧
          note ≠ some .overflow then 1 else 0) -
        (if monitor.phase thread = .inside .exit ∧ monitor.owner = thread then 1 else 0) := by
    rw [kept, if_neg entering, if_neg leaving]
    omega
  cases taken with
  | deepen here owns fits =>
    simp [credit, phase_setPhase, here, owns, isEntering, MonitorPhase.saved, toNat_deepened fits]
  | leave here owns last =>
    have busy : monitor.phase thread ≠ .idle := by simp [here]
    have real := consistent.real busy
    have level := toNat_left (consistent.depth_ne_zero busy owns)
    rw [last, UInt32.toNat_zero] at level
    simp [credit, phase_setPhase, here, owns, isEntering, MonitorPhase.saved, entryDepth,
      real.symm, ← level]
  | rise here owns more =>
    have busy : monitor.phase thread ≠ .idle := by simp [here]
    have level := toNat_left (consistent.depth_ne_zero busy owns)
    simp [credit, phase_setPhase, here, owns, isEntering, MonitorPhase.saved, entryDepth]
    omega
  | @take fresh depth here free =>
    have busy : monitor.phase thread ≠ .idle := by simp [here]
    have real := consistent.real busy
    cases fresh with
    | true =>
      have one := (consistent.entry thread depth (by rw [here]; rfl)).2
      simp [credit, phase_setPhase, here, free, isEntering, MonitorPhase.saved, entryDepth, one,
        real.symm]
    | false =>
      simp [credit, phase_setPhase, here, isEntering, MonitorPhase.saved, entryDepth]
  | approach here other =>
    simp [credit, phase_setPhase, here, other, isEntering, MonitorPhase.saved]
  | giveUp here owns =>
    simp [credit, phase_setPhase, here, owns, isEntering, MonitorPhase.saved, entryDepth]
  | latch here | overflow here | notifyUnchecked here | notifyChecked here | giveBack here
  | park here | reacquire depth here =>
    exact still (credit_congr (by rw [phase_setPhase_self, here]; rfl) Iff.rfl fun _ => rfl)
      (by simp [phase_setPhase_self, here, isEntering, entryDepth]) (by simp [here])
  | misuseExit here other | misuseWait here other =>
    exact still (credit_congr (by rw [phase_setPhase_self, here]; rfl) Iff.rfl fun _ => rfl)
      (by simp [here, isEntering, entryDepth]) (by simp [other])
  | contend depth here =>
    exact still
      (credit_congr (by rw [phase_setPhase_self, here, saved_contending]) Iff.rfl fun _ => rfl)
      (by simp [phase_setPhase_self]) (by simp [here])
  | retry depth here =>
    exact still
      (credit_congr (by rw [phase_setPhase_self, here, saved_summoned]) Iff.rfl fun _ => rfl)
      (by simp [phase_setPhase_self]) (by simp [here])
  | vacate here | yield depth here | rouseFirst here | rouseAll here =>
    exact still (credit_congr (by rw [phase_setPhase_self, here]; rfl) (by simp) (by simp))
      (by simp [here, isEntering, entryDepth]) (by simp [here])

theorem credit_advance (consistent : Consistent monitor)
    (taken : Advance monitor thread note after) (other : Token) :
    (credit after other : Int) =
      credit monitor other + balance (monitor.happenings thread note after) other := by
  rw [balance_happenings]
  by_cases same : other = thread
  · subst other
    rw [credit_own consistent taken, if_pos rfl]
    omega
  · rw [if_neg same, Int.add_zero, Int.ofNat_inj]
    by_cases none : other = nobody
    · subst other
      rw [credit_nobody (consistent.advance taken), credit_nobody consistent]
    · exact credit_other taken same none

theorem credit_move (consistent : Consistent monitor) (moved : Move monitor now after)
    (thread : Token) :
    (credit after thread : Int) = credit monitor thread + balance now thread := by
  cases moved with
  | @call caller _ request real idle =>
    have label : balance [(caller, .called request)] thread = 0 := by simp [balance]
    have kept : credit (monitor.begin caller request) thread = credit monitor thread := by
      refine credit_congr ?_ Iff.rfl fun _ => rfl
      rw [Monitor.begin, phase_setPhase]
      split
      · next same =>
        rw [same, idle]
        rfl
      · rfl
    rw [label, kept, Int.add_zero]
  | go stepped => exact credit_advance consistent (step_advance stepped) thread
  | rouse sleeper =>
    have kept : credit (monitor.rouse sleeper) thread = credit monitor thread :=
      credit_congr (view_rouse monitor sleeper saved_rouse thread) (by simp) (by simp)
    rw [balance_roused, kept, Int.add_zero]
  | stir sleeper =>
    have kept : credit (monitor.stir sleeper) thread = credit monitor thread :=
      credit_congr (view_stir monitor sleeper saved_summon thread) (by simp) (by simp)
    rw [balance_nil, kept, Int.add_zero]
  | requeue contenders waiters contended waited => exact (Int.add_zero _).symm

end

/-- Leaving the lock takes one level away, and there is one. -/
theorem depth_of_exit {monitor after : Monitor} (consistent : Consistent monitor)
    (taken : Advance monitor thread note after) (here : monitor.phase thread = .inside .exit)
    (owns : monitor.owner = thread) : after.depth.toNat + 1 = monitor.depth.toNat := by
  have busy : monitor.phase thread ≠ .idle := by simp [here]
  rw [← toNat_left (consistent.depth_ne_zero busy owns)]
  cases taken <;> simp_all

/-- Entering again adds a level, or overflows and adds none. -/
theorem depth_of_enter {monitor after : Monitor} (taken : Advance monitor thread note after)
    (here : monitor.phase thread = .inside .enter) (owns : monitor.owner = thread) :
    monitor.depth.toNat + 1 < UInt32.size ∧ after.depth.toNat = monitor.depth.toNat + 1 ∨
      UInt32.size ≤ monitor.depth.toNat + 1 ∧ after.depth = monitor.depth ∧
        note = some .overflow := by
  cases taken with
  | deepen _ _ fits => exact .inl ⟨fits, toNat_deepened fits⟩
  | overflow _ _ full => exact .inr ⟨full, rfl, rfl⟩
  | _ => simp_all

/-- What is held for a thread changes by the enters it completes and the exits it makes. -/
theorem credit_of_runs {first last : Monitor} (run : Runs Move first log last)
    (consistent : Consistent first) (thread : Token) :
    Consistent last ∧ (credit last thread : Int) = credit first thread + balance log thread := by
  induction run with
  | start => exact ⟨consistent, (Int.add_zero _).symm⟩
  | next _ now ih =>
    obtain ⟨consistent, held⟩ := ih
    refine ⟨consistent.move now, ?_⟩
    rw [balance_append, credit_move consistent now, held, Int.add_assoc]

/-- The levels held for a thread are its completed enters less its exits, in every state. -/
theorem balance_eq_credit {monitor : Monitor} (run : Runs Move {} log monitor) (thread : Token) :
    balance log thread = credit monitor thread := by
  have none : (credit {} thread : Int) = 0 := by
    simp [credit, Monitor.phase, MonitorPhase.saved]
  rw [(credit_of_runs run consistent_initial thread).2, none, Int.zero_add]

end ManagedRuntime.Monitor
