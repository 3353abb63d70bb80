import ManagedRuntime.Proofs.Monitor.Balance
import ManagedRuntime.Proofs.Monitor.Requests

/-! A section of code between an enter and an exit, among the moves of all other threads. It holds
one level of the lock from the end of its enter to the step of its exit that gives the level up. -/
namespace ManagedRuntime.Monitor
open MonitorPhase

/-- How far a thread is with a section, once it has called the enter. -/
inductive Stage
  | entering
  | inside
  /-- Has called the exit. -/
  | leaving
deriving DecidableEq, Repr

/-- A thread is at a stage of its section, with that many levels of the lock held for it. A request
that is over may not have been noticed yet. -/
inductive Within (monitor : Monitor) (thread : Token) : Stage → Int → Prop
  | asks (on : isEntering (monitor.phase thread) = true) : Within monitor thread .entering 0
  | arrived (idle : monitor.phase thread = .idle) (owns : monitor.owner = thread) :
      Within monitor thread .entering 1
  | works (idle : monitor.phase thread = .idle) (owns : monitor.owner = thread) :
      Within monitor thread .inside 1
  | leaves (asked : monitor.phase thread = .requested .exit ∨
        monitor.phase thread = .inside .exit) (owns : monitor.owner = thread) :
      Within monitor thread .leaving 1
  | left (gone : monitor.phase thread = .vacating ∨ monitor.phase thread = .idle) :
      Within monitor thread .leaving 0

section
variable {monitor after : Monitor} {thread : Token} {now : Log}

/-- Nothing happened to the thread but that it was woken. -/
def Silent (thread : Token) (now : Log) : Prop :=
  ∀ happened, (thread, happened) ∈ now → happened = .roused

theorem Silent.balance (silent : Silent thread now) : balance now thread = 0 := by
  have none {happened : Happening} (other : happened ≠ .roused) :
      now.count (thread, happened) = 0 :=
    List.count_eq_zero.mpr fun member => other (silent happened member)
  rw [Monitor.balance, none (by simp), none (by simp)]
  rfl

theorem Silent.uncalled (silent : Silent thread now) (request : MonitorRequest) :
    (thread, .called request) ∉ now :=
  fun member => nomatch silent _ member

theorem not_advance_of_idle (idle : monitor.phase thread = .idle) :
    ¬Advance monitor thread note after := by
  intro taken
  cases taken <;> simp_all

/-- A thread without a request stays so until it makes one, and takes no levels meanwhile. -/
theorem idle_move (consistent : Consistent monitor) (moved : Move monitor now after)
    (idle : monitor.phase thread = .idle) (uncalled : ∀ request, (thread, .called request) ∉ now) :
    after.phase thread = .idle ∧ balance now thread = 0 := by
  by_cases real : thread = nobody
  · subst real
    have kept := credit_move consistent moved nobody
    rw [credit_nobody consistent, credit_nobody (consistent.move moved)] at kept
    exact ⟨(consistent.move moved).nobody_idle, by omega⟩
  · obtain ⟨request, -, rfl, -⟩ | ⟨note, taken, -⟩ | seen :=
      own_or_spectates consistent moved real
    · exact absurd (List.mem_singleton_self _) (uncalled request)
    · exact absurd taken (not_advance_of_idle idle)
    · refine ⟨?_, Silent.balance seen.silent⟩
      obtain same | summoned | ⟨parked, -, -⟩ := seen.phase
      · exact same.trans idle
      · rw [summoned, idle]
        rfl
      · simp [idle, isParked] at parked

theorem entered_mem_happenings
    (enters : (thread, .entered) ∈ monitor.happenings thread note after) :
    note ≠ some .overflow := by
  simp only [happenings, List.mem_append, mem_roused, or_assoc] at enters
  obtain entered | left | returned | ⟨woken, -, -⟩ := enters
  · split at entered
    · next through => exact through.2.2
    · simp at entered
  · split at left <;> simp at left
  · split at returned <;> simp at returned
  · contradiction

@[simp] theorem isEntering_summon (phase : MonitorPhase) :
    isEntering phase.summon = isEntering phase := by
  rcases phase with _ | _ | _ | _ | ⟨_, _ | _⟩ <;> rfl

theorem isEntering_of_isParked {phase : MonitorPhase} (parked : phase.isParked = true) :
    isEntering phase = false := by
  cases phase with
  | parked => rfl
  | _ => contradiction

theorem Spectates.busy (seen : Spectates monitor now after thread)
    (on : isEntering (monitor.phase thread) = true) : after.phase thread ≠ .idle := by
  intro idle
  obtain same | summoned | ⟨parked, -, -⟩ := seen.phase
  · rw [← same, idle] at on
    contradiction
  · rw [← isEntering_summon, ← summoned, idle] at on
    contradiction
  · exact absurd on (by simp [isEntering_of_isParked parked])

theorem Within.spectates (within : Within monitor thread stage level)
    (seen : Spectates monitor now after thread) : Within after thread stage level := by
  have same {phase : MonitorPhase} (here : monitor.phase thread = phase)
      (awake : phase.summon = phase) (unparked : phase.isParked = false) :
      after.phase thread = phase := by
    obtain same | summoned | ⟨parked, -, -⟩ := seen.phase
    · exact same.trans here
    · rw [summoned, here, awake]
    · rw [here, unparked] at parked
      contradiction
  cases within with
  | asks on =>
    refine .asks ?_
    obtain same | summoned | ⟨parked, -, -⟩ := seen.phase
    · rwa [same]
    · rwa [summoned, isEntering_summon]
    · exact absurd on (by simp [isEntering_of_isParked parked])
  | arrived idle owns => exact .arrived (same idle rfl rfl) (seen.owner.mpr owns)
  | works idle owns => exact .works (same idle rfl rfl) (seen.owner.mpr owns)
  | leaves asked owns =>
    refine .leaves ?_ (seen.owner.mpr owns)
    obtain called | looks := asked
    · exact .inl (same called rfl rfl)
    · exact .inr (same looks rfl rfl)
  | left gone =>
    obtain vacates | idle := gone
    · exact .left (.inl (same vacates rfl rfl))
    · exact .left (.inr (same idle rfl rfl))

/-- A step of an enter goes on with it or takes the lock, unless there are too many levels. -/
theorem Within.advance_entering (on : isEntering (monitor.phase thread) = true)
    (taken : Advance monitor thread note after)
    (through : after.phase thread = .idle → note ≠ some .overflow) :
    isEntering (after.phase thread) = true ∨
      after.phase thread = .idle ∧ after.owner = thread := by
  cases taken with
  | @latch request here =>
    rw [here] at on
    cases request with
    | enter => exact .inl (by simp [phase_setPhase_self, isEntering])
    | exit | wait | notify => contradiction
  | deepen _ owns => exact .inr ⟨phase_setPhase_self _ _ _, owns⟩
  | overflow => exact absurd rfl (through (phase_setPhase_self _ _ _))
  | approach => exact .inl (by simp [phase_setPhase_self, isEntering, entryDepth])
  | take => exact .inr ⟨phase_setPhase_self _ _ _, rfl⟩
  | contend depth here =>
    rw [here] at on
    refine .inl ?_
    rw [phase_setPhase_self]
    simpa [isEntering] using on
  | retry depth here =>
    rw [here] at on
    refine .inl ?_
    rw [phase_setPhase_self]
    simpa [isEntering] using on
  | _ => simp_all [isEntering, entryDepth]

theorem Within.advance (within : Within monitor thread stage level)
    (taken : Advance monitor thread note after)
    (through : isEntering (monitor.phase thread) = true → after.phase thread = .idle →
      note ≠ some .overflow) :
    Within after thread stage (level + balance (monitor.happenings thread note after) thread) := by
  rw [balance_happenings, if_pos rfl]
  cases within with
  | asks on =>
    have ongoing : monitor.phase thread ≠ .inside .exit := by
      intro here
      rw [here] at on
      contradiction
    obtain still | ⟨idle, owns⟩ := advance_entering on taken (through on)
    · have busy : after.phase thread ≠ .idle := by
        intro idle
        rw [idle] at still
        contradiction
      simpa [busy, ongoing] using Within.asks still
    · simpa [on, idle, through on idle, ongoing] using Within.arrived idle owns
  | arrived idle | works idle => exact absurd taken (not_advance_of_idle idle)
  | leaves asked owns =>
    obtain called | looks := asked
    · cases taken with
      | @latch request here =>
        cases here.symm.trans called
        have looks := phase_setPhase_self { monitor with latch := some thread } thread
          (.inside .exit)
        simpa [called, isEntering, entryDepth] using Within.leaves (.inr looks) owns
      | _ => simp_all
    · cases taken with
      | leave =>
        simpa [looks, owns, isEntering, entryDepth] using
          Within.left (.inl (phase_setPhase_self _ _ _))
      | rise =>
        simpa [looks, owns, isEntering, entryDepth] using
          Within.left (.inr (phase_setPhase_self _ _ _))
      | misuseExit _ other => exact absurd owns other
      | _ => simp_all
  | left gone =>
    obtain vacates | idle := gone
    · cases taken with
      | vacate =>
        simpa [vacates, isEntering, entryDepth] using
          Within.left (.inr (phase_setPhase_self _ _ _))
      | _ => simp_all
    · exact absurd taken (not_advance_of_idle idle)

/-- Whoever moves, a thread stays at its stage until it makes a request again. Its levels are
counted right as long as an enter that ends has taken the lock. -/
theorem Within.move (within : Within monitor thread stage level) (consistent : Consistent monitor)
    (moved : Move monitor now after) (real : thread ≠ nobody)
    (uncalled : ∀ request, (thread, .called request) ∉ now)
    (through : isEntering (monitor.phase thread) = true → after.phase thread = .idle →
      (thread, .entered) ∈ now) :
    Within after thread stage (level + balance now thread) := by
  obtain ⟨request, -, rfl, -⟩ | ⟨note, taken, rfl⟩ | seen := own_or_spectates consistent moved real
  · exact absurd (List.mem_singleton_self _) (uncalled request)
  · exact within.advance taken fun on idle => entered_mem_happenings (through on idle)
  · rw [Silent.balance seen.silent, Int.add_zero]
    exact within.spectates seen

/-- An enter does not end without notice. -/
theorem busy_of_silent (consistent : Consistent monitor) (moved : Move monitor now after)
    (silent : Silent thread now) (on : isEntering (monitor.phase thread) = true) :
    after.phase thread ≠ .idle := by
  intro idle
  have real : thread ≠ nobody := by
    refine consistent.real fun before => ?_
    rw [before] at on
    contradiction
  obtain ⟨request, -, rfl, -⟩ | ⟨note, -, rfl⟩ | seen := own_or_spectates consistent moved real
  · exact silent.uncalled request (List.mem_singleton_self _)
  · have returns : (thread, .returned) ∈ monitor.happenings thread note after := by
      simp [happenings, idle]
    cases silent _ returns
  · exact absurd idle (seen.busy on)

theorem entered_of_step (consistent : Consistent monitor)
    (stepped : monitor.step me = some (note, after)) (fits : note ≠ some .overflow)
    (on : isEntering (monitor.phase thread) = true) (idle : after.phase thread = .idle) :
    (thread, .entered) ∈ monitor.happenings me note after := by
  by_cases same : thread = me
  · subst same
    simp [happenings, on, idle, fits]
  · have real : thread ≠ nobody := by
      refine consistent.real fun before => ?_
      rw [before] at on
      contradiction
    have seen := spectates_advance consistent (step_advance stepped) same real
    exact absurd idle (seen.busy on)

theorem Within.begin_enter : Within (monitor.begin thread .enter) thread .entering 0 := by
  refine .asks ?_
  rw [Monitor.begin, phase_setPhase_self]
  rfl

theorem Within.begin_exit (within : Within monitor thread .inside level) :
    Within (monitor.begin thread .exit) thread .leaving level := by
  cases within with
  | works idle owns => exact .leaves (.inl (phase_setPhase_self _ _ _)) owns

/-- A thread that notices the end of its enter owns the lock. -/
theorem Within.arrive (within : Within monitor thread .entering level)
    (idle : monitor.phase thread = .idle) : Within monitor thread .inside level := by
  cases within with
  | asks on =>
    rw [idle] at on
    contradiction
  | arrived _ owns => exact .works idle owns

/-- A thread that notices the end of its exit has nothing left of its section. -/
theorem Within.out (within : Within monitor thread .leaving level)
    (idle : monitor.phase thread = .idle) : level = 0 := by
  cases within with
  | leaves asked => simp [idle] at asked
  | left => rfl

end

end ManagedRuntime.Monitor
