import ManagedRuntime.Proofs.Monitor.Consistency

/-! A request of one thread among the moves of all others. Between the steps that the thread makes
itself it is at most woken, and what it owns stays as it left it. -/
namespace ManagedRuntime.Monitor
open MonitorPhase

/-- What a move leaves of a thread that has no part in it. -/
structure Spectates (monitor : Monitor) (now : Log) (after : Monitor) (thread : Token) : Prop where
  phase : after.phase thread = monitor.phase thread ∨
    after.phase thread = (monitor.phase thread).summon ∨
    (monitor.phase thread).isParked = true ∧
      after.phase thread = (monitor.phase thread).rouse ∧ (thread, .roused) ∈ now
  owner : after.owner = thread ↔ monitor.owner = thread
  depth : monitor.owner = thread → after.depth = monitor.depth
  silent : ∀ happened, (thread, happened) ∈ now → happened = .roused

section
variable {monitor after : Monitor}

theorem mem_roused : (thread, happened) ∈ monitor.roused after ↔
    happened = .roused ∧ thread ∈ monitor.waiters ∧ thread ∉ after.waiters := by
  simp only [roused, List.mem_map, List.mem_filter, Prod.mk.injEq]
  constructor
  · rintro ⟨waiter, ⟨waits, gone⟩, rfl, rfl⟩
    exact ⟨rfl, waits, by simpa using gone⟩
  · rintro ⟨rfl, waits, gone⟩
    exact ⟨thread, ⟨waits, by simpa using gone⟩, rfl, rfl⟩

theorem mem_happenings_other (different : other ≠ thread)
    (happens : (other, happened) ∈ monitor.happenings thread note after) :
    (other, happened) ∈ monitor.roused after := by
  simp only [happenings, List.mem_append, or_assoc] at happens
  obtain entered | left | returned | woken := happens
  · split at entered <;> simp [different] at entered
  · split at left <;> simp [different] at left
  · split at returned <;> simp [different] at returned
  · exact woken

theorem returned_mem_happenings
    (returns : (thread, .returned) ∈ monitor.happenings thread note after) :
    after.phase thread = .idle := by
  simp only [happenings, List.mem_append, mem_roused, or_assoc] at returns
  obtain entered | left | returned | ⟨woken, -, -⟩ := returns
  · split at entered <;> simp at entered
  · split at left <;> simp at left
  · split at returned
    · next idle => exact idle
    · simp at returned
  · contradiction

/-- A waiting thread that another one wakes is on record as taken off. -/
theorem Consistent.mem_roused_of_rouse (consistent : Consistent monitor) (next : Consistent after)
    (parked : (monitor.phase thread).isParked = true)
    (woken : after.phase thread = (monitor.phase thread).rouse) :
    (thread, .roused) ∈ monitor.roused after := by
  rw [mem_roused]
  refine ⟨rfl, (consistent.waiting thread).mpr parked, fun waits => ?_⟩
  have still := (next.waiting thread).mp waits
  rw [woken, isParked_rouse] at still
  contradiction

theorem rouse_eq_self {phase : MonitorPhase} (awake : phase.isParked = false) :
    phase.rouse = phase := by
  cases phase <;> simp_all [MonitorPhase.rouse, isParked]

theorem spectates_advance (consistent : Consistent monitor)
    (taken : Advance monitor thread note after) (different : other ≠ thread)
    (real : other ≠ nobody) :
    Spectates monitor (monitor.happenings thread note after) after other where
  phase := by
    rcases phase_other taken different with same | ⟨-, summoned⟩ | roused
    · exact .inl same
    · exact .inr (.inl summoned)
    · cases parked : (monitor.phase other).isParked with
      | false => exact .inl (roused.trans (rouse_eq_self parked))
      | true =>
        have woken := consistent.mem_roused_of_rouse (consistent.advance taken) parked roused
        exact .inr (.inr ⟨rfl, roused, List.mem_append_right _ woken⟩)
  owner := owner_other taken different real
  depth := depth_other taken different real
  silent happened happens := (mem_roused.mp (mem_happenings_other different happens)).1

/-- A move is a call of the thread, a step of it or none of its business. -/
theorem own_or_spectates (consistent : Consistent monitor) (moved : Move monitor now after)
    (real : thread ≠ nobody) :
    (∃ request, monitor.phase thread = .idle ∧ now = [(thread, .called request)] ∧
      after = monitor.begin thread request) ∨
    (∃ note, Advance monitor thread note after ∧ now = monitor.happenings thread note after) ∨
    Spectates monitor now after thread := by
  cases moved with
  | @call caller _ request calls idle =>
    by_cases same : thread = caller
    · subst same
      exact .inl ⟨request, idle, rfl, rfl⟩
    · refine .inr (.inr ⟨.inl ?_, Iff.rfl, fun _ => rfl, ?_⟩)
      · rw [Monitor.begin, phase_setPhase_ne _ _ same]
      · intro happened happens
        simp [same] at happens
  | @go note _ _ caller stepped =>
    by_cases same : thread = caller
    · subst same
      exact .inr (.inl ⟨note, step_advance stepped, rfl⟩)
    · exact .inr (.inr (spectates_advance consistent (step_advance stepped) same real))
  | rouse sleeper =>
    refine .inr (.inr ⟨?_, by simp, by simp, fun happened happens => (mem_roused.mp happens).1⟩)
    rw [phase_rouse]
    split
    · next same =>
      subst same
      cases parked : (monitor.phase thread).isParked with
      | false => exact .inl (rouse_eq_self parked)
      | true =>
        have woken := consistent.mem_roused_of_rouse (consistent.rouse thread) parked
          (by rw [phase_rouse, if_pos rfl])
        exact .inr (.inr ⟨rfl, rfl, woken⟩)
    · exact .inl rfl
  | stir sleeper =>
    refine .inr (.inr ⟨?_, by simp, by simp, by simp⟩)
    rw [phase_stir]
    split
    · next same => exact .inr (.inl (same ▸ rfl))
    · exact .inl rfl
  | requeue contenders waiters contended waited =>
    exact .inr (.inr ⟨.inl rfl, Iff.rfl, fun _ => rfl, by simp⟩)

/-- What holds of a thread at a call and survives every move that does not end the request holds
for as long as the request takes. -/
theorem until_returned (holds : Monitor → Log → Prop) {first last : Monitor}
    (keeps : ∀ {monitor log now after}, Consistent monitor → holds monitor log →
      Move monitor now after → (thread, .returned) ∉ now → holds after (log ++ now))
    (run : Runs Move first log last) (consistent : Consistent first) (initial : holds first [])
    (unreturned : (thread, .returned) ∉ log) : Consistent last ∧ holds last log := by
  induction run with
  | start => exact ⟨consistent, initial⟩
  | next early now ih =>
    simp only [List.mem_append, not_or] at unreturned
    obtain ⟨consistent, held⟩ := ih unreturned.1
    exact ⟨consistent.move now, keeps consistent held now unreturned.2⟩

end

/-- In a wait that was called at `level`: still the owner, or with that depth to take back. -/
def Waits (thread : Token) (level : UInt32) (monitor : Monitor) : Prop :=
  (monitor.phase thread = .requested .wait ∨ monitor.phase thread = .inside .wait) ∧
      monitor.owner = thread ∧ monitor.depth = level ∨
    (monitor.phase thread).saved = some level

section
variable {monitor after : Monitor} {thread : Token} {level : UInt32}

theorem waits_begin (owns : monitor.owner = thread) :
    Waits thread monitor.depth (monitor.begin thread .wait) := by
  refine .inl ⟨.inl ?_, owns, rfl⟩
  rw [Monitor.begin, phase_setPhase_self]

theorem Waits.busy (waits : Waits thread level monitor) : monitor.phase thread ≠ .idle := by
  intro idle
  simp [Waits, idle, MonitorPhase.saved] at waits

theorem Waits.spectates (waits : Waits thread level monitor)
    (seen : Spectates monitor now after thread) : Waits thread level after := by
  obtain ⟨asked, owns, here⟩ | saved := waits
  · refine .inl ⟨?_, seen.owner.mpr owns, (seen.depth owns).trans here⟩
    obtain same | summoned | ⟨parked, -, -⟩ := seen.phase
    · rwa [same]
    · obtain here | here := asked <;> simp [summoned, here, MonitorPhase.summon]
    · obtain here | here := asked <;> simp [here, isParked] at parked
  · right
    obtain same | summoned | ⟨-, roused, -⟩ := seen.phase
    · rwa [same]
    · rwa [summoned, saved_summon]
    · rwa [roused, saved_rouse]

/-- A step of a waiting thread goes on with the wait or ends it with the lock taken back. -/
theorem Waits.advance (waits : Waits thread level monitor)
    (taken : Advance monitor thread note after) :
    Waits thread level after ∨
      after.phase thread = .idle ∧ after.owner = thread ∧ after.depth = level := by
  have carries {next : MonitorPhase} (changed : Monitor) (same : next.saved = some level) :
      Waits thread level (changed.setPhase thread next) :=
    .inr ((congrArg MonitorPhase.saved (phase_setPhase_self changed thread next)).trans same)
  obtain ⟨asked, owns, deep⟩ | saved := waits
  · cases taken with
    | latch here =>
      obtain called | entered := asked
      · cases here.symm.trans called
        exact .inl (.inl ⟨.inr (phase_setPhase_self _ _ _), owns, deep⟩)
      · cases here.symm.trans entered
    | giveUp => exact .inl (carries _ (congrArg some deep))
    | misuseWait _ other => exact absurd owns other
    | _ => simp_all
  · cases taken with
    | @take fresh depth here =>
      rw [here] at saved
      cases fresh with
      | true => cases saved
      | false => exact .inr ⟨phase_setPhase_self _ _ _, rfl, Option.some.inj saved⟩
    | contend depth here =>
      rw [here] at saved
      exact .inl (carries _ ((saved_contending depth _).trans saved))
    | retry depth here =>
      rw [here, saved_summoned] at saved
      exact .inl (carries _ saved)
    | yield depth here | reacquire depth here =>
      rw [here] at saved
      exact .inl (carries _ saved)
    | park here =>
      rw [here] at saved
      exact .inl (carries _ saved)
    | _ => simp_all [MonitorPhase.saved]

theorem Waits.move (waits : Waits thread level monitor) (consistent : Consistent monitor)
    (moved : Move monitor now after) (unreturned : (thread, .returned) ∉ now) :
    Waits thread level after := by
  obtain ⟨request, idle, -, -⟩ | ⟨note, taken, rfl⟩ | seen :=
    own_or_spectates consistent moved (consistent.real waits.busy)
  · exact absurd idle waits.busy
  · obtain waits | ⟨idle, -, -⟩ := waits.advance taken
    · exact waits
    · exact absurd (by simp [happenings, idle]) unreturned
  · exact waits.spectates seen

theorem Waits.until_returned (waits : Waits thread level monitor) (consistent : Consistent monitor)
    (run : Runs Move monitor log after) (unreturned : (thread, .returned) ∉ log) :
    Consistent after ∧ Waits thread level after :=
  Monitor.until_returned (fun monitor _ => Waits thread level monitor)
    (fun consistent waits moved => waits.move consistent moved) run consistent waits unreturned

/-- The wait of an owner returns with the lock at the depth it was called at. -/
theorem Waits.returned (waits : Waits thread level monitor) (consistent : Consistent monitor)
    (moved : Move monitor now after) (returns : (thread, .returned) ∈ now) :
    after.owner = thread ∧ after.depth = level := by
  obtain ⟨request, idle, -, -⟩ | ⟨note, taken, rfl⟩ | seen :=
    own_or_spectates consistent moved (consistent.real waits.busy)
  · exact absurd idle waits.busy
  · obtain waits | ⟨-, taken⟩ := waits.advance taken
    · exact absurd (returned_mem_happenings returns) waits.busy
    · exact taken
  · simpa using seen.silent _ returns

end

/-- Where an exit or a wait of a thread without the lock can stand. -/
def isIdling : MonitorPhase → Bool
  | .requested .exit | .inside .exit | .requested .wait | .inside .wait => true
  | .parking none | .parked none | .roused none => true
  | _ => false

/-- In an exit or a wait that was called without the lock. -/
def Misuses (thread : Token) (monitor : Monitor) : Prop :=
  isIdling (monitor.phase thread) = true ∧ monitor.owner ≠ thread

section
variable {monitor after : Monitor} {thread : Token}

theorem misuses_begin {request : MonitorRequest} (wrong : request = .exit ∨ request = .wait)
    (other : monitor.owner ≠ thread) : Misuses thread (monitor.begin thread request) := by
  refine ⟨?_, other⟩
  rw [Monitor.begin, phase_setPhase_self]
  obtain rfl | rfl := wrong <;> rfl

theorem Misuses.busy (misuses : Misuses thread monitor) : monitor.phase thread ≠ .idle := by
  intro idle
  simp [Misuses, idle, isIdling] at misuses

theorem Misuses.spectates (misuses : Misuses thread monitor)
    (seen : Spectates monitor now after thread) : Misuses thread after := by
  obtain ⟨idling, other⟩ := misuses
  refine ⟨?_, fun owns => other (seen.owner.mp owns)⟩
  obtain same | summoned | ⟨-, roused, -⟩ := seen.phase
  · rwa [same]
  · rw [summoned]
    cases here : monitor.phase thread <;> simp_all [isIdling, MonitorPhase.summon]
  · rw [roused]
    cases here : monitor.phase thread with
    | parked saved => cases saved <;> simp_all [isIdling, MonitorPhase.rouse]
    | _ => simp_all [isIdling, MonitorPhase.rouse]

/-- Whatever a thread does in such a request, the lock stays with whom it is. -/
theorem Misuses.advance (misuses : Misuses thread monitor)
    (taken : Advance monitor thread note after) :
    after.owner = monitor.owner ∧ after.depth = monitor.depth ∧
      (Misuses thread after ∨ after.phase thread = .idle) := by
  obtain ⟨idling, other⟩ := misuses
  have stays {changed : Monitor} {next : MonitorPhase} (same : isIdling next = true)
      (kept : changed.owner = monitor.owner) : Misuses thread (changed.setPhase thread next) :=
    ⟨(congrArg isIdling (phase_setPhase_self changed thread next)).trans same, kept ▸ other⟩
  cases taken with
  | @latch request here =>
    have looks : isIdling (.inside request) = true := by
      rw [here] at idling
      cases request <;> first | rfl | exact idling
    exact ⟨rfl, rfl, .inl (stays looks rfl)⟩
  | leave _ owns | rise _ owns | giveUp _ owns => exact absurd owns other
  | misuseExit | giveBack => exact ⟨rfl, rfl, .inr (phase_setPhase_self _ _ _)⟩
  | misuseWait => exact ⟨rfl, rfl, .inl (stays rfl rfl)⟩
  | @park saved here =>
    have parks : isIdling (.parked saved) = true := by
      rw [here] at idling
      cases saved with
      | none => rfl
      | some depth => cases idling
    exact ⟨rfl, rfl, .inl (stays parks rfl)⟩
  | _ => simp_all [isIdling]

theorem Misuses.move (misuses : Misuses thread monitor) (consistent : Consistent monitor)
    (moved : Move monitor now after) (unreturned : (thread, .returned) ∉ now) :
    Misuses thread after := by
  obtain ⟨request, idle, -, -⟩ | ⟨note, taken, rfl⟩ | seen :=
    own_or_spectates consistent moved (consistent.real misuses.busy)
  · exact absurd idle misuses.busy
  · obtain ⟨-, -, misuses | idle⟩ := misuses.advance taken
    · exact misuses
    · exact absurd (by simp [happenings, idle]) unreturned
  · exact misuses.spectates seen

theorem Misuses.until_returned (misuses : Misuses thread monitor)
    (consistent : Consistent monitor) (run : Runs Move monitor log after)
    (unreturned : (thread, .returned) ∉ log) : Consistent after ∧ Misuses thread after :=
  Monitor.until_returned (fun monitor _ => Misuses thread monitor)
    (fun consistent misuses moved => misuses.move consistent moved) run consistent misuses
    unreturned

end

end ManagedRuntime.Monitor
