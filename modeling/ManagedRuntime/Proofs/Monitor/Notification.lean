import ManagedRuntime.Proofs.Monitor.Requests

/-! The latch is held from the step of a wait that gives up the lock to the one that goes to sleep,
so nobody else can own the lock and notify in between. -/
namespace ManagedRuntime.Monitor
open MonitorPhase

/-- Of a wait that an owner called at `level`: what keeps it from missing a notification. -/
inductive Heeds (thread : Token) (level : UInt32) (monitor : Monitor) (log : Log) : Prop
  | owning (asked : monitor.phase thread = .requested .wait ∨ monitor.phase thread = .inside .wait)
      (owns : monitor.owner = thread) (deep : monitor.depth = level)
  | yielding (here : monitor.phase thread = .yielding level)
  | parking (here : monitor.phase thread = .parking (some level))
  | parked (here : monitor.phase thread = .parked (some level))
  | roused (woken : (thread, .roused) ∈ log)

section
variable {monitor after : Monitor} {thread : Token} {level : UInt32}

theorem heeds_begin (owns : monitor.owner = thread) :
    Heeds thread monitor.depth (monitor.begin thread .wait) [] := by
  refine .owning (.inl ?_) owns rfl
  rw [Monitor.begin, phase_setPhase_self]

/-- A wait does not come to its end before its thread has been taken off. -/
theorem Heeds.stopped (heeds : Heeds thread level monitor log)
    (idle : monitor.phase thread = .idle) : (thread, .roused) ∈ log := by
  cases heeds with
  | owning asked => obtain here | here := asked <;> simp [here] at idle
  | yielding here | parking here | parked here => simp [here] at idle
  | roused woken => exact woken

theorem Heeds.spectates (heeds : Heeds thread level monitor log)
    (seen : Spectates monitor now after thread) : Heeds thread level after (log ++ now) := by
  have phase : after.phase thread = monitor.phase thread ∨
      (monitor.phase thread).isContending = true ∨ (thread, .roused) ∈ now := by
    obtain same | summoned | ⟨-, -, woken⟩ := seen.phase
    · exact .inl same
    · cases here : monitor.phase thread <;>
        simp_all [MonitorPhase.summon, isContending]
    · exact .inr (.inr woken)
  obtain same | contends | woken := phase
  · cases heeds with
    | owning asked owns deep =>
      exact .owning (by rwa [same]) (seen.owner.mpr owns) ((seen.depth owns).trans deep)
    | yielding here => exact .yielding (same.trans here)
    | parking here => exact .parking (same.trans here)
    | parked here => exact .parked (same.trans here)
    | roused woken => exact .roused (List.mem_append_left _ woken)
  · cases heeds with
    | owning asked => obtain here | here := asked <;> simp [here, isContending] at contends
    | yielding here | parking here | parked here => simp [here, isContending] at contends
    | roused woken => exact .roused (List.mem_append_left _ woken)
  · exact .roused (List.mem_append_right _ woken)

theorem Heeds.advance (heeds : Heeds thread level monitor log)
    (taken : Advance monitor thread note after) : Heeds thread level after (log ++ now) := by
  cases heeds with
  | owning asked owns deep =>
    obtain here | here := asked
    · cases taken with
      | latch here' free =>
        cases here.symm.trans here'
        exact .owning (.inr (phase_setPhase_self _ _ _)) owns deep
      | _ => simp_all
    · cases taken with
      | giveUp here' _ => exact .yielding (deep ▸ phase_setPhase_self _ _ _)
      | misuseWait _ other => exact absurd owns other
      | _ => simp_all
  | yielding here =>
    cases taken with
    | yield depth here' =>
      cases here.symm.trans here'
      exact .parking (phase_setPhase_self _ _ _)
    | _ => simp_all
  | parking here =>
    cases taken with
    | park here' =>
      cases here.symm.trans here'
      exact .parked (phase_setPhase_self _ _ _)
    | _ => simp_all
  | parked here => cases taken <;> simp_all
  | roused woken => exact .roused (List.mem_append_left _ woken)

theorem Heeds.move (heeds : Heeds thread level monitor log) (consistent : Consistent monitor)
    (real : thread ≠ nobody) (moved : Move monitor now after) :
    Heeds thread level after (log ++ now) := by
  obtain ⟨request, idle, -, -⟩ | ⟨note, taken, -⟩ | seen := own_or_spectates consistent moved real
  · exact .roused (List.mem_append_left _ (heeds.stopped idle))
  · exact heeds.advance taken
  · exact heeds.spectates seen

theorem Heeds.runs (heeds : Heeds thread level monitor []) (consistent : Consistent monitor)
    (real : thread ≠ nobody) (run : Runs Move monitor log after) :
    Consistent after ∧ Heeds thread level after log := by
  induction run with
  | start => exact ⟨consistent, heeds⟩
  | next _ now ih => exact ⟨ih.1.move now, ih.2.move ih.1 real now⟩

/-- While anyone else has the lock, a wait of its former owner is parked or over. -/
theorem Heeds.parked_or_roused (heeds : Heeds thread level monitor log)
    (consistent : Consistent monitor) (held : monitor.owner ≠ nobody)
    (other : monitor.owner ≠ thread) :
    monitor.phase thread = .parked (some level) ∧ thread ∈ monitor.waiters ∨
      (thread, .roused) ∈ log := by
  cases heeds with
  | owning asked owns deep => exact absurd owns other
  | yielding here => exact absurd (consistent.vacant thread (by rw [here]; rfl)) held
  | parking here => exact absurd (consistent.vacant thread (by rw [here]; rfl)) held
  | parked here => exact .inl ⟨here, (consistent.waiting thread).mpr (by rw [here]; rfl)⟩
  | roused woken => exact .inr woken

/-- Nobody is left waiting when all have been notified. -/
theorem notify_all (consistent : Consistent monitor) (taken : Advance monitor other note after)
    (here : monitor.phase other = .notifying true) :
    after.waiters = [] ∧ ∀ waiter, (monitor.phase waiter).isParked = true →
      after.phase waiter = (monitor.phase waiter).rouse ∧
        (waiter, .roused) ∈ monitor.happenings other note after := by
  have awake : ∀ waiter, (monitor.phase waiter).isParked = true → waiter ≠ other := by
    rintro waiter parked rfl
    simp [here, isParked] at parked
  have emptied : after.waiters = [] := by
    cases taken with
    | rouseAll => exact waiters_rouseAll monitor consistent.parked
    | _ => simp_all
  refine ⟨emptied, fun waiter parked => ⟨?_, ?_⟩⟩
  · cases taken with
    | rouseAll =>
      rw [phase_setPhase_ne _ _ (awake waiter parked), phase_rouseAll,
        if_pos ((consistent.waiting waiter).mpr parked)]
    | _ => simp_all
  · refine List.mem_append_right _ (mem_roused.mpr ⟨rfl, ?_, ?_⟩)
    · exact (consistent.waiting waiter).mpr parked
    · simp [emptied]

/-- One of those who wait, if there is one, is taken off by a notification. -/
theorem notify_one (consistent : Consistent monitor) (taken : Advance monitor other note after)
    (here : monitor.phase other = .notifying false) (waits : monitor.waiters ≠ []) :
    ∃ waiter ∈ monitor.waiters, monitor.roused after = [(waiter, .roused)] ∧
      after.phase waiter = (monitor.phase waiter).rouse ∧
      ∀ bystander, bystander ≠ waiter → bystander ≠ other →
        after.phase bystander = monitor.phase bystander := by
  obtain ⟨first, rest, queued⟩ := List.exists_cons_of_ne_nil waits
  have member : first ∈ monitor.waiters := by simp [queued]
  have awake : first ≠ other := by
    rintro rfl
    simpa [here, isParked] using consistent.parked first member
  have once : (first :: rest).Nodup := queued ▸ consistent.waited_once
  cases taken with
  | rouseFirst =>
    refine ⟨first, member, ?_, ?_, ?_⟩
    · have left : monitor.rouseFirst.waiters = rest := by
        rw [waiters_rouseFirst monitor consistent.parked consistent.waited_once, queued,
          List.tail_cons]
      have gone : rest.filter (fun waiter => !rest.contains waiter) = [] := by
        rw [List.filter_eq_nil_iff]
        intro waiter waits
        simpa using waits
      have only : (first :: rest).filter (fun waiter => !rest.contains waiter) = [first] := by
        rw [List.filter_cons_of_pos (by simpa using (List.nodup_cons.mp once).1), gone]
      simp only [roused, waiters_setPhase, left, queued, only, List.map_cons, List.map_nil]
    · rw [phase_setPhase_ne _ _ awake, phase_rouseFirst, queued, List.head?_cons, if_pos rfl]
    · intro bystander different apart
      rw [phase_setPhase_ne _ _ apart, phase_rouseFirst, queued, List.head?_cons, if_neg]
      simpa using different.symm
  | _ => simp_all

end

/-- Once an owner has called for a wait, whoever owns the lock after it finds the thread parked,
unless it has been taken off the queue since. So a notification of all by a later owner has it
taken off, as every other thread that is parked, and a notification of one takes exactly one off if
any are there; the wait then returns with the lock taken back at its depth. -/
theorem no_notification_lost {monitor after : Monitor} (early : Runs Move {} log monitor)
    (real : thread ≠ nobody) (idle : monitor.phase thread = .idle)
    (owns : monitor.owner = thread) (late : Runs Move (monitor.begin thread .wait) rest after) :
    (after.owner ≠ nobody → after.owner ≠ thread →
      after.phase thread = .parked (some monitor.depth) ∧ thread ∈ after.waiters ∨
        (thread, .roused) ∈ rest) ∧
    (∀ other note last, after.owner = other → other ≠ thread →
      after.phase other = .notifying true → after.step other = some (note, last) →
      (thread, .roused) ∈ rest ++ after.happenings other note last ∧ last.waiters = [] ∧
      ∀ waiter, (after.phase waiter).isParked = true →
        last.phase waiter = (after.phase waiter).rouse ∧
          (waiter, .roused) ∈ after.happenings other note last) ∧
    (∀ other note last, after.phase other = .notifying false → after.waiters ≠ [] →
      after.step other = some (note, last) →
      ∃ waiter ∈ after.waiters, after.roused last = [(waiter, .roused)] ∧
        last.phase waiter = (after.phase waiter).rouse ∧
        ∀ bystander, bystander ≠ waiter → bystander ≠ other →
          last.phase bystander = after.phase bystander) ∧
    ((thread, .returned) ∉ rest → ∀ now last, Move after now last → (thread, .returned) ∈ now →
      (thread, .roused) ∈ rest ∧ last.owner = thread ∧ last.depth = monitor.depth) := by
  have began : Consistent (monitor.begin thread .wait) := (consistent_of_runs early).begin real idle
  obtain ⟨consistent, heeds⟩ := (heeds_begin owns).runs began real late
  refine ⟨heeds.parked_or_roused consistent, ?_, ?_, ?_⟩
  · intro other note last owner different here stepped
    have taken := step_advance stepped
    obtain ⟨emptied, all⟩ := notify_all consistent taken here
    refine ⟨?_, emptied, all⟩
    have busy : after.phase other ≠ .idle := by simp [here]
    have held : after.owner ≠ nobody := fun vacant =>
      consistent.real busy (owner.symm.trans vacant)
    have apart : after.owner ≠ thread := fun same => different (owner.symm.trans same)
    obtain ⟨parked, -⟩ | woken := heeds.parked_or_roused consistent held apart
    · exact List.mem_append_right _ (all thread (by rw [parked]; rfl)).2
    · exact List.mem_append_left _ woken
  · intro other note last here waits stepped
    exact notify_one consistent (step_advance stepped) here waits
  · intro unreturned now last moved returns
    obtain ⟨-, waits⟩ := (waits_begin owns).until_returned began late unreturned
    have back := waits.returned consistent moved returns
    refine ⟨?_, back⟩
    obtain ⟨request, ready, -, -⟩ | ⟨note, taken, rfl⟩ | seen :=
      own_or_spectates consistent moved real
    · exact heeds.stopped ready
    · have next : Heeds thread monitor.depth last (rest ++ []) := heeds.advance taken
      simpa using next.stopped (returned_mem_happenings returns)
    · simpa using seen.silent _ returns

/-- A second thread takes the lock from one that waits, and is about to notify. -/
def succession : List Turn :=
  [.go 1, .go 1, .go 1, .go 1, .call 2 .enter, .go 2, .go 2, .go 2,
    .call 2 (.notify true false), .go 2]

def succeeded : Monitor where
  owner := 2
  depth := 1
  waiters := [1]
  phases := [(2, .notifying true), (1, .parked (some 1))]

theorem no_notification_lost_succession :
    ∃ last, succeeded.step 2 = some (none, last) ∧ last.waiters = [] ∧
      (1, .roused) ∈ succeeded.happenings 2 none last := by
  have early : Runs Move {} [(1, .called .enter), (1, .entered), (1, .returned)]
      { owner := 1, depth := 1 } :=
    runs_of_follow (rfl : Monitor.follow {} [.call 1 .enter, .go 1, .go 1, .go 1] = _)
  have late : Runs Move (Monitor.begin { owner := 1, depth := 1 } 1 .wait)
      [(2, .called .enter), (2, .entered), (2, .returned), (2, .called (.notify true false))]
      succeeded :=
    runs_of_follow (rfl : Monitor.follow _ succession = some (_, succeeded))
  obtain ⟨-, all, -, -⟩ := no_notification_lost early (by decide) rfl rfl late
  obtain ⟨last, stepped⟩ : ∃ last, succeeded.step 2 = some (none, last) := ⟨_, rfl⟩
  obtain ⟨-, emptied, woken⟩ := all 2 none last rfl (by decide) rfl stepped
  exact ⟨last, stepped, emptied, (woken 1 rfl).2⟩

end ManagedRuntime.Monitor
