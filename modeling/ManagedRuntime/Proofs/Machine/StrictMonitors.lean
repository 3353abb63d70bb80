import ManagedRuntime.Proofs.Machine.Ownership
import ManagedRuntime.Proofs.Machine.Users
import ManagedRuntime.Proofs.Monitor.Leniency

/-! Strict monitors next to lenient ones. While owners alone ask for what is theirs, a strict
process and a lenient one answer each other's runs; the first misuse that comes to be looked at ends
the strict one and changes nothing else. -/
namespace ManagedRuntime.Machine
open Monitor (permits)

/-- Two processes with the same objects, whose monitors are related one by one. -/
structure Beside (relates : Monitor → Monitor → Prop) (first second : Machine) : Prop where
  ended : second.ended = first.ended
  objects : ∀ object, object ∈ second.heap.objects ↔ object ∈ first.heap.objects
  monitors : ∀ object, relates (first.heap.monitor object) (second.heap.monitor object)

/-- What a process with monitors in good use is like, from the first call on. -/
structure Orderly (strict : Bool) (machine : Machine) : Prop where
  mode : machine.isStrict = strict
  consistent : ∀ object, (machine.heap.monitor object).Consistent
  entitled : Entitled machine

section
variable {first second first' second' : Machine} {relates : Monitor → Monitor → Prop}

theorem mem_set {machine after : Machine} {monitor : Monitor}
    (set : after.heap = machine.heap.setMonitor place monitor) (object : UInt64) :
    object ∈ after.heap.objects ↔ object ∈ machine.heap.objects := by
  rw [set]
  unfold Heap.setMonitor
  split
  · rfl
  · next held found =>
    have there : place ∈ machine.heap.objects :=
      Std.ExtTreeMap.mem_iff_isSome_getElem?.mpr (by rw [found]; rfl)
    simp only [Std.ExtTreeMap.mem_insert, Std.compare_eq_iff_eq]
    exact ⟨fun here => here.elim (fun same => same ▸ there) id, .inr⟩

/-- A change at one object leaves the processes beside each other. -/
theorem Beside.set {monitor monitor' : Monitor} (beside : Beside relates first second)
    (present : place ∈ first.heap.objects) (ended : second'.ended = first'.ended)
    (set : first'.heap = first.heap.setMonitor place monitor)
    (set' : second'.heap = second.heap.setMonitor place monitor')
    (related : relates monitor monitor') : Beside relates first' second' where
  ended := ended
  objects object := by rw [mem_set set, mem_set set', beside.objects]
  monitors object := by
    rw [monitor_of_set present set, monitor_of_set ((beside.objects place).mpr present) set']
    split
    · exact related
    · exact beside.monitors object

theorem Orderly.use (orderly : Orderly strict first) (used : Use permits first now first') :
    Orderly strict first' where
  mode := (isStrict_of_use used).trans orderly.mode
  consistent := consistent_of_use orderly.consistent used
  entitled := entitled_of_use orderly.consistent orderly.entitled used

theorem orderly_fresh (mode : first.isStrict = strict)
    (fresh : ∀ object, first.heap.monitor object = {}) : Orderly strict first where
  mode := mode
  consistent object := by
    rw [fresh]
    exact Monitor.consistent_initial
  entitled object := by
    rw [fresh]
    nofun

/-- A step of a monitor with that note is a step of the process. -/
theorem shown_of_step {machine : Machine} {monitor : Monitor}
    (stepped : (machine.heap.monitor object).step me = some (note, monitor)) :
    ∃ after, machine.stepMonitor me object = some after ∧
      after.heap = machine.heap.setMonitor object monitor := by
  cases shown : machine.stepMonitor me object with
  | none => simp [stepMonitor, stepped] at shown
  | some after =>
    obtain ⟨note, monitor, same, set⟩ := stepMonitor_eq_some shown
    cases stepped.symm.trans same
    exact ⟨after, rfl, set⟩

end

/-- Steps that are not seen at one object leave the rest of the process alone. -/
theorem unseen_uses {machine : Machine} {caught : Monitor} (alive : machine.ended = none)
    (unseen : Monitor.Unseen me (machine.heap.monitor object) caught) :
    ∃ after, Runs (Use permits) machine [] after ∧ after.ended = none ∧
      after.isStrict = machine.isStrict ∧
      (∀ other, other ∈ after.heap.objects ↔ other ∈ machine.heap.objects) ∧
      ∀ other, after.heap.monitor other =
        if other = object then caught else machine.heap.monitor other := by
  generalize first : machine.heap.monitor object = monitor at unseen
  induction unseen with
  | refl =>
    refine ⟨machine, .start _, alive, rfl, fun _ => Iff.rfl, fun other => ?_⟩
    split
    · next same => rw [same, first]
    · rfl
  | @tail before after _ step ih =>
    obtain ⟨reached, run, alive, mode, objects, monitors⟩ := ih
    have here : reached.heap.monitor object = before := (monitors object).trans (if_pos rfl)
    have stepped := step.1
    rw [← here] at stepped
    obtain ⟨next, shown, set⟩ := shown_of_step stepped
    have used : Use permits reached _ next := .go object me alive stepped shown
    rw [here, step.2] at used
    refine ⟨next, run.next used, ?_, (isStrict_stepMonitor shown).trans mode, ?_, ?_⟩
    · rw [ended_stepMonitor stepped nofun shown, if_neg nofun, alive]
    · intro other
      rw [mem_set set, objects]
    · intro other
      rw [monitor_of_set (present_of_step shown) set, monitors]
      split <;> rfl

section
variable {strict lenient strict' lenient' : Machine}

/-- One step of a strict process and the lenient one's answer. -/
theorem relaxes_use (orderly : Orderly true strict) (orderly' : Orderly false lenient)
    (beside : Beside Monitor.Relaxes strict lenient) (used : Use permits strict now strict') :
    ∃ lenient', Runs (Use permits) lenient now lenient' ∧
      Beside Monitor.Relaxes strict' lenient' := by
  have answers {lenient' : Machine} (used' : Use permits lenient now lenient')
      (beside' : Beside Monitor.Relaxes strict' lenient') :
      ∃ lenient', Runs (Use permits) lenient now lenient' ∧
        Beside Monitor.Relaxes strict' lenient' :=
    ⟨lenient', (Runs.start lenient).next used', beside'⟩
  have alive : lenient.ended = none := beside.ended.trans (alive_of_use used)
  cases used with
  | ask object me request _ present real idle may =>
    have related := beside.monitors object
    have idle' : lenient.monitorPhase me object = .idle := by
      rw [monitorPhase] at idle ⊢
      rw [related.phases, idle]
      rfl
    have may' : permits (lenient.heap.monitor object) me request :=
      fun owners => related.lock.owner.symm.trans (may owners)
    have present' := (beside.objects object).mpr present
    have ended : (lenient.ask me object request).ended = (strict.ask me object request).ended :=
      ((ask_of_asked ..).2.1.trans beside.ended).trans (ask_of_asked ..).2.1.symm
    refine answers (.ask object me request alive present' real idle' may')
      (beside.set present ended (ask_of_asked ..).1 (ask_of_asked ..).1 (related.begin ?_ me))
    cases request with
    | enter | exit | wait => rfl
    | notify all checked =>
      simp only [asked, orderly'.mode]
      rfl
  | go object me _ stepped shown =>
    obtain ⟨note, monitor, same, set⟩ := stepMonitor_eq_some shown
    cases stepped.symm.trans same
    have present := present_of_step shown
    have ended := ended_stepMonitor stepped ((orderly.entitled object).proper stepped) shown
    obtain ⟨rfl, silent, relaxes⟩ | ⟨monitor', stepped', relaxes, same⟩ :=
      (beside.monitors object).step (orderly.consistent object) (orderly'.consistent object)
        (orderly.entitled object) stepped
    · rw [silent]
      rw [if_neg (by rintro ⟨⟩)] at ended
      refine ⟨lenient, .start _, beside.ended.trans ended.symm, fun other => ?_, fun other => ?_⟩
      · rw [mem_set set, beside.objects]
      · rw [monitor_of_set present set]
        split
        · next here => exact here ▸ relaxes
        · exact beside.monitors other
    · obtain ⟨after, shown', set'⟩ := shown_of_step stepped'
      have ended' := ended_stepMonitor stepped' ((orderly.entitled object).proper stepped) shown'
      have used : Use permits lenient _ after := .go object me alive stepped' shown'
      rw [same] at used
      refine answers used (beside.set present ?_ set set' relaxes)
      rw [ended', ended, beside.ended]
  | rouse object me _ present =>
    have relaxes := (beside.monitors object).rouse (orderly.consistent _) (orderly'.consistent _) me
    rw [← (beside.monitors object).lock.roused relaxes.lock]
    exact ⟨_, (Runs.start lenient).next (.rouse object me alive ((beside.objects _).mpr present)),
      beside.set present beside.ended rfl rfl relaxes⟩
  | stir object me _ present =>
    refine answers (.stir object me alive ((beside.objects _).mpr present))
      (beside.set present beside.ended rfl rfl ?_)
    exact (beside.monitors _).stir (orderly.consistent _) (orderly'.consistent _) me
  | requeue object contenders waiters _ present contended waited =>
    have lock := (beside.monitors object).lock
    refine answers (.requeue object contenders waiters alive ((beside.objects _).mpr present)
      (lock.contenders ▸ contended) (lock.waiters ▸ waited))
      (beside.set present beside.ended rfl rfl ?_)
    exact (beside.monitors _).requeue contenders waiters

/-- One step of a lenient process and the strict one's answer. -/
theorem follows_use (orderly : Orderly true strict) (orderly' : Orderly false lenient)
    (beside : Beside Monitor.Follows lenient strict) (used : Use permits lenient now lenient') :
    ∃ strict', Runs (Use permits) strict now strict' ∧
      Beside Monitor.Follows lenient' strict' := by
  have answers {strict' : Machine} (used' : Use permits strict now strict')
      (beside' : Beside Monitor.Follows lenient' strict') :
      ∃ strict', Runs (Use permits) strict now strict' ∧
        Beside Monitor.Follows lenient' strict' :=
    ⟨strict', (Runs.start strict).next used', beside'⟩
  have alive : strict.ended = none := beside.ended.trans (alive_of_use used)
  cases used with
  | ask object me request _ present real idle may =>
    have related := beside.monitors object
    have idle' : strict.monitorPhase me object = .idle := by
      rw [monitorPhase] at idle ⊢
      have lags := related.phases me
      rw [idle] at lags
      exact lags.eq_of_unlatched rfl (by rintro _ ⟨⟩)
    have may' : permits (strict.heap.monitor object) me request :=
      fun owners => related.lock.owner.symm.trans (may owners)
    have present' := (beside.objects object).mpr present
    have ended : (strict.ask me object request).ended = (lenient.ask me object request).ended :=
      ((ask_of_asked ..).2.1.trans beside.ended).trans (ask_of_asked ..).2.1.symm
    refine answers (.ask object me request alive present' real idle' may')
      (beside.set present ended (ask_of_asked ..).1 (ask_of_asked ..).1 (related.begin ?_))
    cases request with
    | enter | exit | wait => exact .same (by rintro _ _ ⟨⟩) (by rintro ⟨⟩)
    | notify all checked =>
      simp only [asked, orderly.mode, orderly'.mode]
      exact .notifier all
  | go object me _ stepped shown =>
    obtain ⟨note, monitor, same, set⟩ := stepMonitor_eq_some shown
    cases stepped.symm.trans same
    have present := present_of_step shown
    have ended := ended_stepMonitor stepped ((orderly'.entitled object).proper stepped) shown
    obtain ⟨rfl, silent, follows⟩ | ⟨caught, monitor', unseen, stepped', follows, same⟩ :=
      (beside.monitors object).step (orderly'.consistent object) (orderly.consistent object)
        (orderly'.entitled object) stepped
    · rw [silent]
      rw [if_neg (by rintro ⟨⟩)] at ended
      refine ⟨strict, .start _, beside.ended.trans ended.symm, fun other => ?_, fun other => ?_⟩
      · rw [mem_set set, beside.objects]
      · rw [monitor_of_set present set]
        split
        · next here => exact here ▸ follows
        · exact beside.monitors other
    · obtain ⟨reached, run, alive', -, objects, monitors⟩ := unseen_uses alive unseen
      have here : reached.heap.monitor object = caught := (monitors object).trans (if_pos rfl)
      rw [← here] at stepped' same
      obtain ⟨after, shown', set'⟩ := shown_of_step stepped'
      have ended' := ended_stepMonitor stepped' ((orderly'.entitled object).proper stepped) shown'
      have used : Use permits reached _ after := .go object me alive' stepped' shown'
      rw [same] at used
      refine ⟨after, run.next used, ?_, fun other => ?_, fun other => ?_⟩
      · rw [ended', ended, alive', ← beside.ended, alive]
      · rw [mem_set set', objects, beside.objects, mem_set set]
      · rw [monitor_of_set present set, monitor_of_set (present_of_step shown') set']
        split
        · exact follows
        · next elsewhere =>
          rw [monitors, if_neg elsewhere]
          exact beside.monitors other
  | rouse object me _ present =>
    have follows := (beside.monitors object).rouse (orderly'.consistent _) (orderly.consistent _) me
    rw [← (beside.monitors object).lock.roused follows.lock]
    exact ⟨_, (Runs.start strict).next (.rouse object me alive ((beside.objects _).mpr present)),
      beside.set present beside.ended rfl rfl follows⟩
  | stir object me _ present =>
    refine answers (.stir object me alive ((beside.objects _).mpr present))
      (beside.set present beside.ended rfl rfl ?_)
    exact (beside.monitors _).stir (orderly'.consistent _) (orderly.consistent _) me
  | requeue object contenders waiters _ present contended waited =>
    have lock := (beside.monitors object).lock
    refine answers (.requeue object contenders waiters alive ((beside.objects _).mpr present)
      (lock.contenders ▸ contended) (lock.waiters ▸ waited))
      (beside.set present beside.ended rfl rfl ?_)
    exact (beside.monitors _).requeue contenders waiters

end

/-- Whatever one process answers to a step of another, it answers to a run. -/
theorem answers_run {relates : Monitor → Monitor → Prop} {mode mode' : Bool}
    (step : ∀ {first second first' now}, Orderly mode first → Orderly mode' second →
      Beside relates first second → Use permits first now first' →
      ∃ second', Runs (Use permits) second now second' ∧ Beside relates first' second')
    {first second after : Machine} (orderly : Orderly mode first) (orderly' : Orderly mode' second)
    (beside : Beside relates first second) (run : Runs (Use permits) first history after) :
    ∃ after', Runs (Use permits) second history after' ∧ Beside relates after after' ∧
      Orderly mode after ∧ Orderly mode' after' := by
  induction run with
  | start => exact ⟨second, .start _, beside, orderly, orderly'⟩
  | next _ used ih =>
    obtain ⟨middle, early, beside, orderly, orderly'⟩ := ih
    obtain ⟨after', late, beside⟩ := step orderly orderly' beside used
    exact ⟨after', early.append late, beside, orderly.use used,
      late.invariant _ (fun orderly used => orderly.use used) orderly'⟩

/-- One thread has come further at one monitor, and that is all that has changed at any. -/
structure LeavesBe (me : Token) (object : UInt64) (machine after : Machine) : Prop where
  untouched : (machine.heap.monitor object).Untouched me (after.heap.monitor object)
  elsewhere : ∀ other, other ≠ object → after.heap.monitor other = machine.heap.monitor other

theorem leavesBe_of_set {machine after : Machine} {monitor : Monitor}
    (present : object ∈ machine.heap.objects)
    (set : after.heap = machine.heap.setMonitor object monitor)
    (untouched : (machine.heap.monitor object).Untouched me monitor) :
    LeavesBe me object machine after where
  untouched := by rwa [monitor_of_set present set, if_pos rfl]
  elsewhere other different := by rw [monitor_of_set present set, if_neg different]

theorem LeavesBe.trans {machine after last : Machine} (early : LeavesBe me object machine after)
    (late : LeavesBe me object after last) : LeavesBe me object machine last where
  untouched := early.untouched.trans late.untouched
  elsewhere other different :=
    (late.elsewhere other different).trans (early.elsewhere other different)

section
variable {machine after : Machine} {request : MonitorRequest} (strict : machine.isStrict = true)
  (asks : request.isOwners = true) (checked : request.isUnchecked = false)
include strict asks checked

/-- A step of a thread that misuses a monitor leaves all as it is, and may end the process. -/
theorem step_of_misuse (oversteps : (machine.heap.monitor object).Oversteps request me)
    (shown : machine.stepMonitor me object = some after) :
    LeavesBe me object machine after ∧ (after.ended = machine.ended ∨
      ∃ stopped : Machine, after = stopped.trap (.monitorNotOwned request.operation)) := by
  obtain ⟨note, monitor, stepped, set⟩ := stepMonitor_eq_some shown
  obtain ⟨untouched, ⟨rfl, -⟩ | rfl⟩ := oversteps.step asks checked stepped
  · have ended := ended_stepMonitor stepped nofun shown
    rw [if_neg nofun] at ended
    exact ⟨leavesBe_of_set (present_of_step shown) set untouched, .inl ended⟩
  · exact ⟨leavesBe_of_set (present_of_step shown) set untouched,
      .inr (trapped_of_misuse strict stepped shown)⟩

/-- With the latch in hand, the next step finds the misuse out. -/
theorem runMonitor_inside (alive : machine.ended = none)
    (oversteps : (machine.heap.monitor object).Oversteps request me)
    (here : machine.monitorPhase me object = .inside request) (fuel : Nat) :
    LeavesBe me object machine (machine.runMonitor me object (fuel + 1)) ∧
      ∃ stopped : Machine, machine.runMonitor me object (fuel + 1) =
        stopped.trap (.monitorNotOwned request.operation) := by
  obtain ⟨monitor, stepped, untouched⟩ := oversteps.found_out asks checked here
  obtain ⟨after, shown, set⟩ := shown_of_step stepped
  obtain ⟨stopped, rfl⟩ := trapped_of_misuse strict stepped shown
  have dead : (stopped.trap (.monitorNotOwned request.operation)).ended ≠ none := nofun
  rw [(runMonitor_of_step alive stepped shown fuel).1, (runMonitor_of_stuck (.inl dead) fuel).1]
  exact ⟨leavesBe_of_set (present_of_step shown) set untouched, stopped, rfl⟩

/-- With the latch free, a thread that misuses a monitor ends the process. -/
theorem advance_of_misuse (alive : machine.ended = none)
    (oversteps : (machine.heap.monitor object).Oversteps request me)
    (free : (machine.heap.monitor object).latch = none) :
    LeavesBe me object machine (machine.advance me object) ∧
      ∃ stopped : Machine, machine.advance me object =
        stopped.trap (.monitorNotOwned request.operation) := by
  obtain here | here := oversteps.asked
  · obtain ⟨monitor, stepped, untouched, oversteps', inside⟩ :=
      oversteps.takes_latch checked here free
    obtain ⟨after, shown, set⟩ := shown_of_step stepped
    have monitor_after : after.heap.monitor object = monitor := by
      rw [monitor_of_set (present_of_step shown) set, if_pos rfl]
    have ended := ended_stepMonitor stepped nofun shown
    rw [if_neg nofun, alive] at ended
    rw [← monitor_after] at oversteps' inside
    have mode := (isStrict_stepMonitor shown).trans strict
    have first := leavesBe_of_set (present_of_step shown) set untouched
    obtain ⟨rest, trapped⟩ := runMonitor_inside mode asks checked ended oversteps' inside 6
    rw [advance, (runMonitor_of_step alive stepped shown 7).1]
    exact ⟨first.trans rest, trapped⟩
  · exact runMonitor_inside strict asks checked alive oversteps here 7

end

/-- Where nobody minds whether calls are allowed. -/
abbrev freely (_ : Monitor) (_ : Token) (_ : MonitorRequest) : Prop := True

/-- What any calls leave true of a strict process that goes on. -/
theorem strict_of_runs {strict machine : Machine} (mode : strict.isStrict = true)
    (fresh : ∀ object, strict.heap.monitor object = {})
    (run : Runs (Use freely) strict history machine) :
    machine.isStrict = true ∧ (∀ object, (machine.heap.monitor object).Consistent) ∧
      (machine.ended = none → ∀ object, (machine.heap.monitor object).Guarded) := by
  induction run with
  | start =>
    refine ⟨mode, fun object => ?_, fun _ object => ?_⟩
    · rw [fresh]
      exact Monitor.consistent_initial
    · rw [fresh]
      exact .initial
  | next _ used ih =>
    obtain ⟨mode, consistent, guarded⟩ := ih
    exact ⟨(isStrict_of_use used).trans mode, consistent_of_use consistent used,
      fun alive => guarded_of_use mode consistent (guarded (alive_of_use used)) used alive⟩

theorem oversteps_of_runs {strict machine : Machine} {request : MonitorRequest}
    (mode : strict.isStrict = true) (asks : request.isOwners = true)
    (checked : request.isUnchecked = false) (real : me ≠ nobody)
    (oversteps : (strict.heap.monitor object).Oversteps request me)
    (run : Runs (Use freely) strict history machine) (alive : machine.ended = none) :
    machine.isStrict = true ∧ (machine.heap.monitor object).Oversteps request me := by
  induction run with
  | start => exact ⟨mode, oversteps⟩
  | next _ used ih =>
    obtain ⟨mode, oversteps⟩ := ih (alive_of_use used)
    exact ⟨(isStrict_of_use used).trans mode,
      oversteps_of_use mode asks checked real oversteps used alive⟩

/-- A process with one object, at address 16, whose monitors are strict. -/
def loneStrict : Machine := { lone with settings := ⟨some { strictMonitors := true }⟩ }

theorem fresh_loneStrict (object : UInt64) : loneStrict.heap.monitor object = {} :=
  fresh_lone object

example : (lone.leave 1 ⟨16, 0⟩).ended = none := by rfl

end ManagedRuntime.Machine
