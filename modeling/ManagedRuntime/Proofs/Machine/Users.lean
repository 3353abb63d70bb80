import ManagedRuntime.Proofs.Machine.Strictness
import ManagedRuntime.Proofs.Monitor.Misuse

/-! Threads that call the monitors of a process and do nothing else. Whether monitors are strict is
settled before the first call and stays so; a notifier learns it when it calls. -/
namespace ManagedRuntime.Machine

/-- A thread calls a monitor, as the operations of the process do. -/
def ask (machine : Machine) (me : Token) (object : UInt64) : MonitorRequest → Machine
  | .notify all _ =>
    let (settings, machine) := machine.readSettings
    machine.call me object (.notify all settings.strictMonitors)
  | request => machine.call me object request

/-- What a call of this process asks of the monitor. -/
def asked (machine : Machine) : MonitorRequest → MonitorRequest
  | .notify all _ => .notify all machine.isStrict
  | request => request

/-- The operations of the process that call a monitor; a wait has a limit. -/
def operate (machine : Machine) (me : Token) (r : Ref) (timeout : UInt64) :
    MonitorRequest → Machine
  | .enter => machine.enter me r
  | .exit => machine.leave me r
  | .wait => (machine.wait me r timeout).2
  | .notify all _ => machine.notify me r all

theorem operate_eq (machine : Machine) (me : Token) (r : Ref) (timeout : UInt64)
    (request : MonitorRequest) :
    machine.operate me r timeout request =
      (machine.ask me r.object request).advance me r.object := by
  cases request <;> rfl

/-- All that users of monitors do to a process that has not ended: calls where `allowed`, steps,
and sleepers waking in any order. -/
inductive Use (allowed : Monitor → Token → MonitorRequest → Prop) : Machine → Log → Machine → Prop
  | ask (object : UInt64) (me : Token) (request : MonitorRequest) (alive : machine.ended = none)
      (present : object ∈ machine.heap.objects) (real : me ≠ nobody)
      (idle : machine.monitorPhase me object = .idle)
      (may : allowed (machine.heap.monitor object) me request) :
      Use allowed machine (placed object [(me, .called request)]) (machine.ask me object request)
  | go (object : UInt64) (me : Token) (alive : machine.ended = none)
      (stepped : (machine.heap.monitor object).step me = some (note, monitor))
      (shown : machine.stepMonitor me object = some after) :
      Use allowed machine
        (placed object ((machine.heap.monitor object).happenings me note monitor)) after
  | rouse (object : UInt64) (me : Token) (alive : machine.ended = none)
      (present : object ∈ machine.heap.objects) :
      Use allowed machine (placed object ((machine.heap.monitor object).roused
        ((machine.heap.monitor object).rouse me))) (machine.timeOut me object)
  | stir (object : UInt64) (me : Token) (alive : machine.ended = none)
      (present : object ∈ machine.heap.objects) :
      Use allowed machine [] { machine with
        heap := machine.heap.setMonitor object ((machine.heap.monitor object).stir me) }
  | requeue (object : UInt64) (contenders waiters : List Token) (alive : machine.ended = none)
      (present : object ∈ machine.heap.objects)
      (contended : (machine.heap.monitor object).contenders.Perm contenders)
      (waited : (machine.heap.monitor object).waiters.Perm waiters) :
      Use allowed machine [] { machine with
        heap := machine.heap.setMonitor object
          { machine.heap.monitor object with contenders, waiters } }

section
variable {allowed : Monitor → Token → MonitorRequest → Prop} {machine after : Machine}

theorem ask_of_asked (machine : Machine) (me : Token) (object : UInt64) (request : MonitorRequest) :
    (machine.ask me object request).heap = machine.heap.setMonitor object
      ((machine.heap.monitor object).begin me (machine.asked request)) ∧
    (machine.ask me object request).ended = machine.ended ∧
    (machine.ask me object request).isStrict = machine.isStrict := by
  cases request with
  | enter | exit | wait => exact ⟨rfl, rfl, isStrict_congr rfl rfl⟩
  | notify all checked =>
    have alike := alike_readSettings machine
    have read : (machine.ask me object (.notify all checked)).isStrict =
        machine.readSettings.2.isStrict := isStrict_congr rfl rfl
    refine ⟨?_, alike.ended, read.trans (isStrict_readSettings machine)⟩
    simp only [ask, call, asked, isStrict, alike.heap]

/-- Going on with a request is made of steps. -/
theorem runMonitor_uses (machine : Machine) (me : Token) (object : UInt64) (fuel : Nat) :
    Runs (Use allowed) machine (machine.monitorLog me object fuel)
      (machine.runMonitor me object fuel) := by
  induction fuel generalizing machine with
  | zero => exact .start _
  | succ fuel ih =>
    by_cases stuck : machine.ended ≠ none ∨ machine.stepMonitor me object = none
    · obtain ⟨same, silent⟩ := runMonitor_of_stuck stuck (fuel + 1)
      rw [same, silent]
      exact .start _
    · obtain ⟨alive, goes⟩ := not_or.mp stuck
      replace alive : machine.ended = none := not_not.mp alive
      obtain ⟨stepped, shown⟩ := Option.ne_none_iff_exists'.mp goes
      obtain ⟨note, monitor, steps, -⟩ := stepMonitor_eq_some shown
      obtain ⟨same, log⟩ := runMonitor_of_step alive steps shown fuel
      rw [same, log]
      exact ((Runs.start machine).next (.go object me alive steps shown)).append (ih stepped)

/-- An operation of the process is one call and the steps that come of it. -/
theorem operate_uses {request : MonitorRequest} (alive : machine.ended = none)
    (present : r.object ∈ machine.heap.objects) (real : me ≠ nobody)
    (idle : machine.monitorPhase me r.object = .idle)
    (may : allowed (machine.heap.monitor r.object) me request) (timeout : UInt64) :
    ∃ history, Runs (Use allowed) machine history (machine.operate me r timeout request) := by
  have asks := Use.ask r.object me request alive present real idle may
  rw [operate_eq]
  exact ⟨_, ((Runs.start machine).next asks).append (runMonitor_uses _ me r.object 8)⟩

/-- What happens to one monitor in a step of the process, if it is its turn. -/
theorem use_at (used : Use allowed machine now after) (object : UInt64) :
    (∃ log, Monitor.Move (machine.heap.monitor object) log (after.heap.monitor object)) ∨
      after.heap.monitor object = machine.heap.monitor object := by
  have there {place : UInt64} {log : Monitor.Log} {monitor : Monitor}
      (present : place ∈ machine.heap.objects)
      (set : after.heap = machine.heap.setMonitor place monitor)
      (moves : Monitor.Move (machine.heap.monitor place) log monitor) :
      (∃ log, Monitor.Move (machine.heap.monitor object) log (after.heap.monitor object)) ∨
        after.heap.monitor object = machine.heap.monitor object := by
    rw [monitor_of_set present set]
    by_cases same : object = place
    · subst same
      exact .inl ⟨log, by simpa only [if_true] using moves⟩
    · exact .inr (if_neg same)
  cases used with
  | ask _ _ _ _ present real idle => exact there present (ask_of_asked ..).1 (.call real idle)
  | go _ _ _ _ shown =>
    obtain ⟨note, monitor, same, set⟩ := stepMonitor_eq_some shown
    exact there (present_of_step shown) set (.go same)
  | rouse _ me _ present => exact there present rfl (.rouse me)
  | stir _ me _ present => exact there present rfl (.stir me)
  | requeue _ contenders waiters _ present contended waited =>
    exact there present rfl (.requeue contenders waiters contended waited)

theorem consistent_of_use (consistent : ∀ object, (machine.heap.monitor object).Consistent)
    (used : Use allowed machine now after) (object : UInt64) :
    (after.heap.monitor object).Consistent := by
  obtain ⟨log, moved⟩ | same := use_at used object
  · exact (consistent object).move moved
  · exact same ▸ consistent object

theorem isStrict_of_use (used : Use allowed machine now after) :
    after.isStrict = machine.isStrict := by
  cases used with
  | ask => exact (ask_of_asked ..).2.2
  | go _ _ _ _ shown => exact isStrict_stepMonitor shown
  | rouse | stir | requeue => exact isStrict_congr rfl rfl

theorem alive_of_use (used : Use allowed machine now after) : machine.ended = none := by
  cases used <;> assumption

/-- What a process was in, it is in when one of its monitors has moved. -/
theorem keeps_of_set {holds : Monitor → Prop} {monitor : Monitor}
    (held : ∀ object, holds (machine.heap.monitor object))
    (present : place ∈ machine.heap.objects)
    (set : after.heap = machine.heap.setMonitor place monitor) (moved : holds monitor)
    (object : UInt64) : holds (after.heap.monitor object) := by
  rw [monitor_of_set present set]
  split
  · exact moved
  · exact held object

theorem isOwners_asked (machine : Machine) (request : MonitorRequest) :
    (machine.asked request).isOwners = request.isOwners := by
  cases request <;> rfl

theorem operation_asked (machine : Machine) (request : MonitorRequest) :
    (machine.asked request).operation = request.operation := by
  rcases request with _ | _ | _ | ⟨_ | _, _⟩ <;> rfl

theorem isUnchecked_asked (strict : machine.isStrict = true) (request : MonitorRequest) :
    (machine.asked request).isUnchecked = false := by
  cases request with
  | notify all checked => simp [asked, strict, MonitorRequest.isUnchecked]
  | enter | exit | wait => rfl

/-- All threads that act as owners are the owners. -/
def Entitled (machine : Machine) : Prop :=
  ∀ object, (machine.heap.monitor object).Vouches MonitorPhase.needsLock

/-- As long as owners alone ask for what is theirs, they own it until they are done. -/
theorem entitled_of_use (consistent : ∀ object, (machine.heap.monitor object).Consistent)
    (entitled : Entitled machine) (used : Use Monitor.permits machine now after) :
    Entitled after := by
  cases used with
  | ask _ _ _ _ present _ _ may =>
    refine keeps_of_set entitled present (ask_of_asked ..).1 ((entitled _).setPhase ?_)
    exact fun owners => may ((isOwners_asked machine _).symm.trans owners)
  | go _ _ _ _ shown =>
    obtain ⟨note, monitor, stepped, set⟩ := stepMonitor_eq_some shown
    exact keeps_of_set entitled (present_of_step shown) set
      ((entitled _).advance_needsLock (consistent _) (Monitor.step_advance stepped))
  | rouse _ me _ present =>
    exact keeps_of_set entitled present rfl
      ((entitled _).rouse (fun phase => by cases phase <;> rfl) me)
  | stir _ me _ present =>
    exact keeps_of_set entitled present rfl
      ((entitled _).stir (fun phase => by cases phase <;> rfl) me)
  | requeue _ contenders waiters _ present =>
    exact keeps_of_set entitled present rfl ((entitled _).requeue contenders waiters)

/-- A strict process that goes on lets nobody notify but the owner. -/
theorem guarded_of_use (strict : machine.isStrict = true)
    (consistent : ∀ object, (machine.heap.monitor object).Consistent)
    (guarded : ∀ object, (machine.heap.monitor object).Guarded)
    (used : Use allowed machine now after) (alive : after.ended = none) (place : UInt64) :
    (after.heap.monitor place).Guarded := by
  cases used with
  | ask _ _ _ _ present =>
    exact keeps_of_set guarded present (ask_of_asked ..).1
      ((guarded _).begin (isUnchecked_asked strict _) _) place
  | go _ _ _ _ shown =>
    obtain ⟨note, monitor, stepped, set⟩ := stepMonitor_eq_some shown
    refine keeps_of_set guarded (present_of_step shown) set
      ((guarded _).step (consistent _) stepped ?_) place
    rintro operation owner rfl
    obtain ⟨stopped, rfl⟩ := trapped_of_misuse strict stepped shown
    contradiction
  | rouse _ me _ present => exact keeps_of_set guarded present rfl ((guarded _).rouse me) place
  | stir _ me _ present => exact keeps_of_set guarded present rfl ((guarded _).stir me) place
  | requeue _ contenders waiters _ present =>
    exact keeps_of_set guarded present rfl ((guarded _).requeue contenders waiters) place

end

section
variable {allowed : Monitor → Token → MonitorRequest → Prop} {machine after : Machine}
  {request : MonitorRequest}

/-- Until the process ends, a thread that misuses a monitor has not come past the look at the
owner, whatever the others do. -/
theorem oversteps_of_use (strict : machine.isStrict = true) (asks : request.isOwners = true)
    (checked : request.isUnchecked = false) (real : me ≠ nobody)
    (oversteps : (machine.heap.monitor object).Oversteps request me)
    (used : Use allowed machine now after) (alive : after.ended = none) :
    (after.heap.monitor object).Oversteps request me := by
  have there {place : UInt64} {monitor : Monitor} (present : place ∈ machine.heap.objects)
      (set : after.heap = machine.heap.setMonitor place monitor)
      (moved : place = object → monitor.Oversteps request me) :
      (after.heap.monitor object).Oversteps request me := by
    rw [monitor_of_set present set]
    split
    · next same => exact moved same.symm
    · exact oversteps
  cases used with
  | ask place caller asking _ present _ idle =>
    refine there present (ask_of_asked ..).1 ?_
    rintro rfl
    refine oversteps.carry (.inl (Monitor.phase_setPhase_ne _ _ ?_)) id
    rintro rfl
    obtain here | here := oversteps.asked <;> simp [monitorPhase, here] at idle
  | go place caller _ _ shown =>
    obtain ⟨note, monitor, stepped, set⟩ := stepMonitor_eq_some shown
    refine there (present_of_step shown) set ?_
    rintro rfl
    by_cases own : me = caller
    · subst own
      obtain ⟨-, ⟨-, goes⟩ | rfl⟩ := oversteps.step asks checked stepped
      · exact goes
      · obtain ⟨stopped, rfl⟩ := trapped_of_misuse strict stepped shown
        contradiction
    · have taken := Monitor.step_advance stepped
      refine oversteps.carry ?_ (Monitor.owner_other taken own real).mp
      obtain same | ⟨-, woken⟩ | woken := Monitor.phase_other taken own
      · exact .inl same
      · exact .inr (.inl woken)
      · exact .inr (.inr woken)
  | rouse _ sleeper _ present =>
    refine there present rfl ?_
    rintro rfl
    refine oversteps.carry ?_ (by simp)
    rw [Monitor.phase_rouse]
    split
    · next same => exact .inr (.inr (by rw [same]))
    · exact .inl rfl
  | stir _ sleeper _ present =>
    refine there present rfl ?_
    rintro rfl
    refine oversteps.carry ?_ (by simp)
    rw [Monitor.phase_stir]
    split
    · next same => exact .inr (.inl (by rw [same]))
    · exact .inl rfl
  | requeue _ contenders waiters _ present =>
    refine there present rfl ?_
    rintro rfl
    exact oversteps.carry (.inl rfl) id

end

end ManagedRuntime.Machine
