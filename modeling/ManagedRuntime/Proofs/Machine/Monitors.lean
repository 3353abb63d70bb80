import ManagedRuntime.Machine.Monitors
import ManagedRuntime.Proofs.Monitor.Moves

/-! The monitors of all objects of a process at once. What happens at one object is a run of its
monitor alone, and every request that the process carries out is made of such moves. -/
namespace ManagedRuntime

namespace Heap

theorem monitor_setMonitor {heap : Heap} {monitor : Monitor} (present : object ∈ heap.objects)
    (other : UInt64) : (heap.setMonitor object monitor).monitor other =
      if other = object then monitor else heap.monitor other := by
  obtain ⟨held, found⟩ := Option.isSome_iff_exists.mp
    (Std.ExtTreeMap.mem_iff_isSome_getElem?.mp present)
  simp only [Heap.monitor, setMonitor, found, Std.ExtTreeMap.getElem?_insert, Std.compare_eq_iff_eq]
  by_cases same : other = object
  · simp [same]
  · simp [same, Ne.symm same]

theorem monitor_of_absent {heap : Heap} (absent : object ∉ heap.objects) :
    heap.monitor object = {} := by
  rw [monitor, Std.ExtTreeMap.getElem?_eq_none absent]
  rfl

end Heap

namespace Machine
open Monitor (Happening)

section
variable (machine : Machine)

/-- Logging at most adds to the journal and to the error stream. -/
theorem log_eq (severity : Severity) (part : Part) (pieces : List LogPiece) :
    ∃ kept written, machine.log severity part pieces =
      { machine with
        journal := machine.journal ++ kept, written := machine.written ++ written } := by
  let note : Note := ⟨severity, part.target, pieces⟩
  have unchanged : machine =
      { machine with journal := machine.journal ++ [], written := machine.written ++ [] } := by
    simp only [List.append_nil]
  simp only [log, keepNote]
  split
  · split
    · exact ⟨[], [], unchanged⟩
    · next logger _ =>
      refine ⟨[], [.logged note logger.write], ?_⟩
      simp only [List.append_nil]
      rfl
    · refine ⟨[note.render machine.label], [], ?_⟩
      simp only [List.append_nil]
      rfl
  · exact ⟨[], [], unchanged⟩

@[simp] theorem heap_log (severity : Severity) (part : Part) (pieces : List LogPiece) :
    (machine.log severity part pieces).heap = machine.heap := by
  obtain ⟨kept, written, same⟩ := log_eq machine severity part pieces
  rw [same]

@[simp] theorem ended_log (severity : Severity) (part : Part) (pieces : List LogPiece) :
    (machine.log severity part pieces).ended = machine.ended := by
  obtain ⟨kept, written, same⟩ := log_eq machine severity part pieces
  rw [same]

@[simp] theorem heap_trap (reason : Trap) : (machine.trap reason).heap = machine.heap :=
  heap_log ..

@[simp] theorem heap_readSettings : machine.readSettings.2.heap = machine.heap := by
  unfold readSettings
  split <;> simp [logText]

/-- Notes of a monitor go to the log or end the process; they leave all objects alone. -/
@[simp] theorem heap_heed (me : Token) (object : UInt64) (note : MonitorNote) :
    (machine.heed me object note).heap = machine.heap := by
  cases note with
  | entered | released => simp [heed]
  | misuse operation owner =>
    simp only [heed]
    split <;> simp
  | overflow => simp [heed]

end

/-- A thread calls the monitor of an object and has not come further yet. -/
def call (machine : Machine) (me : Token) (object : UInt64) (request : MonitorRequest) : Machine :=
  { machine with
    heap := machine.heap.setMonitor object ((machine.heap.monitor object).begin me request) }

/-- What happened, with the object where it did. -/
abbrev Log := List (UInt64 × Token × Happening)

def placed (object : UInt64) (log : Monitor.Log) : Log := log.map (object, ·)

/-- What happened at one object. -/
def logAt (object : UInt64) (log : Log) : Monitor.Log :=
  log.filterMap fun entry => if entry.1 = object then some entry.2 else none

/-- Everything that can happen to the monitors of a process that has not ended. Meanwhile it may
do whatever else leaves them alone. -/
inductive Move : Machine → Log → Machine → Prop
  | call (request : MonitorRequest) (alive : machine.ended = none)
      (present : object ∈ machine.heap.objects) (real : me ≠ nobody)
      (idle : machine.monitorPhase me object = .idle) :
      Move machine (placed object [(me, .called request)]) (machine.call me object request)
  | go (alive : machine.ended = none)
      (stepped : (machine.heap.monitor object).step me = some (note, monitor))
      (shown : machine.stepMonitor me object = some after) :
      Move machine (placed object ((machine.heap.monitor object).happenings me note monitor)) after
  | rouse (alive : machine.ended = none) (present : object ∈ machine.heap.objects) (me : Token) :
      Move machine (placed object ((machine.heap.monitor object).roused
        ((machine.heap.monitor object).rouse me))) (machine.timeOut me object)
  | stir (alive : machine.ended = none) (present : object ∈ machine.heap.objects) (me : Token) :
      Move machine [] { machine with
        heap := machine.heap.setMonitor object ((machine.heap.monitor object).stir me) }
  | requeue (alive : machine.ended = none) (present : object ∈ machine.heap.objects)
      (contenders waiters : List Token)
      (contended : (machine.heap.monitor object).contenders.Perm contenders)
      (waited : (machine.heap.monitor object).waiters.Perm waiters) :
      Move machine [] { machine with
        heap := machine.heap.setMonitor object
          { machine.heap.monitor object with contenders, waiters } }
  | elsewhere (alive : machine.ended = none)
      (kept : ∀ object, after.heap.monitor object = machine.heap.monitor object) :
      Move machine [] after

theorem logAt_append (object : UInt64) (early late : Log) :
    logAt object (early ++ late) = logAt object early ++ logAt object late :=
  List.filterMap_append

theorem logAt_placed (object place : UInt64) (log : Monitor.Log) :
    logAt object (placed place log) = if object = place then log else [] := by
  unfold logAt placed
  by_cases same : object = place
  · subst same
    simp [List.filterMap_map]
  · simp [List.filterMap_map, same, Ne.symm same]

/-- A step of the process is a step of the monitor; its note has no say in that. -/
theorem stepMonitor_eq_some {machine after : Machine}
    (shown : machine.stepMonitor me object = some after) :
    ∃ note monitor, (machine.heap.monitor object).step me = some (note, monitor) ∧
      after.heap = machine.heap.setMonitor object monitor := by
  simp only [stepMonitor, Option.map_eq_some_iff] at shown
  obtain ⟨⟨note, monitor⟩, stepped, rfl⟩ := shown
  refine ⟨note, monitor, stepped, ?_⟩
  cases note with
  | none => rfl
  | some note => exact heap_heed _ _ _ _

section
variable {machine after : Machine}

/-- Nobody is in the middle of a request to an object that is not there. -/
theorem present_of_step (shown : machine.stepMonitor me object = some after) :
    object ∈ machine.heap.objects := by
  by_contra absent
  obtain ⟨note, monitor, stepped, -⟩ := stepMonitor_eq_some shown
  simp [Heap.monitor_of_absent absent, Monitor.step, Monitor.phase] at stepped

theorem monitor_of_set (present : object ∈ machine.heap.objects)
    (set : after.heap = machine.heap.setMonitor object monitor) (other : UInt64) :
    after.heap.monitor other = if other = object then monitor else machine.heap.monitor other := by
  rw [set, Heap.monitor_setMonitor present]

/-- A move of the process is a move of one monitor and nothing at any other. -/
theorem move_at (moved : Move machine now after) (object : UInt64) :
    Monitor.Move (machine.heap.monitor object) (logAt object now) (after.heap.monitor object) ∨
      logAt object now = [] ∧ after.heap.monitor object = machine.heap.monitor object := by
  have there {place : UInt64} {log : Monitor.Log} {monitor : Monitor}
      (present : place ∈ machine.heap.objects)
      (set : after.heap = machine.heap.setMonitor place monitor)
      (noted : logAt object now = if object = place then log else [])
      (moves : Monitor.Move (machine.heap.monitor place) log monitor) :
      Monitor.Move (machine.heap.monitor object) (logAt object now) (after.heap.monitor object) ∨
        logAt object now = [] ∧ after.heap.monitor object = machine.heap.monitor object := by
    rw [monitor_of_set present set, noted]
    by_cases same : object = place
    · subst same
      simpa only [if_true] using .inl moves
    · simp only [same, if_false, and_self, or_true]
  cases moved with
  | call request alive present real idle =>
    exact there present rfl (logAt_placed _ _ _) (.call real idle)
  | go alive stepped shown =>
    obtain ⟨note, monitor, same, set⟩ := stepMonitor_eq_some shown
    cases same.symm.trans stepped
    exact there (present_of_step shown) set (logAt_placed _ _ _) (.go stepped)
  | rouse alive present me => exact there present rfl (logAt_placed _ _ _) (.rouse me)
  | stir alive present me => exact there present rfl (by simp [logAt]) (.stir me)
  | requeue alive present contenders waiters contended waited =>
    exact there present rfl (by simp [logAt]) (.requeue contenders waiters contended waited)
  | elsewhere alive kept => exact .inr ⟨rfl, kept object⟩

theorem runs_at (run : Runs Move machine history after) (object : UInt64) :
    Runs Monitor.Move (machine.heap.monitor object) (logAt object history)
      (after.heap.monitor object) := by
  induction run with
  | start => exact .start _
  | next _ now ih =>
    rw [logAt_append]
    obtain moves | ⟨silent, kept⟩ := move_at now object
    · exact ih.next moves
    · rwa [silent, List.append_nil, kept]

theorem present_of_set (present : object ∈ machine.heap.objects)
    (set : after.heap = machine.heap.setMonitor object monitor) : object ∈ after.heap.objects := by
  rw [set]
  unfold Heap.setMonitor
  split
  · exact present
  · simp

/-- What the process does about a request is a run of moves. -/
theorem runMonitor_runs (present : object ∈ machine.heap.objects) (fuel : Nat) :
    ∃ history, Runs Move machine history (machine.runMonitor me object fuel) := by
  induction fuel generalizing machine with
  | zero => exact ⟨[], .start _⟩
  | succ fuel ih =>
    unfold runMonitor
    split
    · exact ⟨[], .start _⟩
    · next running =>
      split
      · exact ⟨[], .start _⟩
      · next stepped shown =>
        have alive : machine.ended = none := by simpa using running
        obtain ⟨note, monitor, steps, set⟩ := stepMonitor_eq_some shown
        have first := Move.go alive steps shown
        obtain ⟨history, rest⟩ := ih (present_of_set present set)
        exact ⟨_, ((Runs.start machine).next first).append rest⟩

theorem request_runs (request : MonitorRequest) (alive : machine.ended = none)
    (present : object ∈ machine.heap.objects) (real : me ≠ nobody)
    (idle : machine.monitorPhase me object = .idle) :
    ∃ history, Runs Move machine history (machine.request me object request) := by
  have called := Move.call request alive present real idle
  have still : object ∈ (machine.call me object request).heap.objects :=
    present_of_set present rfl
  obtain ⟨history, rest⟩ : ∃ history, Runs Move (machine.call me object request) history
      (machine.request me object request) := runMonitor_runs still 8
  exact ⟨_, ((Runs.start machine).next called).append rest⟩

end

end Machine
end ManagedRuntime
