import ManagedRuntime.Proofs.Heap.Objects
import ManagedRuntime.Proofs.Machine.Monitors
import ManagedRuntime.Proofs.Monitor.Sections

/-! What a request to a monitor leaves of a process: all but the monitor itself, what was logged,
and whether the process goes on. -/
namespace ManagedRuntime

namespace Machine
open Monitor (Happening balance isEntering)

/-- The same memory and tokens, and the same end if there is one. -/
structure Alike (machine after : Machine) : Prop where
  heap : after.heap = machine.heap
  ended : after.ended = machine.ended
  tokens : after.tokens = machine.tokens

section
variable (machine : Machine)

theorem alike_log (severity : Severity) (part : Part) (pieces : List LogPiece) :
    Alike machine (machine.log severity part pieces) := by
  obtain ⟨kept, written, same⟩ := log_eq machine severity part pieces
  rw [same]
  exact ⟨rfl, rfl, rfl⟩

theorem alike_readSettings : Alike machine machine.readSettings.2 := by
  unfold readSettings
  split
  · next cell _ => exact { alike_log { machine with settings := cell } _ _ _ with }
  · exact ⟨rfl, rfl, rfl⟩

/-- What brings no levels at one object brings none at any other. -/
theorem balance_logAt_placed {log : Monitor.Log} (still : Monitor.balance log thread = 0)
    (object place : UInt64) : Monitor.balance (logAt object (placed place log)) thread = 0 := by
  rw [logAt_placed]
  split
  · exact still
  · exact Monitor.balance_nil thread

theorem tokens_heed (me : Token) (object : UInt64) (note : MonitorNote) :
    (machine.heed me object note).tokens = machine.tokens := by
  have trapped (reason : Trap) (machine : Machine) :
      (machine.trap reason).tokens = machine.tokens := (alike_log machine _ _ _).tokens
  cases note with
  | entered | released => exact (alike_log machine _ _ _).tokens
  | misuse operation owner =>
    have read := (alike_readSettings machine).tokens
    simp only [heed]
    split
    · exact (trapped _ _).trans read
    · exact ((alike_log _ _ _ _).tokens).trans read
  | overflow => exact trapped _ _

end

section
variable {machine after : Machine}

theorem tokens_stepMonitor (shown : machine.stepMonitor me object = some after) :
    after.tokens = machine.tokens := by
  simp only [stepMonitor, Option.map_eq_some_iff] at shown
  obtain ⟨⟨note, monitor⟩, -, rfl⟩ := shown
  cases note with
  | none => rfl
  | some note => exact tokens_heed _ me object note

/-- A process that takes too many levels ends. -/
theorem not_overflow_of_alive (shown : machine.stepMonitor me object = some after)
    (stepped : (machine.heap.monitor object).step me = some (note, monitor))
    (alive : after.ended = none) : note ≠ some .overflow := by
  rintro rfl
  simp only [stepMonitor, stepped, Option.map_some, Option.some.injEq] at shown
  rw [← shown] at alive
  contradiction

theorem fields_stepMonitor (shown : machine.stepMonitor me object = some after) (r : Ref) :
    after.heap.fields r = machine.heap.fields r := by
  obtain ⟨note, monitor, -, set⟩ := stepMonitor_eq_some shown
  rw [set, Heap.fields_setMonitor]

theorem fields_runMonitor (machine : Machine) (me : Token) (object : UInt64) (fuel : Nat)
    (r : Ref) : (machine.runMonitor me object fuel).heap.fields r = machine.heap.fields r := by
  induction fuel generalizing machine with
  | zero => rfl
  | succ fuel ih =>
    unfold runMonitor
    split
    · rfl
    · split
      · rfl
      · next stepped shown => rw [ih, fields_stepMonitor shown]

/-- What happens at the monitor while a thread goes on with a request. -/
def monitorLog (machine : Machine) (me : Token) (object : UInt64) : Nat → Log
  | 0 => []
  | fuel + 1 =>
    if machine.ended.isSome then []
    else
      match (machine.heap.monitor object).step me, machine.stepMonitor me object with
      | some (note, monitor), some stepped =>
        placed object ((machine.heap.monitor object).happenings me note monitor) ++
          stepped.monitorLog me object fuel
      | _, _ => []

/-- What happens in a request. -/
def requestLog (machine : Machine) (me : Token) (object : UInt64) (request : MonitorRequest) :
    Log :=
  if object ∈ machine.heap.objects then
    placed object [(me, .called request)] ++ (machine.call me object request).monitorLog me object 8
  else []

/-- What happens when a thread has waited long enough. -/
def timeOutLog (machine : Machine) (me : Token) (object : UInt64) : Log :=
  placed object ((machine.heap.monitor object).roused ((machine.heap.monitor object).rouse me)) ++
    (machine.timeOut me object).monitorLog me object 8

/-- A thread that cannot make a step, or whose process has ended, is where it was. -/
theorem runMonitor_of_stuck
    (stuck : machine.ended ≠ none ∨ machine.stepMonitor me object = none) (fuel : Nat) :
    machine.runMonitor me object fuel = machine ∧ machine.monitorLog me object fuel = [] := by
  cases fuel with
  | zero => exact ⟨rfl, rfl⟩
  | succ fuel =>
    unfold runMonitor monitorLog
    obtain stopped | none := stuck
    · have some := Option.isSome_iff_ne_none.mpr stopped
      exact ⟨if_pos some, if_pos some⟩
    · rw [none]
      refine ⟨ite_self _, ?_⟩
      split
      · rfl
      · cases (machine.heap.monitor object).step me <;> rfl

theorem runMonitor_of_absent (absent : object ∉ machine.heap.objects) (fuel : Nat) :
    machine.runMonitor me object fuel = machine := by
  have none : machine.stepMonitor me object = none := by
    cases shown : machine.stepMonitor me object with
    | none => rfl
    | some after => exact absurd (present_of_step shown) absent
  exact (runMonitor_of_stuck (.inr none) fuel).1

theorem request_of_absent (absent : object ∉ machine.heap.objects) (request : MonitorRequest) :
    machine.request me object request = machine := by
  simp only [Machine.request, Heap.setMonitor_of_absent absent]
  exact runMonitor_of_absent absent 8

theorem runMonitor_of_step (alive : machine.ended = none)
    (steps : (machine.heap.monitor object).step me = some (note, monitor))
    (shown : machine.stepMonitor me object = some after) (fuel : Nat) :
    machine.runMonitor me object (fuel + 1) = after.runMonitor me object fuel ∧
      machine.monitorLog me object (fuel + 1) =
        placed object ((machine.heap.monitor object).happenings me note monitor) ++
          after.monitorLog me object fuel := by
  constructor
  · rw [runMonitor, alive, shown]
    rfl
  · rw [monitorLog, alive, steps, shown]
    rfl

/-- What each step of a request keeps, the request keeps, as long as the process goes on. -/
theorem runMonitor_keeps (holds : Log → Machine → Prop)
    (keeps : ∀ {history machine note monitor after}, holds history machine →
      (machine.heap.monitor object).step me = some (note, monitor) →
      machine.stepMonitor me object = some after → after.ended = none →
      holds (history ++
        placed object ((machine.heap.monitor object).happenings me note monitor)) after)
    (initial : holds history machine) (fuel : Nat) :
    Runs Move machine (machine.monitorLog me object fuel) (machine.runMonitor me object fuel) ∧
      ((machine.runMonitor me object fuel).ended = none →
        holds (history ++ machine.monitorLog me object fuel)
          (machine.runMonitor me object fuel)) := by
  induction fuel generalizing machine history with
  | zero => exact ⟨.start _, fun _ => (List.append_nil history).symm ▸ initial⟩
  | succ fuel ih =>
    by_cases stuck : machine.ended ≠ none ∨ machine.stepMonitor me object = none
    · obtain ⟨same, silent⟩ := runMonitor_of_stuck stuck (fuel + 1)
      rw [same, silent, List.append_nil]
      exact ⟨.start _, fun _ => initial⟩
    · obtain ⟨alive, goes⟩ := not_or.mp stuck
      replace alive : machine.ended = none := not_not.mp alive
      obtain ⟨stepped, shown⟩ := Option.ne_none_iff_exists'.mp goes
      obtain ⟨note, monitor, steps, -⟩ := stepMonitor_eq_some shown
      obtain ⟨same, log⟩ := runMonitor_of_step alive steps shown fuel
      have first := (Runs.start machine).next (Move.go alive steps shown)
      rw [same, log]
      by_cases lives : stepped.ended = none
      · obtain ⟨rest, held⟩ := ih (keeps initial steps shown lives)
        rw [List.append_assoc] at held
        exact ⟨first.append rest, held⟩
      · obtain ⟨stays, silent⟩ := runMonitor_of_stuck (.inl lives) fuel
        rw [stays, silent, List.append_nil]
        exact ⟨first, fun alive => absurd alive lives⟩

end

end Machine
end ManagedRuntime
