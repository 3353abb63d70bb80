import ManagedRuntime.Machine.EntryPoints
import ManagedRuntime.Proofs.Heap.Marshalling
import ManagedRuntime.Proofs.Machine.Tables

/-! What the operations of a process do to its memory: one change after the other, and none that is
not a write, an allocation, a table, a text or a move of a monitor. -/
namespace ManagedRuntime

namespace Heap
open Memory
variable {heap : Heap}

theorem changes_storeTexts (target : Ref) (index : Nat) (texts : List UInt64) :
    Runs Change heap [] (heap.storeTexts target index texts) := by
  induction texts generalizing heap index with
  | nil => exact .start _
  | cons address rest ih =>
    exact (changes_storeText heap target index address).append (ih (index + 1))

theorem changes_marshalArguments {arguments : List UInt64} {table : UInt64} {after : Heap}
    (made : heap.marshalArguments arguments table = .ok (r, after)) :
    Runs Change heap [] after := by
  obtain ⟨_, allocated, stored⟩ := Dispatch.bind_eq_ok made
  cases stored
  exact (Runs.one (Change.array allocated)).append (changes_storeTexts _ _ _)

theorem changes_copyArray {source destination : Ref} {sourceStart destinationStart count : Int64}
    {after : Heap}
    (copied : heap.copyArray source sourceStart destination destinationStart count = .ok after) :
    Runs Change heap [] after := by
  unfold copyArray at copied
  dsimp only at copied
  split at copied
  · cases copied
  · split at copied
    · cases copied
      exact .start _
    · cases copied
      exact .one (.write destination _ (Block.size_write ..))

end Heap

namespace Machine
variable {machine : Machine}

/-- Only an allocation that succeeds leaves its mark on memory. -/
theorem heap_allocated (size : UInt64) (outcome : Except AllocationFault (Ref × Heap)) :
    (machine.allocated size outcome).2.heap = outcome.toOption.elim machine.heap Prod.snd := by
  cases outcome with
  | ok answer => exact heap_log ..
  | error fault =>
    cases fault with
    | refused reason => rfl
    | exhausted bytes => exact heap_log ..

theorem changes_allocated {outcome : Except AllocationFault (Ref × Heap)} (size : UInt64)
    (made : ∀ r heap, outcome = .ok (r, heap) → Runs Heap.Change machine.heap [] heap) :
    Runs Heap.Change machine.heap [] (machine.allocated size outcome).2.heap := by
  rw [heap_allocated]
  cases outcome with
  | ok answer => exact made answer.1 answer.2 rfl
  | error fault => exact .start _

theorem changes_newObject (size table : UInt64) :
    Runs Heap.Change machine.heap [] (machine.newObject size table).2.heap :=
  changes_allocated size fun _ _ made => .one (.object made)

theorem changes_arrayTable :
    Runs Heap.Change machine.heap [] machine.arrayTable.2.heap := by
  cases asked : machine.arrayTable with
  | mk table ready =>
    cases table with
    | none => exact arrayTable_eq_none asked ▸ .start _
    | some table => exact (readies_arrayTable asked).changes

theorem changes_withArrayTable {allocate : UInt64 → Machine → Except Trap Ref × Machine}
    (allocates : ∀ table ready, Runs Heap.Change ready.heap [] (allocate table ready).2.heap) :
    Runs Heap.Change machine.heap [] (machine.withArrayTable allocate).2.heap :=
  heap_withArrayTable (.start _) fun table ready readies =>
    readies.changes.append (allocates table ready)

theorem changes_newArray (length : UInt32) (width : UInt64) :
    Runs Heap.Change machine.heap [] (machine.newArray length width).2.heap := by
  simp only [newArray]
  split
  · exact changes_withArrayTable fun table ready =>
      changes_allocated _ fun _ _ made => .one (.array made)
  · exact .start _

theorem changes_marshalArguments (arguments : List UInt64) :
    Runs Heap.Change machine.heap [] (machine.marshalArguments arguments).2.heap :=
  changes_withArrayTable fun table ready =>
    changes_allocated _ fun _ _ made => Heap.changes_marshalArguments made

theorem changes_setArrayTable (table : UInt64) :
    Runs Heap.Change machine.heap [table] (machine.setArrayTable table).heap := by
  have heap : (machine.setArrayTable table).heap = machine.heap.setArrayTable table :=
    congrArg (·.setArrayTable table) (heap_log machine _ _ _)
  rw [heap]
  exact .one (.arrayTable table)

theorem changes_buildTable {blueprint : Dispatch.Blueprint} {answer : Option UInt64}
    {after : Machine} (built : machine.buildTable blueprint = .ok (answer, after)) :
    Runs Heap.Change machine.heap [] after.heap := by
  obtain ⟨table, -, placed⟩ := buildTable_eq_ok built
  cases answer with
  | none => exact placed.2 ▸ .start _
  | some address => exact .one (.table placed.1)

theorem changes_copyArray {source destination : Ref} {sourceStart destinationStart count : Int64}
    {after : Machine}
    (copied : machine.copyArray source sourceStart destination destinationStart count =
      .ok after) : Runs Heap.Change machine.heap [] after.heap := by
  obtain ⟨_, moved, kept⟩ := Dispatch.bind_eq_ok copied
  cases kept
  exact Heap.changes_copyArray moved

theorem changes_arrayCopy (source : Ref) (sourceStart : Int32) (destination : Ref)
    (destinationStart count : Int32) :
    Runs Heap.Change machine.heap []
      (EntryPoint.arrayCopy machine source sourceStart destination destinationStart
        count).heap := by
  unfold EntryPoint.arrayCopy
  split
  · next copied => exact changes_copyArray copied
  · rw [heap_trap]
    exact .start _

theorem changes_callArrayCopy (source : Ref) (sourceStart : Int32) (destination : Ref)
    (destinationStart count : Int32) :
    Runs Heap.Change machine.heap []
      (Native.Stub.callArrayCopy machine source sourceStart destination destinationStart
        count).heap := by
  have same : Native.Stub.callArrayCopy = EntryPoint.arrayCopy := rfl
  rw [same]
  exact changes_arrayCopy ..

/-! Monitors. -/

theorem changes_runMonitor (machine : Machine) (me : Token) (object : UInt64) (fuel : Nat) :
    Runs Heap.Change machine.heap [] (machine.runMonitor me object fuel).heap := by
  induction fuel generalizing machine with
  | zero => exact .start _
  | succ fuel ih =>
    unfold runMonitor
    split
    · exact .start _
    · cases shown : machine.stepMonitor me object with
      | none => exact .start _
      | some stepped =>
        obtain ⟨-, monitor, -, set⟩ := stepMonitor_eq_some shown
        have moved : Runs Heap.Change machine.heap [] stepped.heap := by
          rw [set]
          exact .one (.monitor object monitor)
        exact moved.append (ih stepped)

theorem changes_timeOut (me : Token) (object : UInt64) :
    Runs Heap.Change machine.heap [] (machine.timeOut me object).heap :=
  .one (.monitor object _)

theorem changes_request (me : Token) (object : UInt64) (request : MonitorRequest) :
    Runs Heap.Change machine.heap [] (machine.request me object request).heap :=
  have begun : Runs Heap.Change machine.heap [] (machine.call me object request).heap :=
    .one (.monitor object _)
  begun.append (changes_runMonitor _ me object 8)

theorem changes_notify (me : Token) (r : Ref) (all : Bool) :
    Runs Heap.Change machine.heap [] (machine.notify me r all).heap := by
  have heap : machine.readSettings.2.heap = machine.heap := heap_readSettings machine
  rw [← heap]
  exact changes_request ..

/-! Settings and the log. -/

theorem heap_configure {settings : Settings} {after : Machine}
    (configured : machine.configure settings = .ok after) : after.heap = machine.heap := by
  obtain ⟨_, -, kept⟩ := Dispatch.bind_eq_ok configured
  cases kept
  rfl

theorem heap_initLogging (machine : Machine) : machine.initLogging.heap = machine.heap := by
  unfold initLogging
  dsimp only
  split <;> rfl

theorem heap_itableLookup (machine : Machine) (r : Ref) (interface index : UInt64) :
    (EntryPoint.itableLookup machine r interface index).2.heap = machine.heap := by
  unfold EntryPoint.itableLookup
  split
  · rfl
  · exact heap_log ..

end Machine
end ManagedRuntime
