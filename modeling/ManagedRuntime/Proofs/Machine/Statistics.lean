import ManagedRuntime.Proofs.Heap.Statistics
import ManagedRuntime.Proofs.Machine.Changes

/-! Allocation statistics of a process. Objects, arrays and argument arrays are counted when they
are made; what is refused is not, and tables and texts are not either. -/
namespace ManagedRuntime

/-- The object that an allocation brings about, if it succeeds. -/
def madeBy (payload : Nat) : Except AllocationFault (Ref × Heap) → List MadeObject
  | .ok (r, _) => [⟨r, payload⟩]
  | .error _ => []

namespace Machine

/-- The array that an allocation brings about, once it has the array table. -/
def madeWithTable (machine : Machine) (payload : Nat)
    (allocate : UInt64 → Heap → Except AllocationFault (Ref × Heap)) : List MadeObject :=
  match machine.arrayTable with
  | (some table, ready) => madeBy payload (allocate table ready.heap)
  | (none, _) => []

/-- What a process does to its memory in one go, with the object that it makes. -/
inductive Operation (machine : Machine) : List MadeObject → Machine → Prop
  | object (size table : UInt64) :
      Operation machine (madeBy size.toNat (machine.heap.allocateObject size table))
        (machine.newObject size table).2
  | array (length : UInt32) (width : UInt64) :
      Operation machine
        (machine.madeWithTable (16 + length.toNat * width.toNat) fun table heap =>
          heap.allocateArray length width table)
        (machine.newArray length width).2
  | arguments (arguments : List UInt64) :
      Operation machine
        (machine.madeWithTable (16 + (UInt32.ofNat (arguments.drop 1).length).toNat * 16)
          fun table heap => heap.marshalArguments arguments table)
        (machine.marshalArguments arguments).2
  | arrayTable (table : UInt64) : Operation machine [] (machine.setArrayTable table)
  | table {blueprint : Dispatch.Blueprint} {answer : Option UInt64} {after : Machine}
      (built : machine.buildTable blueprint = .ok (answer, after)) : Operation machine [] after
  | string (bytes : List UInt8) :
      Operation machine [] { machine with heap := (machine.heap.copyString bytes).2 }
  | copy {source destination : Ref} {sourceStart destinationStart count : Int64} {after : Machine}
      (copied : machine.copyArray source sourceStart destination destinationStart count =
        .ok after) : Operation machine [] after
  | write (r : Ref) (fields : Memory.Block) :
      Operation machine [] { machine with heap := machine.heap.setFields r fields }
  | call (me : Token) (object : UInt64) (request : MonitorRequest) :
      Operation machine [] (machine.call me object request)
  | step {me : Token} {object : UInt64} {after : Machine}
      (stepped : machine.stepMonitor me object = some after) : Operation machine [] after
  | timeOut (me : Token) (object : UInt64) : Operation machine [] (machine.timeOut me object)
  /-- Whatever does not touch memory. -/
  | elsewhere {after : Machine} (same : after.heap = machine.heap) : Operation machine [] after

section
variable {count : Nat} {state : Allotting count} {me : Fin count} {machine after : Machine}

theorem runs_allocated {payload : Nat} {outcome : Except AllocationFault (Ref × Heap)}
    (size : UInt64) (shared : state.heap = machine.heap)
    (made : ∀ r heap, outcome = .ok (r, heap) →
      Runs Allotting.Move state [⟨r, payload⟩] { state with heap }) :
    Runs Allotting.Move state (madeBy payload outcome)
      { state with heap := (machine.allocated size outcome).2.heap } := by
  rw [heap_allocated, ← shared]
  cases outcome with
  | ok answer => exact made answer.1 answer.2 rfl
  | error fault => exact .start _

/-- The table of new arrays goes by the counters. -/
theorem Readies.bypass {table : UInt64} {ready : Machine} (readies : Readies machine table ready) :
    Relation.ReflTransGen Heap.Bypass machine.heap ready.heap := by
  cases there : machine.heap.arrayTable? with
  | some other =>
    obtain ⟨-, rfl⟩ := readies.already other there
    exact .refl
  | none =>
    obtain ⟨placed, room, heap, -⟩ := readies.built there
    exact heap ▸ .tail (.single (.table room)) (.ownTable (some table))

/-- An allocation that needs the array table asks for that first. -/
theorem runs_withArrayTable {payload : Nat} (shared : state.heap = machine.heap)
    {outcome : UInt64 → Heap → Except AllocationFault (Ref × Heap)} (size : UInt64)
    (made : ∀ ready : Heap, ∀ table r heap, outcome table ready = .ok (r, heap) →
      Runs Allotting.Move { state with heap := ready } [⟨r, payload⟩] { state with heap }) :
    Runs Allotting.Move state (machine.madeWithTable payload outcome)
      { state with heap := (machine.withArrayTable fun table ready =>
        ready.allocated size (outcome table ready.heap)).2.heap } := by
  unfold madeWithTable withArrayTable
  cases asked : machine.arrayTable with
  | mk table ready =>
    cases table with
    | none =>
      obtain rfl := arrayTable_eq_none asked
      exact shared ▸ .start _
    | some table =>
      have prepared : Runs Allotting.Move state [] { state with heap := ready.heap } :=
        Allotting.runs_bypass (shared ▸ (readies_arrayTable asked).bypass)
      have allocated : Runs Allotting.Move { state with heap := ready.heap }
          (madeBy payload (outcome table ready.heap)) _ :=
        runs_allocated size rfl fun r heap => made ready.heap table r heap
      exact prepared.append allocated

theorem runs_newArray (idle : state.phases me = .idle) (shared : state.heap = machine.heap)
    (length : UInt32) (width : UInt64) :
    Runs Allotting.Move state
      (machine.madeWithTable (Heap.arrayPayload length width) fun table heap =>
        heap.allocateArray length width table)
      { state with heap := (machine.newArray length width).2.heap } := by
  simp only [newArray]
  split
  · exact runs_withArrayTable shared _ fun ready table r heap made =>
      have idle : { state with heap := ready }.phases me = .idle := idle
      Allotting.runs_allocateArray idle made
  · next large =>
    -- what no word holds is refused before anything is asked for
    have refused (table : UInt64) (heap : Heap) : madeBy (Heap.arrayPayload length width)
        (heap.allocateArray length width table) = [] := by
      rw [Heap.allocateArray, if_neg large]
      rfl
    have none : (machine.madeWithTable (Heap.arrayPayload length width) fun table heap =>
        heap.allocateArray length width table) = [] := by
      unfold madeWithTable
      split
      · exact refused _ _
      · rfl
    rw [none]
    exact shared ▸ .start _

theorem bypass_stepMonitor {object : UInt64} {me : Token}
    (stepped : machine.stepMonitor me object = some after) : machine.heap.Bypass after.heap := by
  obtain ⟨-, monitor, -, set⟩ := stepMonitor_eq_some stepped
  exact set ▸ .monitor object monitor

/-- An operation goes through the steps of an allocation, or by the counters. -/
theorem runs_operation {made : List MadeObject} (idle : state.phases me = .idle)
    (shared : state.heap = machine.heap) (operation : Operation machine made after) :
    Runs Allotting.Move state made { state with heap := after.heap } := by
  have aside {heap : Heap} (changes : Relation.ReflTransGen Heap.Bypass machine.heap heap) :
      Runs Allotting.Move state [] { state with heap } := Allotting.runs_bypass (shared ▸ changes)
  have payload (length : UInt32) (width : UInt64) :
      Heap.arrayPayload length width = 16 + length.toNat * width.toNat := Nat.add_comm ..
  cases operation with
  | object size table =>
    exact runs_allocated _ shared fun _ _ made =>
      Allotting.runs_allocateObject idle (shared ▸ made)
  | array length width =>
    rw [← payload length width]
    exact runs_newArray idle shared length width
  | arguments arguments =>
    have size := payload (.ofNat (arguments.drop 1).length) Memory.Format.referenceSize
    rw [show Memory.Format.referenceSize.toNat = 16 from rfl] at size
    rw [← size]
    exact runs_withArrayTable shared _ fun ready table r heap made =>
      have idle : { state with heap := ready }.phases me = .idle := idle
      Allotting.runs_marshalArguments idle made
  | arrayTable table =>
    have heap : (machine.setArrayTable table).heap = machine.heap.setArrayTable table :=
      congrArg (·.setArrayTable table) (heap_log machine _ _ _)
    rw [heap]
    exact aside (.single (.arrayTable table))
  | @table _ answer _ built =>
    obtain ⟨table, -, placed⟩ := buildTable_eq_ok built
    cases answer with
    | none => exact aside (placed.2 ▸ .refl)
    | some address => exact aside (.single (.table placed.1))
  | string bytes => exact aside (.single (.text bytes))
  | copy copied =>
    obtain ⟨_, moved, kept⟩ := Dispatch.bind_eq_ok copied
    cases kept
    exact aside (Heap.bypass_copyArray moved)
  | write r fields => exact aside (.single (.write r fields))
  | call me object request => exact aside (.single (.monitor object _))
  | step stepped => exact aside (.single (bypass_stepMonitor stepped))
  | timeOut me object => exact aside (.single (.monitor object _))
  | elsewhere same => exact aside (same ▸ .refl)

theorem runs_operations {made : List MadeObject} (idle : state.phases me = .idle)
    (shared : state.heap = machine.heap) (operations : Runs Operation machine made after) :
    Runs Allotting.Move state made { state with heap := after.heap } := by
  induction operations with
  | start => exact shared ▸ .start state
  | next _ operation ih => exact ih.append (runs_operation idle rfl operation)

/-- A process on its own is one thread without an allocation in progress. -/
theorem grows_of_operations {made : List MadeObject}
    (operations : Runs Operation machine made after) : machine.heap.Grows made after.heap := by
  let alone : Allotting 1 := { heap := machine.heap }
  have run : Runs Allotting.Move alone made { alone with heap := after.heap } :=
    runs_operations (rfl : alone.phases 0 = .idle) rfl operations
  exact Allotting.grows_of_runs run (fun _ => rfl) fun _ => rfl

end

/-- Allocation statistics count the objects and arrays that are made, and nothing else. However the
steps of the threads are interleaved, between two states without an allocation in progress the
counters grow by the number of objects made and by all that they take; and they do not fall before
the first sum that no word holds. What a process does in one go is a run of such steps of a thread
that has nothing under way, so these sums hold over its operations too: what is refused adds nothing
to them, and neither do tables, texts, copies and monitors. -/
theorem statistics_count_allocations {count : Nat} {first middle last : Allotting count}
    {early late : List MadeObject} (idle : first.Idle)
    (begun : Runs Allotting.Move first early middle)
    (continued : Runs Allotting.Move middle late last) :
    (last.Idle → first.heap.Grows (early ++ late) last.heap) ∧
    (first.heap.objectsAllocated.toNat +
        ((early ++ late).length + last.total (·.objects)) < 2 ^ 64 →
      middle.heap.objectsAllocated ≤ last.heap.objectsAllocated) ∧
    (first.heap.bytesAllocated.toNat + (charges (early ++ late) + last.total (·.bytes)) < 2 ^ 64 →
      middle.heap.bytesAllocated ≤ last.heap.bytesAllocated) ∧
    (∀ me machine made after, last.phases me = .idle → last.heap = machine.heap →
      Runs Operation machine made after →
      Runs Allotting.Move last made { last with heap := after.heap }) ∧
    ∀ machine made after, Runs Operation machine made after →
      machine.heap.Grows made after.heap :=
  ⟨Allotting.grows_of_runs (begun.append continued) idle,
    Allotting.objects_le idle begun continued, Allotting.bytes_le idle begun continued,
    fun _ _ _ _ => runs_operations, fun _ _ _ => grows_of_operations⟩

/-- An object with a word of fields, and an array of three words. -/
def wordRequest : AllocationRequest := ⟨8, 0x8000, ⟨56, 16⟩, by decide⟩
def arrayRequest : AllocationRequest := ⟨40, 0x9000, ⟨88, 16⟩, by decide⟩

/-- One thread makes an object and another an array, each between the two counters of the other, and
a text is placed meanwhile. -/
theorem statistics_count_allocations_interleaved :
    ∃ middle last : Allotting 2,
      Runs Allotting.Move { heap := {} } [] middle ∧ ¬middle.Idle ∧
      Runs Allotting.Move middle [⟨⟨0x10000, 0x8000⟩, 8⟩, ⟨⟨0x10040, 0x9000⟩, 40⟩] last ∧
      last.Idle ∧ last.heap.objectsAllocated.toNat = 2 ∧
      last.heap.bytesAllocated = (48 + 8) + (48 + 40) ∧
      middle.heap.objectsAllocated ≤ last.heap.objectsAllocated ∧
      middle.heap.bytesAllocated ≤ last.heap.bytesAllocated := by
  let first : Allotting 2 := { heap := {} }
  have idle : first.Idle := fun _ => rfl
  obtain ⟨middle, begun, mine, yours⟩ : ∃ middle, Runs Allotting.Move first [] middle ∧
      middle.phases 0 = .counted wordRequest 0x10000 ∧
      middle.phases 1 = .counted arrayRequest 0x10040 := by
    have begins : Runs Allotting.Move first [] first := .start _
    have accepted := (begins.next (.accept _ 0 wordRequest rfl)).next (.accept _ 1 arrayRequest rfl)
    have reserved := (accepted.next (.reserve _ 0 rfl rfl)).next (.reserve _ 1 rfl rfl)
    exact ⟨_, (reserved.next (.count _ 1 rfl)).next (.count _ 0 rfl), rfl, rfl⟩
  obtain ⟨last, continued, resting⟩ : ∃ last, Runs Allotting.Move middle
      [⟨⟨0x10000, 0x8000⟩, 8⟩, ⟨⟨0x10040, 0x9000⟩, 40⟩] last ∧ last.Idle := by
    have begins : Runs Allotting.Move middle [] middle := .start _
    have placed := (begins.next (.charge _ 0 mine)).next (.place _ 0 rfl)
    have charged := (placed.next (.bypass _ (.text [104, 105]))).next (.charge _ 1 yours)
    have finished := charged.next (.place _ 1 rfl)
    refine ⟨_, finished, fun me => ?_⟩
    match me with
    | 0 => rfl
    | 1 => rfl
  have none (measure : AllocationPhase → Nat) (zero : measure .idle = 0) :
      last.total measure = 0 := Allotting.total_of_idle zero resting
  obtain ⟨grows, objects, bytes, -⟩ := statistics_count_allocations idle begun continued
  refine ⟨middle, last, begun, ?_, continued, resting, ?_, ?_, objects ?_, bytes ?_⟩
  · intro still
    cases (still 0).symm.trans mine
  · have grown := (grows resting).objects
    rwa [UInt64.sub_zero] at grown
  · have grown := (grows resting).bytes
    rwa [UInt64.sub_zero] at grown
  · rw [none (·.objects) rfl]
    decide
  · rw [none (·.bytes) rfl]
    decide

end Machine
end ManagedRuntime
