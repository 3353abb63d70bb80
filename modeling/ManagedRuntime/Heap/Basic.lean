import Std.Data.ExtTreeMap
import Std.Data.TreeMap
import ManagedRuntime.Dispatch.Static
import ManagedRuntime.Monitor.Basic
import ManagedRuntime.Native.Registry
import ManagedRuntime.Reference

/-! The memory of a process: objects, dispatch tables and zero-terminated texts, each at an
address of its own. Nothing is ever freed. -/
namespace ManagedRuntime
open Memory

/-- Address of the first field. -/
def Ref.fieldPointer (r : Ref) : UInt64 := r.object + Format.objectHeaderSize

/-- An object behind its header; positions in `fields` count from the end of the header. -/
structure HeapObject where
  monitor : Monitor := {}
  fields : Block

structure Heap where
  objects : Std.ExtTreeMap UInt64 HeapObject := ∅
  tables : Std.TreeMap UInt64 Block := ∅
  texts : Std.TreeMap UInt64 (List UInt8) := ∅
  /-- Everything from here on is free. -/
  next : Nat := 0x10000
  objectsAllocated : UInt64 := 0
  bytesAllocated : UInt64 := 0
  /-- The table for new arrays, null while the class library has set none. -/
  registeredArrayTable : UInt64 := 0
  /-- The runtime's own table for arrays, once it was needed. -/
  defaultArrayTable : Option UInt64 := none
  /-- What is copied into the gaps of a table, by where free memory begins and by entry. -/
  residue : Nat → Nat → UInt32 := fun _ _ => 0

/-- Why an object is not allocated. -/
inductive AllocationFault
  | refused (trap : Trap)
  /-- A block of this size was asked for and there is no memory for it. -/
  | exhausted (bytes : UInt64)
deriving DecidableEq, Repr

namespace Heap

/-- Addresses end here. -/
def addressLimit : Nat := 1 <<< 47

/-- Distance from a region of `size` bytes to the next. A large region is followed by a gap, so
that addresses behind it differ from its own in their lower halves too. -/
def stride (size : Nat) : Nat :=
  if size < 1 <<< 20 then roundUp (size + 1) 16 else ((size >>> 32 + 1) <<< 32) + 16

/-- Address of a fresh 16-aligned region of `size` bytes. -/
def reserve? (heap : Heap) (size : Nat) : Option (UInt64 × Heap) :=
  if heap.next + size ≤ addressLimit then
    some (UInt64.ofNat heap.next, { heap with next := heap.next + stride size })
  else none

def object? (heap : Heap) (r : Ref) : Option HeapObject := heap.objects[r.object]?

/-- The fields of an object; empty for an address without one. -/
def fields (heap : Heap) (r : Ref) : Block :=
  ((heap.object? r).map (·.fields)).getD (.zeroed 0)

def setFields (heap : Heap) (r : Ref) (fields : Block) : Heap :=
  match heap.object? r with
  | none => heap
  | some object =>
    { heap with objects := heap.objects.insert r.object { object with fields } }

def monitor (heap : Heap) (object : UInt64) : Monitor :=
  ((heap.objects[object]?).map (·.monitor)).getD {}

def setMonitor (heap : Heap) (object : UInt64) (monitor : Monitor) : Heap :=
  match heap.objects[object]? with
  | none => heap
  | some held =>
    { heap with objects := heap.objects.insert object { held with monitor } }

def table (heap : Heap) (r : Ref) : Block := (heap.tables[r.table]?).getD (.zeroed 0)

/-- Places an object of the given layout and counts it. -/
def place (heap : Heap) (layout : Layout) (size : UInt64) (table : UInt64) :
    Except AllocationFault (Ref × Heap) :=
  match heap.reserve? layout.size.toNat with
  | none => .error (.exhausted layout.size)
  | some (address, heap) =>
    .ok (⟨address, table⟩, { heap with
      objects := heap.objects.insert address { fields := .zeroed size.toNat }
      objectsAllocated := heap.objectsAllocated + 1
      bytesAllocated := heap.bytesAllocated + layout.size })

/-- An object with `size` bytes of zeroed fields. -/
def allocateObject (heap : Heap) (size table : UInt64) : Except AllocationFault (Ref × Heap) :=
  match objectLayout? size with
  | none => .error (.refused (.allocationTooLarge size.toNat))
  | some layout => heap.place layout size table

/-- The table that new arrays carry, if it is there already. -/
def arrayTable? (heap : Heap) : Option UInt64 :=
  if heap.registeredArrayTable = 0 then heap.defaultArrayTable else some heap.registeredArrayTable

def setArrayTable (heap : Heap) (table : UInt64) : Heap :=
  { heap with registeredArrayTable := table }

/-- Keeps a finished dispatch table for the rest of the process, if there is room for it. -/
def placeTable (heap : Heap) (table : Block) : Option (UInt64 × Heap) :=
  (heap.reserve? table.size).map fun (address, heap) =>
    (address, { heap with tables := heap.tables.insert address table })

/-- Keeps bytes with a zero behind them. -/
def placeText (heap : Heap) (bytes : List UInt8) : UInt64 × Heap :=
  match heap.reserve? (bytes.length + 1) with
  | none => (0, heap)
  | some (address, heap) =>
    (address, { heap with texts := heap.texts.insert address (bytes ++ [0]) })

/-- The text at an address, up to its first zero. -/
def textAt (heap : Heap) (address : UInt64) : List UInt8 :=
  Native.cString ((heap.texts[address]?).getD [])

end Heap

/-- A string reference points straight at its bytes and has no dispatch table. -/
def stringConstant (address : UInt64) : Ref := ⟨address, 0⟩

/-- A string with a copy of the bytes of its own. -/
def Heap.copyString (heap : Heap) (bytes : List UInt8) : Ref × Heap :=
  let (address, heap) := heap.placeText bytes
  (stringConstant address, heap)

end ManagedRuntime
