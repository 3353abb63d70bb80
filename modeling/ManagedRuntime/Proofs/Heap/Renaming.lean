import ManagedRuntime.Heap.Array
import ManagedRuntime.Proofs.Monitor.Renaming

/-! Memory whose monitors know their threads under other tokens. Nothing else in memory holds a
token, so whatever is done there is done alike. -/
namespace ManagedRuntime.Heap
open Memory

def renamed (rename : Rename) (heap : Heap) : Heap :=
  { heap with
    objects := heap.objects.map fun _ object =>
      { object with monitor := object.monitor.renamed rename } }

section
variable (rename : Rename) (heap : Heap)

@[simp] theorem renamed_same : heap.renamed .same = heap := by
  have objects : (heap.objects.map fun _ object =>
      { object with monitor := object.monitor.renamed .same }) = heap.objects := by
    refine Std.ExtTreeMap.ext_getElem? fun address => ?_
    simp only [Std.ExtTreeMap.getElem?_map, Monitor.renamed_same]
    exact Option.map_id'
  rw [renamed, objects]

/-! What is read. -/

theorem getElem?_renamed (address : UInt64) : (heap.renamed rename).objects[address]? =
    heap.objects[address]?.map fun object =>
      { object with monitor := object.monitor.renamed rename } :=
  Std.ExtTreeMap.getElem?_map

@[simp] theorem fields_renamed (r : Ref) : (heap.renamed rename).fields r = heap.fields r := by
  simp only [fields, object?, getElem?_renamed, Option.map_map]
  rfl

@[simp] theorem monitor_renamed (object : UInt64) :
    (heap.renamed rename).monitor object = (heap.monitor object).renamed rename := by
  simp only [monitor, getElem?_renamed]
  cases heap.objects[object]? with
  | none => exact (Monitor.renamed_empty rename).symm
  | some held => rfl

@[simp] theorem table_renamed (r : Ref) : (heap.renamed rename).table r = heap.table r := rfl

@[simp] theorem textAt_renamed (address : UInt64) :
    (heap.renamed rename).textAt address = heap.textAt address := rfl

@[simp] theorem next_renamed : (heap.renamed rename).next = heap.next := rfl

@[simp] theorem residue_renamed : (heap.renamed rename).residue = heap.residue := rfl

@[simp] theorem objectsAllocated_renamed :
    (heap.renamed rename).objectsAllocated = heap.objectsAllocated := rfl

@[simp] theorem bytesAllocated_renamed :
    (heap.renamed rename).bytesAllocated = heap.bytesAllocated := rfl

@[simp] theorem arrayTable?_renamed : (heap.renamed rename).arrayTable? = heap.arrayTable? := rfl

@[simp] theorem arrayLength_renamed (r : Ref) :
    (heap.renamed rename).arrayLength r = heap.arrayLength r := by
  simp only [arrayLength, fields_renamed]

@[simp] theorem arrayWidth_renamed (r : Ref) :
    (heap.renamed rename).arrayWidth r = heap.arrayWidth r := by
  simp only [arrayWidth, fields_renamed]

@[simp] theorem readRefElement_renamed (r : Ref) (index : Nat) :
    (heap.renamed rename).readRefElement r index = heap.readRefElement r index := by
  simp only [readRefElement, fields_renamed]

/-! What is written. -/

/-- An object is put in place. -/
theorem insert_renamed (address : UInt64) (object : HeapObject) :
    { heap.renamed rename with
      objects := (heap.renamed rename).objects.insert address
        { object with monitor := object.monitor.renamed rename } } =
      { heap with objects := heap.objects.insert address object }.renamed rename := by
  simp only [renamed]
  congr 1
  refine Std.ExtTreeMap.ext_getElem? fun place => ?_
  simp only [Std.ExtTreeMap.getElem?_insert, Std.ExtTreeMap.getElem?_map]
  split <;> rfl

@[simp] theorem setFields_renamed (r : Ref) (fields : Block) :
    (heap.renamed rename).setFields r fields = (heap.setFields r fields).renamed rename := by
  simp only [setFields, object?, getElem?_renamed]
  cases heap.objects[r.object]? with
  | none => rfl
  | some held => exact insert_renamed rename heap r.object { held with fields }

@[simp] theorem setMonitor_renamed (object : UInt64) (monitor : Monitor) :
    (heap.renamed rename).setMonitor object (monitor.renamed rename) =
      (heap.setMonitor object monitor).renamed rename := by
  simp only [setMonitor, getElem?_renamed]
  cases heap.objects[object]? with
  | none => rfl
  | some held => exact insert_renamed rename heap object { held with monitor }

@[simp] theorem setArrayTable_renamed (table : UInt64) :
    (heap.renamed rename).setArrayTable table = (heap.setArrayTable table).renamed rename := rfl

/-- What an allocation leaves behind. -/
def renamedOutcome (outcome : Except AllocationFault (Ref × Heap)) :
    Except AllocationFault (Ref × Heap) :=
  outcome.map fun made => (made.1, made.2.renamed rename)

theorem reserve?_renamed (size : Nat) :
    (heap.renamed rename).reserve? size =
      (heap.reserve? size).map fun region => (region.1, region.2.renamed rename) := by
  unfold reserve?
  rw [next_renamed]
  by_cases room : heap.next + size ≤ addressLimit
  · rw [if_pos room, if_pos room]
    rfl
  · rw [if_neg room, if_neg room]
    rfl

theorem place_renamed (layout : Layout) (size table : UInt64) :
    (heap.renamed rename).place layout size table =
      renamedOutcome rename (heap.place layout size table) := by
  simp only [place, reserve?_renamed]
  cases heap.reserve? layout.size.toNat with
  | none => rfl
  | some region =>
    have put := insert_renamed rename { region.2 with
      objectsAllocated := region.2.objectsAllocated + 1
      bytesAllocated := region.2.bytesAllocated + layout.size } region.1
        { fields := .zeroed size.toNat }
    rw [Monitor.renamed_empty] at put
    exact congrArg (fun heap => Except.ok (_, heap)) put

theorem allocateObject_renamed (size table : UInt64) :
    (heap.renamed rename).allocateObject size table =
      renamedOutcome rename (heap.allocateObject size table) := by
  simp only [allocateObject, place_renamed]
  split <;> rfl

theorem allocateArray_renamed (length : UInt32) (width table : UInt64) :
    (heap.renamed rename).allocateArray length width table =
      renamedOutcome rename (heap.allocateArray length width table) := by
  simp only [allocateArray, allocateObject_renamed]
  split
  · cases heap.allocateObject (UInt64.ofNat (arrayPayload length width)) table with
    | error fault => rfl
    | ok made =>
      simp only [renamedOutcome, Except.map, bind, Except.bind, fields_renamed, setFields_renamed]
      rfl
  · rfl

@[simp] theorem placeTable_renamed (table : Block) :
    (heap.renamed rename).placeTable table =
      (heap.placeTable table).map fun placed => (placed.1, placed.2.renamed rename) := by
  simp only [placeTable, reserve?_renamed]
  cases heap.reserve? table.size <;> rfl

@[simp] theorem placeText_renamed (bytes : List UInt8) :
    (heap.renamed rename).placeText bytes =
      ((heap.placeText bytes).1, (heap.placeText bytes).2.renamed rename) := by
  simp only [placeText, reserve?_renamed]
  cases heap.reserve? (bytes.length + 1) <;> rfl

@[simp] theorem copyString_renamed (bytes : List UInt8) :
    (heap.renamed rename).copyString bytes =
      ((heap.copyString bytes).1, (heap.copyString bytes).2.renamed rename) := by
  simp only [copyString, placeText_renamed]

@[simp] theorem copyArray_renamed (source : Ref) (sourceStart : Int64) (destination : Ref)
    (destinationStart count : Int64) :
    (heap.renamed rename).copyArray source sourceStart destination destinationStart count =
      (heap.copyArray source sourceStart destination destinationStart count).map
        (·.renamed rename) := by
  simp only [copyArray, arrayWidth_renamed, fields_renamed, setFields_renamed]
  split
  · rfl
  · split <;> rfl

theorem storeTexts_renamed (target : Ref) (index : Nat) (texts : List UInt64) :
    (heap.renamed rename).storeTexts target index texts =
      (heap.storeTexts target index texts).renamed rename := by
  induction texts generalizing heap index with
  | nil => rfl
  | cons address rest ih =>
    simp only [storeTexts, textAt_renamed, copyString_renamed, fields_renamed, setFields_renamed,
      ih]

theorem marshalArguments_renamed (arguments : List UInt64) (table : UInt64) :
    (heap.renamed rename).marshalArguments arguments table =
      renamedOutcome rename (heap.marshalArguments arguments table) := by
  simp only [marshalArguments, allocateArray_renamed]
  cases heap.allocateArray (UInt32.ofNat (arguments.drop 1).length) Format.referenceSize table with
  | error fault => rfl
  | ok made =>
    simp only [renamedOutcome, Except.map, bind, Except.bind, storeTexts_renamed]
    rfl

end
end ManagedRuntime.Heap
