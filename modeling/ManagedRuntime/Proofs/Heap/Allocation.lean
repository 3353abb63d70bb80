import ManagedRuntime.Proofs.Heap.Arrays
import ManagedRuntime.Proofs.Runs

/-! Allocations. A new object lies behind all others on memory of its own, and whatever happens to
memory leaves the old ones in front of what is free. So do dispatch tables, of which the runtime
builds one for arrays at most. -/
namespace ManagedRuntime.Heap
open Memory

/-- Where the object ends, its header and fields counted. -/
def stop (heap : Heap) (r : Ref) : Nat := r.object.toNat + 48 + (heap.fields r).size

/-- All objects end in front of what is free, and there an object may begin. -/
structure Tidy (heap : Heap) : Prop where
  aligned : 16 ∣ heap.next
  inFront : ∀ r : Ref, r.object ∈ heap.objects → heap.stop r ≤ heap.next

/-- A change of memory, with the array tables that it sets. -/
inductive Change : Heap → List UInt64 → Heap → Prop
  | object {size table : UInt64} (made : heap.allocateObject size table = .ok (r, after)) :
      Change heap [] after
  | array {table : UInt64} (made : heap.allocateArray length width table = .ok (r, after)) :
      Change heap [] after
  | write (r : Ref) (fields : Block) (same : fields.size = (heap.fields r).size) :
      Change heap [] (heap.setFields r fields)
  | monitor (object : UInt64) (monitor : Monitor) :
      Change heap [] (heap.setMonitor object monitor)
  | table {table : Block} (placed : heap.placeTable table = some (address, after)) :
      Change heap [] after
  /-- The table for arrays that the runtime has of its own is empty. -/
  | ownTable (missing : heap.defaultArrayTable = none)
      (placed : heap.placeTable (Dispatch.staticTable []) = some (address, after)) :
      Change heap [] { after with defaultArrayTable := some address }
  | text (bytes : List UInt8) : Change heap [] (heap.placeText bytes).2
  | arrayTable (table : UInt64) : Change heap [table] (heap.setArrayTable table)

/-- There is a new object with `payload` bytes of fields, and all else is as it was. -/
structure Adds (heap : Heap) (payload : Nat) (r : Ref) (after : Heap) : Prop where
  aligned : 16 ∣ r.object.toNat
  fresh : r.object ∉ heap.objects
  /-- All other objects end in front of the new one. -/
  apart : ∀ other : Ref, other.object ∈ heap.objects → heap.stop other ≤ r.object.toNat
  inside : r.object.toNat + 48 + payload ≤ addressLimit
  present : r.object ∈ after.objects
  size : (after.fields r).size = payload
  unlocked : after.monitor r.object = {}
  others : ∀ other ≠ r.object, after.objects[other]? = heap.objects[other]?
  objectsAllocated : after.objectsAllocated = heap.objectsAllocated + 1
  bytesAllocated : after.bytesAllocated = heap.bytesAllocated + UInt64.ofNat (48 + payload)
  rest : after = { heap with
    objects := after.objects
    next := after.next
    objectsAllocated := after.objectsAllocated
    bytesAllocated := after.bytesAllocated }
  tidy : after.Tidy

section
variable {heap after : Heap}

theorem stride_spec (size : Nat) : size ≤ stride size ∧ 16 ∣ stride size := by
  unfold stride
  split
  · simp only [roundUp]
    omega
  · rw [Nat.shiftLeft_eq, Nat.shiftRight_eq_div_pow]
    omega

/-- Regions do not touch. -/
theorem lt_stride (size : Nat) : size < stride size := by
  unfold stride
  split
  · simp only [roundUp]
    omega
  · rw [Nat.shiftLeft_eq, Nat.shiftRight_eq_div_pow]
    omega

theorem reserve?_eq_some {size : Nat} (reserved : heap.reserve? size = some (address, after)) :
    { heap with next := heap.next + stride size } = after := by
  unfold reserve? at reserved
  split at reserved
  · exact (Prod.mk.inj (Option.some.inj reserved)).2
  · cases reserved

theorem placeTable_eq_some {table : Block}
    (placed : heap.placeTable table = some (address, after)) :
    address = .ofNat heap.next ∧ heap.next + table.size ≤ addressLimit ∧
      { heap with
        next := heap.next + stride table.size
        tables := heap.tables.insert address table } = after := by
  unfold placeTable reserve? at placed
  split at placed
  · next room =>
    cases placed
    exact ⟨rfl, room, rfl⟩
  · cases placed

theorem Tidy.reserve (tidy : heap.Tidy) (size : Nat) :
    { heap with next := heap.next + stride size }.Tidy :=
  ⟨Nat.dvd_add tidy.aligned (stride_spec size).2, fun r present =>
    Nat.le_trans (tidy.inFront r present) (Nat.le_add_right _ _)⟩

/-- New fields of the same size lie where the old ones did. -/
theorem stop_setFields {r : Ref} {fields : Block} (same : fields.size = (heap.fields r).size)
    (other : Ref) : (heap.setFields r fields).stop other = heap.stop other := by
  by_cases mine : r.object = other.object
  · by_cases present : r.object ∈ heap.objects
    · rw [stop, stop, ← fields_of_same mine, ← fields_of_same mine, fields_setFields _ present,
        same]
    · rw [setFields, object?, Std.ExtTreeMap.getElem?_eq_none present]
  · rw [stop, stop, fields_setFields_of_ne fields mine]

theorem Tidy.setFields (tidy : heap.Tidy) {r : Ref} {fields : Block}
    (same : fields.size = (heap.fields r).size) : (heap.setFields r fields).Tidy := by
  have next : (heap.setFields r fields).next = heap.next := by rw [setFields_rest]
  constructor
  · exact next ▸ tidy.aligned
  · intro other present
    rw [next, stop_setFields same]
    exact tidy.inFront other ((mem_setFields_iff fields).mp present)

/-- An allocation where there is room. -/
theorem Tidy.place (tidy : heap.Tidy) {layout : Layout} {size table : UInt64}
    (laid : layout.size.toNat = 48 + size.toNat)
    (room : heap.next + (48 + size.toNat) ≤ addressLimit) :
    ∃ r after, heap.place layout size table = .ok (r, after) ∧ r.table = table ∧
      Adds heap size.toNat r after ∧ after.fields r = .zeroed size.toNat := by
  have limit : addressLimit = 2 ^ 47 := rfl
  have address : (UInt64.ofNat heap.next).toNat = heap.next :=
    UInt64.toNat_ofNat_of_lt' (by simp only [UInt64.size]; omega)
  let r : Ref := ⟨UInt64.ofNat heap.next, table⟩
  let after : Heap := { heap with
    objects := heap.objects.insert r.object { fields := .zeroed size.toNat }
    next := heap.next + stride (48 + size.toNat)
    objectsAllocated := heap.objectsAllocated + 1
    bytesAllocated := heap.bytesAllocated + layout.size }
  have placed : heap.place layout size table = .ok (r, after) := by
    simp only [Heap.place, reserve?, laid, room, if_true, r, after]
  have fresh : r.object ∉ heap.objects := by
    intro present
    have ends := tidy.inFront r present
    rw [stop, address] at ends
    omega
  have filled : after.fields r = .zeroed size.toNat := by simp [after, fields, object?]
  have others : ∀ other ≠ r.object, after.objects[other]? = heap.objects[other]? := by
    intro other different
    simp only [after, Std.ExtTreeMap.getElem?_insert, Std.compare_eq_iff_eq, if_neg different.symm]
  obtain ⟨behind, -⟩ := stride_spec (48 + size.toNat)
  refine ⟨r, after, placed, rfl, ?_, filled⟩
  constructor
  · exact address ▸ tidy.aligned
  · exact fresh
  · exact fun other present => address ▸ tidy.inFront other present
  · rw [address]
    omega
  · simp [after]
  · rw [filled, Block.zeroed]
  · simp [after, monitor]
  · exact others
  · rfl
  · rw [← laid, UInt64.ofNat_toNat]
  · rfl
  · refine ⟨(tidy.reserve (48 + size.toNat)).aligned, fun other present => ?_⟩
    by_cases mine : other.object = r.object
    · rw [stop, mine, address, fields_of_same mine, filled, Block.zeroed]
      show heap.next + 48 + size.toNat ≤ heap.next + stride (48 + size.toNat)
      omega
    · have same : after.fields other = heap.fields other := by
        rw [fields, fields, object?, object?, others _ mine]
      have old : other.object ∈ heap.objects := by
        rw [Std.ExtTreeMap.mem_iff_isSome_getElem?] at present ⊢
        rwa [← others _ mine]
      have ends := (tidy.reserve (48 + size.toNat)).inFront other old
      rwa [stop, same]

/-! What comes of an allocation: it is refused for its size, there is no memory for it, or it is
made. -/

theorem allocateObject_refused {size : UInt64} (large : 2 ^ 63 - 16 < size.toNat + 48)
    (table : UInt64) :
    heap.allocateObject size table = .error (.refused (.allocationTooLarge size.toNat)) := by
  rw [allocateObject, objectLayout?_eq, if_neg (Nat.not_le_of_lt large)]

theorem allocateObject_of_fits {size : UInt64} (fits : size.toNat + 48 ≤ 2 ^ 63 - 16)
    (table : UInt64) :
    ∃ layout : Layout, layout.size.toNat = 48 + size.toNat ∧
      heap.allocateObject size table = heap.place layout size table := by
  have header : Format.objectHeaderSize.toNat = 48 := rfl
  refine ⟨⟨Format.objectHeaderSize + size, Format.objectAlign⟩, ?_, ?_⟩
  · rw [UInt64.toNat_add, header, Nat.mod_eq_of_lt (by omega)]
  · rw [allocateObject, objectLayout?_eq, if_pos fits]

theorem allocateObject_exhausted {size : UInt64} (fits : size.toNat + 48 ≤ 2 ^ 63 - 16)
    (full : addressLimit < heap.next + (48 + size.toNat)) (table : UInt64) :
    heap.allocateObject size table = .error (.exhausted (UInt64.ofNat (48 + size.toNat))) := by
  obtain ⟨layout, laid, same⟩ := @allocateObject_of_fits heap size fits table
  rw [same, place, reserve?, laid, if_neg (Nat.not_le_of_lt full), ← laid, UInt64.ofNat_toNat]

theorem Tidy.allocateObject (tidy : heap.Tidy) {size : UInt64}
    (fits : size.toNat + 48 ≤ 2 ^ 63 - 16)
    (room : heap.next + (48 + size.toNat) ≤ addressLimit) (table : UInt64) :
    ∃ r after, heap.allocateObject size table = .ok (r, after) ∧ r.table = table ∧
      Adds heap size.toNat r after ∧ after.fields r = .zeroed size.toNat := by
  obtain ⟨layout, laid, same⟩ := @allocateObject_of_fits heap size fits table
  rw [same]
  exact tidy.place laid room

/-- Which table arrays carry is not for an allocation to change. -/
theorem Adds.arrayTable? {payload : Nat} {r : Ref} (adds : Adds heap payload r after) :
    after.arrayTable? = heap.arrayTable? := by
  rw [adds.rest]
  rfl

section
variable {length : UInt32} {width : UInt64}

theorem allocateArray_refused (large : 2 ^ 63 - 16 < arrayPayload length width + 48)
    (table : UInt64) : heap.allocateArray length width table =
      .error (.refused (.allocationTooLarge (arrayPayload length width))) := by
  unfold allocateArray
  dsimp only
  split
  · next small =>
    have word := UInt64.toNat_ofNat_of_lt' small
    rw [allocateObject_refused (word.symm ▸ large), word]
    rfl
  · rfl

theorem toNat_arrayPayload (fits : arrayPayload length width + 48 ≤ 2 ^ 63 - 16) :
    arrayPayload length width < UInt64.size ∧
      (UInt64.ofNat (arrayPayload length width)).toNat = arrayPayload length width := by
  have small : arrayPayload length width < UInt64.size := by
    simp only [UInt64.size]
    omega
  exact ⟨small, UInt64.toNat_ofNat_of_lt' small⟩

theorem allocateArray_exhausted (fits : arrayPayload length width + 48 ≤ 2 ^ 63 - 16)
    (full : addressLimit < heap.next + (48 + arrayPayload length width)) (table : UInt64) :
    heap.allocateArray length width table =
      .error (.exhausted (UInt64.ofNat (48 + arrayPayload length width))) := by
  obtain ⟨small, word⟩ := toNat_arrayPayload fits
  rw [allocateArray, if_pos small,
    allocateObject_exhausted (word.symm ▸ fits) (word.symm ▸ full), word]
  rfl

/-- What is written over the fields of a new object. -/
theorem Adds.setFields {payload : Nat} {r : Ref} (adds : Adds heap payload r after)
    {fields : Block} (same : fields.size = payload) :
    Adds heap payload r (after.setFields r fields) := by
  have kept : after.setFields r fields =
      { after with objects := (after.setFields r fields).objects } := setFields_rest fields
  have old : fields.size = (after.fields r).size := same.trans adds.size.symm
  constructor
  · exact adds.aligned
  · exact adds.fresh
  · exact adds.apart
  · exact adds.inside
  · exact mem_setFields fields adds.present
  · rw [fields_setFields fields adds.present, same]
  · rw [monitor_setFields]
    exact adds.unlocked
  · intro other different
    rw [objects_setFields_of_ne fields different.symm]
    exact adds.others other different
  · rw [kept]
    exact adds.objectsAllocated
  · rw [kept]
    exact adds.bytesAllocated
  · rw [kept]
    exact congrArg (fun base : Heap => { base with objects := (after.setFields r fields).objects })
      adds.rest
  · exact adds.tidy.setFields old

theorem Tidy.allocateArray (tidy : heap.Tidy)
    (fits : arrayPayload length width + 48 ≤ 2 ^ 63 - 16)
    (room : heap.next + (48 + arrayPayload length width) ≤ addressLimit) (table : UInt64) :
    ∃ r after, heap.allocateArray length width table = .ok (r, after) ∧ r.table = table ∧
      Adds heap (arrayPayload length width) r after ∧
      after.fields r = writeArrayHeader (.zeroed (arrayPayload length width)) length width := by
  obtain ⟨small, word⟩ := toNat_arrayPayload fits
  obtain ⟨r, made, allocated, typed, adds, filled⟩ :=
    tidy.allocateObject (word.symm ▸ fits) (word.symm ▸ room) table
  rw [word] at adds filled
  have header : (writeArrayHeader (made.fields r) length width).size =
      arrayPayload length width := by
    rw [filled]
    simp [writeArrayHeader, Block.writeWord32, Block.writeWord64, Block.zeroed]
  refine ⟨r, made.setFields r (writeArrayHeader (made.fields r) length width), ?_, typed,
    adds.setFields header, ?_⟩
  · rw [Heap.allocateArray, if_pos small, allocated]
    rfl
  · rw [fields_setFields _ adds.present, filled]

end

/-! What all changes keep. -/

/-- Memory stays tidy, the array table is the one that was set last, and the runtime's own one stays
once it is there. -/
structure Keeps (heap : Heap) (set : List UInt64) (after : Heap) : Prop where
  tidy : after.Tidy
  registered : after.registeredArrayTable = set.getLast?.getD heap.registeredArrayTable
  own : ∀ table ∈ heap.defaultArrayTable, table ∈ after.defaultArrayTable

theorem Adds.keeps {payload : Nat} {r : Ref} (adds : Adds heap payload r after) :
    Keeps heap [] after :=
  ⟨adds.tidy, by rw [adds.rest]; rfl, by rw [adds.rest]; exact fun _ => id⟩

theorem Tidy.setMonitor (tidy : heap.Tidy) (object : UInt64) (monitor : Monitor) :
    (heap.setMonitor object monitor).Tidy := by
  have next : (heap.setMonitor object monitor).next = heap.next := by rw [setMonitor_rest]
  refine ⟨next ▸ tidy.aligned, fun r present => ?_⟩
  rw [next, stop, fields_setMonitor]
  exact tidy.inFront r ((mem_setMonitor_iff object monitor).mp present)

/-- What an allocation gave, it added. -/
theorem Tidy.adds_object {r : Ref} {size table : UInt64} (tidy : heap.Tidy)
    (made : heap.allocateObject size table = .ok (r, after)) : Adds heap size.toNat r after := by
  by_cases fits : size.toNat + 48 ≤ 2 ^ 63 - 16
  · by_cases room : heap.next + (48 + size.toNat) ≤ addressLimit
    · obtain ⟨_, _, allocated, -, adds, -⟩ := tidy.allocateObject fits room table
      rw [made] at allocated
      cases allocated
      exact adds
    · rw [allocateObject_exhausted fits (Nat.lt_of_not_le room)] at made
      cases made
  · rw [allocateObject_refused (Nat.lt_of_not_le fits)] at made
    cases made

theorem Tidy.adds_array {r : Ref} {length : UInt32} {width table : UInt64} (tidy : heap.Tidy)
    (made : heap.allocateArray length width table = .ok (r, after)) :
    Adds heap (arrayPayload length width) r after := by
  by_cases fits : arrayPayload length width + 48 ≤ 2 ^ 63 - 16
  · by_cases room : heap.next + (48 + arrayPayload length width) ≤ addressLimit
    · obtain ⟨_, _, allocated, -, adds, -⟩ := tidy.allocateArray fits room table
      rw [made] at allocated
      cases allocated
      exact adds
    · rw [allocateArray_exhausted fits (Nat.lt_of_not_le room)] at made
      cases made
  · rw [allocateArray_refused (Nat.lt_of_not_le fits)] at made
    cases made

theorem Tidy.keeps {set : List UInt64} (tidy : heap.Tidy) (change : Change heap set after) :
    Keeps heap set after := by
  cases change with
  | object made => exact (tidy.adds_object made).keeps
  | array made => exact (tidy.adds_array made).keeps
  | write r fields same =>
    exact ⟨tidy.setFields same, by rw [setFields_rest]; rfl, by
      rw [setFields_rest]
      exact fun _ => id⟩
  | monitor object monitor =>
    exact ⟨tidy.setMonitor object monitor, by rw [setMonitor_rest]; rfl, by
      rw [setMonitor_rest]
      exact fun _ => id⟩
  | table placed =>
    obtain ⟨-, -, rfl⟩ := placeTable_eq_some placed
    exact ⟨⟨(tidy.reserve _).aligned, (tidy.reserve _).inFront⟩, rfl, fun _ => id⟩
  | ownTable missing placed =>
    obtain ⟨-, -, rfl⟩ := placeTable_eq_some placed
    refine ⟨⟨(tidy.reserve _).aligned, (tidy.reserve _).inFront⟩, rfl, fun table own => ?_⟩
    cases missing.symm.trans own
  | text bytes =>
    unfold placeText
    split
    · exact ⟨tidy, rfl, fun _ => id⟩
    · next reserved =>
      obtain rfl := reserve?_eq_some reserved
      exact ⟨⟨(tidy.reserve _).aligned, (tidy.reserve _).inFront⟩, rfl, fun _ => id⟩
  | arrayTable table => exact ⟨⟨tidy.aligned, tidy.inFront⟩, rfl, fun _ => id⟩

theorem Tidy.run {first : Heap} {set : List UInt64} (tidy : first.Tidy)
    (run : Runs Change first set heap) : Keeps first set heap := by
  induction run with
  | start => exact ⟨tidy, rfl, fun _ => id⟩
  | next _ change ih =>
    obtain ⟨still, registered, own⟩ := ih
    obtain ⟨after, set, kept⟩ := still.keeps change
    refine ⟨after, ?_, fun table there => kept table (own table there)⟩
    rw [set, registered, List.getLast?_append, Option.getD_or]

end
end ManagedRuntime.Heap
