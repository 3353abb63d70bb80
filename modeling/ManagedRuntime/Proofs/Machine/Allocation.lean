import ManagedRuntime.Machine.EntryPoints
import ManagedRuntime.Proofs.Heap.Allocation
import ManagedRuntime.Proofs.Machine.Tables

/-! Objects and arrays of a process. Whatever their size, they get exactly the memory that they
need, or are refused for it and leave the process as it was. -/
namespace ManagedRuntime.Machine
open Heap (Adds arrayPayload addressLimit)

/-- What comes of a request for an object with `payload` bytes of fields. -/
structure Allocates (machine : Machine) (payload : Nat) (table : UInt64)
    (filled : Heap → Ref → Prop) (outcome : Except Trap Ref × Machine) : Prop where
  refused_iff : (∃ reason, outcome.1 = .error reason) ↔ 2 ^ 63 - 16 < payload + 48
  refused : ∀ reason, outcome.1 = .error reason →
    reason = .allocationTooLarge payload ∧ outcome.2 = machine
  /-- With memory left, there is a new object behind all others. -/
  made : payload + 48 ≤ 2 ^ 63 - 16 → machine.heap.next + (48 + payload) ≤ addressLimit →
    ∃ r, outcome.1 = .ok r ∧ r.table = table ∧ Adds machine.heap payload r outcome.2.heap ∧
      r.fieldPointer.toNat = r.object.toNat + 48 ∧
      16 ∣ r.fieldPointer.toNat ∧ filled outcome.2.heap r

/-- All bytes are zero. -/
def Blank (heap : Heap) (r : Ref) : Prop := ∀ position, (heap.fields r).byte position = 0

/-- Behind a header with length and width there are zeros up to the end of the block. -/
structure BlankArray (length : UInt32) (width : UInt64) (heap : Heap) (r : Ref) : Prop where
  hasLength : heap.arrayLength r = length
  hasWidth : heap.arrayWidth r = width
  elementsAt : r.dataPointer.toNat = r.object.toNat + 64
  elements : ∀ position, 16 ≤ position → (heap.fields r).byte position = 0
  stop : heap.stop r = r.object.toNat + 64 + length.toNat * width.toNat

section
variable {machine : Machine}

theorem fieldPointer_of_adds {heap after : Heap} {payload : Nat} {r : Ref}
    (adds : Adds heap payload r after) :
    r.fieldPointer.toNat = r.object.toNat + 48 := by
  have limit : addressLimit = 2 ^ 47 := rfl
  have header : Memory.Format.objectHeaderSize.toNat = 48 := rfl
  have inside := adds.inside
  rw [Ref.fieldPointer, UInt64.toNat_add, header, Nat.mod_eq_of_lt (by omega)]

/-- The process passes on what comes of an allocation. -/
theorem allocates_allocated {payload : Nat} {table : UInt64} {filled : Heap → Ref → Prop}
    {outcome : Except AllocationFault (Ref × Heap)} (size : UInt64)
    (refused : 2 ^ 63 - 16 < payload + 48 →
      outcome = .error (.refused (.allocationTooLarge payload)))
    (exhausted : payload + 48 ≤ 2 ^ 63 - 16 → addressLimit < machine.heap.next + (48 + payload) →
      ∃ bytes, outcome = .error (.exhausted bytes))
    (made : payload + 48 ≤ 2 ^ 63 - 16 → machine.heap.next + (48 + payload) ≤ addressLimit →
      ∃ r after, outcome = .ok (r, after) ∧ r.table = table ∧ Adds machine.heap payload r after ∧
        filled after r) :
    Allocates machine payload table filled (machine.allocated size outcome) := by
  have accepted (fits : payload + 48 ≤ 2 ^ 63 - 16) (reason : Trap) :
      (machine.allocated size outcome).1 ≠ .error reason := by
    rcases Nat.lt_or_ge addressLimit (machine.heap.next + (48 + payload)) with full | room
    · obtain ⟨bytes, rfl⟩ := exhausted fits full
      nofun
    · obtain ⟨r, after, rfl, -⟩ := made fits room
      nofun
  constructor
  · constructor
    · rintro ⟨reason, failed⟩
      exact Nat.lt_of_not_le fun fits => accepted fits reason failed
    · intro large
      rw [refused large]
      exact ⟨_, rfl⟩
  · intro reason failed
    have large : 2 ^ 63 - 16 < payload + 48 :=
      Nat.lt_of_not_le fun fits => accepted fits reason failed
    rw [refused large] at failed ⊢
    cases failed
    exact ⟨rfl, rfl⟩
  · intro fits room
    obtain ⟨r, after, rfl, typed, adds, blank⟩ := made fits room
    have heap : (machine.allocated size (.ok (r, after))).2.heap = after := heap_log ..
    rw [heap]
    have pointer := fieldPointer_of_adds adds
    refine ⟨r, rfl, typed, adds, pointer, ?_, blank⟩
    rw [pointer]
    exact Nat.dvd_add adds.aligned (by decide)

theorem allocates_newObject (tidy : machine.heap.Tidy) (size table : UInt64) :
    Allocates machine size.toNat table Blank (machine.newObject size table) := by
  refine allocates_allocated size (Heap.allocateObject_refused · table)
    (fun fits full => ⟨_, Heap.allocateObject_exhausted fits full table⟩) fun fits room => ?_
  obtain ⟨r, after, made, typed, adds, zeroed⟩ := tidy.allocateObject fits room table
  refine ⟨r, after, made, typed, adds, fun position => ?_⟩
  rw [zeroed, Memory.Block.byte_zeroed]

theorem blankArray_of_adds {heap after : Heap} {length : UInt32} {width : UInt64} {r : Ref}
    (adds : Adds heap (arrayPayload length width) r after)
    (written : after.fields r =
      Heap.writeArrayHeader (.zeroed (arrayPayload length width)) length width) :
    BlankArray length width after r := by
  have limit : addressLimit = 2 ^ 47 := rfl
  have header : Memory.Format.objectHeaderSize.toNat = 48 := rfl
  have elements : Memory.Format.arrayHeaderSize.toNat = 16 := rfl
  have payload : arrayPayload length width = length.toNat * width.toNat + 16 := rfl
  have inside := adds.inside
  constructor
  · rw [Heap.arrayLength, written, Heap.arrayLength_writeArrayHeader]
  · rw [Heap.arrayWidth, written]
    exact Memory.Block.readWord64_writeWord64 ..
  · rw [Ref.dataPointer, UInt64.toNat_add, fieldPointer_of_adds adds, elements,
      Nat.mod_eq_of_lt (by omega)]
  · intro position behind
    rw [written, Heap.byte_writeArrayHeader _ _ _ behind, Memory.Block.byte_zeroed]
  · rw [Heap.stop, adds.size, payload]
    omega

theorem allocates_allocateArray (tidy : machine.heap.Tidy) (length : UInt32) (width : UInt64)
    (table : UInt64) :
    Allocates machine (arrayPayload length width) table (BlankArray length width)
      (machine.allocated (.ofNat (arrayPayload length width))
        (machine.heap.allocateArray length width table)) := by
  refine allocates_allocated _ (Heap.allocateArray_refused · table)
    (fun fits full => ⟨_, Heap.allocateArray_exhausted fits full table⟩) fun fits room => ?_
  obtain ⟨r, after, made, typed, adds, written⟩ := tidy.allocateArray fits room table
  exact ⟨r, after, made, typed, adds, blankArray_of_adds adds written⟩

/-- What comes of a request for an array while `last` is the array table that was set last. -/
structure AllocatesArray (machine : Machine) (last : UInt64) (length : UInt32) (width : UInt64) :
    Prop where
  refused : ∀ reason, (machine.newArray length width).1 = .error reason →
    2 ^ 63 - 16 < length.toNat * width.toNat + 16 + 48 ∧
      reason = .allocationTooLarge (length.toNat * width.toNat + 16)
  /-- What no word holds is refused before anything else happens. -/
  oversized : 2 ^ 64 ≤ length.toNat * width.toNat + 16 →
    machine.newArray length width =
      (.error (.allocationTooLarge (length.toNat * width.toNat + 16)), machine)
  /-- Otherwise the process first sees to it that it has the array table. -/
  sized : length.toNat * width.toNat + 16 < 2 ^ 64 → machine.heap.TableRoom →
    ∃ table ready, Readies machine table ready ∧ (last ≠ 0 → table = last ∧ ready = machine) ∧
      (last = 0 → ready.heap.defaultArrayTable = some table ∧
        ready.heap.tables[table]? = some (Dispatch.staticTable [])) ∧
      Allocates ready (length.toNat * width.toNat + 16) table (BlankArray length width)
        (machine.newArray length width)

theorem allocatesArray (tidy : machine.heap.Tidy) (tabled : machine.heap.Tabled)
    (length : UInt32) (width : UInt64) :
    AllocatesArray machine machine.heap.registeredArrayTable length width := by
  have payload : length.toNat * width.toNat + 16 = arrayPayload length width := rfl
  have size : UInt64.size = 2 ^ 64 := rfl
  constructor
  · intro reason failed
    simp only [newArray] at failed
    split at failed
    · unfold withArrayTable at failed
      split at failed
      · next table _ asked =>
        have still := tidy.run (readies_arrayTable asked).changes
        have allocates := allocates_allocateArray still.tidy length width table
        exact ⟨allocates.refused_iff.mp ⟨reason, failed⟩, (allocates.refused reason failed).1⟩
      · cases failed
    · next large =>
      cases failed
      rw [payload]
      exact ⟨by omega, rfl⟩
  · intro large
    have oversized : ¬arrayPayload length width < UInt64.size := Nat.not_lt_of_le large
    simp only [newArray, if_neg oversized]
    rfl
  · intro fits room
    obtain ⟨table, ready, asked, readies⟩ := exists_readies room
    have made : machine.newArray length width = ready.allocated (.ofNat (arrayPayload length width))
        (ready.heap.allocateArray length width table) := by
      have fits : arrayPayload length width < UInt64.size := fits
      simp only [newArray, if_pos fits, withArrayTable, asked]
    have still := tidy.run readies.changes
    refine ⟨table, ready, readies, fun registered => ?_, fun unset => ?_,
      made ▸ allocates_allocateArray still.tidy length width table⟩
    · have inForce : machine.heap.arrayTable? = some machine.heap.registeredArrayTable :=
        if_neg registered
      obtain ⟨rfl, rfl⟩ := readies.already _ inForce
      exact ⟨rfl, rfl⟩
    · have none : ready.heap.registeredArrayTable = 0 := by
        rw [readies.rest]
        exact unset
      have own := readies.inForce
      rw [Heap.arrayTable?, if_pos none] at own
      exact ⟨own, (tabled.run readies.changes).own table own⟩

end

/-- Requests for objects and arrays of any size, while `last` is the array table that was set
last. -/
structure AllocatesExactly (machine : Machine) (last : UInt64) : Prop where
  object : ∀ size table, Allocates machine size.toNat table Blank (machine.newObject size table)
  array : ∀ length width, AllocatesArray machine last length width

end ManagedRuntime.Machine
