import Mathlib.Tactic.Ring
import ManagedRuntime.Heap.Array
import ManagedRuntime.Proofs.Heap.Objects
import ManagedRuntime.Proofs.Memory.Blocks
import ManagedRuntime.Proofs.Memory.Layout

/-! Where the elements of an array lie, and what a copy between arrays moves. The words that
compiled code computes positions with do not wrap inside an array. -/
namespace ManagedRuntime
open Memory

namespace Memory

theorem getD_read (block : Block) (position count index : Nat) (default : UInt8) :
    (block.read position count).getD index default =
      if index < count then block.byte (position + index) else default := by
  split
  · next inside => simp [Block.read, List.getD_eq_getElem?_getD, inside]
  · next outside =>
    rw [List.getD_eq_getElem?_getD, List.getElem?_eq_none (by simpa using Nat.le_of_not_lt outside),
      Option.getD_none]

end Memory

namespace Heap

/-- Header and elements fill the fields, and an offset reaches all of them. -/
structure IsArray (heap : Heap) (r : Ref) : Prop where
  present : r.object ∈ heap.objects
  size : (heap.fields r).size = arrayPayload (heap.arrayLength r) (heap.arrayWidth r)
  fits : (heap.fields r).size ≤ Layout.maxSize

/-- The elements from `start` on, `count` of them, lie inside the array. -/
structure Holds (heap : Heap) (r : Ref) (start count : Int64) : Prop where
  first : 0 ≤ start.toInt
  last : start.toInt + count.toInt ≤ (heap.arrayLength r).toNat

instance (heap : Heap) (r : Ref) : Decidable (IsArray heap r) :=
  decidable_of_iff (r.object ∈ heap.objects ∧
    (heap.fields r).size = arrayPayload (heap.arrayLength r) (heap.arrayWidth r) ∧
    (heap.fields r).size ≤ Layout.maxSize)
    ⟨fun ⟨present, size, fits⟩ => ⟨present, size, fits⟩,
      fun array => ⟨array.present, array.size, array.fits⟩⟩

/-- Position in the fields of a byte of an element. -/
def elementByte (width index offset : Nat) : Nat :=
  Format.arrayElementsAt.toNat + index * width + offset

/-- `count` elements were moved at once, and nothing else was touched. -/
structure Moved (before after : Heap) (source : Ref) (sourceStart : Nat) (destination : Ref)
    (destinationStart count : Nat) : Prop where
  elements : ∀ index < count, ∀ offset < (before.arrayWidth source).toNat,
    (after.fields destination).byte
        (elementByte (before.arrayWidth source).toNat (destinationStart + index) offset) =
      (before.fields source).byte
        (elementByte (before.arrayWidth source).toNat (sourceStart + index) offset)
  others : ∀ r position,
    (∀ index < count, ∀ offset < (before.arrayWidth source).toNat, r.object = destination.object →
      position ≠ elementByte (before.arrayWidth source).toNat (destinationStart + index) offset) →
    (after.fields r).byte position = (before.fields r).byte position
  lengths : ∀ r, after.arrayLength r = before.arrayLength r
  widths : ∀ r, after.arrayWidth r = before.arrayWidth r
  monitors : ∀ object, after.monitor object = before.monitor object
  sizes : ∀ r, (after.fields r).size = (before.fields r).size
  objects : ∀ object, object ∈ after.objects ↔ object ∈ before.objects
  rest : after = { before with objects := after.objects }

theorem arrayLength_writeArrayHeader (fields : Block) (length : UInt32) (width : UInt64) :
    (writeArrayHeader fields length width).readWord32 Format.arrayLengthAt.toNat = length := by
  unfold writeArrayHeader Block.writeWord64
  rw [Block.readWord32, Block.read_write_of_disjoint _ _ _ _ _ (.inl (by decide))]
  exact Block.readWord32_writeWord32 ..

/-- The header leaves the elements. -/
theorem byte_writeArrayHeader (fields : Block) (length : UInt32) (width : UInt64)
    {position : Nat} (behind : 16 ≤ position) :
    (writeArrayHeader fields length width).byte position = fields.byte position := by
  have out (block : Block) (start count value : Nat) (inside : start + count ≤ 16) :
      (block.write start (encodeLE count value)).byte position = block.byte position := by
    rw [Block.byte_write, if_pos (by omega), List.getD_eq_getElem?_getD, List.getElem?_eq_none,
      Option.getD_none]
    rw [length_encodeLE]
    omega
  unfold writeArrayHeader Block.writeWord64 Block.writeWord32
  rw [out _ _ _ _ (by decide), out _ _ _ _ (by decide)]

/-- Room with a header written at its beginning is an array. -/
theorem isArray_setFields {heap : Heap} {r : Ref} {length : UInt32} {width : UInt64}
    (present : r.object ∈ heap.objects) (size : (heap.fields r).size = arrayPayload length width)
    (fits : arrayPayload length width ≤ Layout.maxSize) :
    let after := heap.setFields r (writeArrayHeader (heap.fields r) length width)
    IsArray after r ∧ after.arrayLength r = length ∧ after.arrayWidth r = width := by
  intro after
  have written : after.fields r = writeArrayHeader (heap.fields r) length width :=
    fields_setFields _ present
  have lengthRead : after.arrayLength r = length := by
    rw [arrayLength, written, arrayLength_writeArrayHeader]
  have widthRead : after.arrayWidth r = width := by
    rw [arrayWidth, written]
    exact Block.readWord64_writeWord64 ..
  have sizeRead : (after.fields r).size = arrayPayload length width := by
    rw [written, ← size]
    simp [writeArrayHeader, Block.writeWord32, Block.writeWord64]
  refine ⟨⟨mem_setFields _ present, ?_, ?_⟩, lengthRead, widthRead⟩
  · rw [sizeRead, lengthRead, widthRead]
  · rwa [sizeRead]

/-- New arrays are arrays of the length and width asked for. -/
theorem isArray_allocateArray {heap after : Heap} {length : UInt32} {width table : UInt64}
    (made : heap.allocateArray length width table = .ok (r, after)) :
    IsArray after r ∧ after.arrayLength r = length ∧ after.arrayWidth r = width := by
  have fits : arrayPayload length width < UInt64.size := by
    by_contra large
    simp [allocateArray, large] at made
  have payload : (UInt64.ofNat (arrayPayload length width)).toNat = arrayPayload length width := by
    rw [UInt64.toNat_ofNat', Nat.mod_eq_of_lt fits]
  simp only [allocateArray, if_pos fits, allocateObject] at made
  cases laid : objectLayout? (.ofNat (arrayPayload length width)) with
  | none => simp [laid, bind, Except.bind] at made
  | some layout =>
    have bound := objectLayout?_bound laid
    rw [payload] at bound
    simp only [laid, place] at made
    cases reserved : heap.reserve? layout.size.toNat with
    | none => simp [reserved, bind, Except.bind] at made
    | some placed =>
      obtain ⟨address, free⟩ := placed
      simp only [reserved, bind, Except.bind, pure, Except.pure, Except.ok.injEq,
        Prod.mk.injEq] at made
      obtain ⟨rfl, rfl⟩ := made
      exact isArray_setFields (by simp) (by simp [fields, object?, payload, Block.zeroed])
        (by omega)

section
variable {heap : Heap} {r : Ref} {start count : Int64}

/-! Inside an array, words are as good as numbers. -/

theorem toInt_toInt64 {word : UInt64} (small : word.toNat < 2 ^ 63) :
    word.toInt64.toInt = word.toNat := by
  have bits : 2 * word.toBitVec.toNat < 2 ^ 64 := by
    rw [UInt64.toNat_toBitVec]
    omega
  exact BitVec.toInt_eq_toNat_of_lt bits

theorem toNat_toUInt64 (nonneg : 0 ≤ count.toInt) :
    count.toUInt64.toNat = count.toInt.toNat := by
  rw [Int64.toNat_toUInt64_of_le (Int64.le_iff_toInt_le.mpr nonneg)]
  rfl

theorem bmod_of_small {value : Int} (nonneg : 0 ≤ value) (small : value < 2 ^ 63) :
    value.bmod (2 ^ 64) = value := by
  refine Int.bmod_eq_of_le ?_ ?_ <;> omega

theorem toInt_mul_start {width : UInt64} (nonneg : 0 ≤ start.toInt)
    (narrow : width.toNat < 2 ^ 63) (reaches : start.toInt.toNat * width.toNat < 2 ^ 63) :
    (width.toInt64 * start).toInt = (start.toInt.toNat * width.toNat : Nat) := by
  obtain ⟨index, place⟩ := Int.eq_ofNat_of_zero_le nonneg
  rw [place, Int.toNat_natCast] at reaches ⊢
  rw [Int64.toInt_mul, toInt_toInt64 narrow, place, Int.mul_comm, ← Int.natCast_mul]
  exact bmod_of_small (Int.natCast_nonneg _) (by omega)

theorem toNat_mul_count (width : UInt64) (nonneg : 0 ≤ count.toInt)
    (reaches : count.toInt.toNat * width.toNat < 2 ^ 64) :
    (width * count.toUInt64).toNat = width.toNat * count.toInt.toNat := by
  rw [UInt64.toNat_mul, toNat_toUInt64 nonneg, Nat.mul_comm, Nat.mod_eq_of_lt reaches,
    Nat.mul_comm]

theorem elementPosition_eq {width : UInt64} (nonneg : 0 ≤ start.toInt)
    (narrow : width.toNat < 2 ^ 63)
    (reaches : Format.arrayElementsAt.toNat + start.toInt.toNat * width.toNat < 2 ^ 63) :
    elementPosition width.toInt64 start = elementByte width.toNat start.toInt.toNat 0 := by
  have header : Format.arrayElementsAt.toNat = 16 := rfl
  rw [header] at reaches
  have sum : (Int64.ofNat 16 + width.toInt64 * start).toInt =
      (16 + start.toInt.toNat * width.toNat : Nat) := by
    rw [Int64.toInt_add, toInt_mul_start nonneg narrow (by omega),
      Int64.toInt_ofNat_of_lt (by decide), ← Int.natCast_add]
    exact bmod_of_small (Int.natCast_nonneg _) (by omega)
  simp only [elementPosition, elementByte, header, sum, Int.toNat_natCast, Nat.add_zero]

theorem Holds.bound (array : IsArray heap r) (holds : Holds heap r start count)
    (some : 0 < count.toInt) :
    (heap.arrayWidth r).toNat < 2 ^ 63 ∧
      Format.arrayElementsAt.toNat +
        (start.toInt.toNat + count.toInt.toNat) * (heap.arrayWidth r).toNat < 2 ^ 63 := by
  have fits := array.fits
  have header : Format.arrayHeaderSize.toNat = 16 := rfl
  have elements : Format.arrayElementsAt.toNat = 16 := rfl
  have limit : Layout.maxSize < 2 ^ 63 := by decide
  rw [array.size, arrayPayload, header] at fits
  rw [elements]
  have first := holds.first
  have last := holds.last
  have inside : start.toInt.toNat + count.toInt.toNat ≤ (heap.arrayLength r).toNat := by omega
  have area := Nat.mul_le_mul_right (heap.arrayWidth r).toNat inside
  have row := Nat.mul_le_mul_right (heap.arrayWidth r).toNat
    (show 1 ≤ (heap.arrayLength r).toNat by omega)
  omega

/-- A byte of the moved part is a byte of one of the elements. -/
theorem exists_elementByte (count : Nat) {width first position : Nat}
    (above : elementByte width first 0 ≤ position)
    (below : position < elementByte width first 0 + width * count) :
    ∃ index < count, ∃ offset < width, position = elementByte width (first + index) offset := by
  have positive : 0 < width := by
    by_contra zero
    obtain rfl : width = 0 := by omega
    omega
  obtain ⟨distance, rfl⟩ := Nat.exists_eq_add_of_le above
  have parts := Nat.div_add_mod distance width
  refine ⟨distance / width, ?_, distance % width, Nat.mod_lt _ positive, ?_⟩
  · rw [Nat.div_lt_iff_lt_mul positive, Nat.mul_comm]
    omega
  · simp only [elementByte, Nat.add_mul, Nat.mul_comm (distance / width)]
    omega

theorem elementByte_add (width first index offset : Nat) :
    elementByte width first 0 + (elementByte width index offset - Format.arrayElementsAt.toNat) =
      elementByte width (first + index) offset := by
  simp only [elementByte, Nat.add_mul]
  omega

theorem elementByte_lt (first : Nat) {width count index offset : Nat} (inside : index < count)
    (within : offset < width) :
    elementByte width first 0 ≤ elementByte width (first + index) offset ∧
      elementByte width (first + index) offset - elementByte width first 0 =
        elementByte width index offset - Format.arrayElementsAt.toNat ∧
      elementByte width index offset - Format.arrayElementsAt.toNat < width * count := by
  have rows := Nat.mul_le_mul_right width (show index + 1 ≤ count from inside)
  rw [Nat.add_mul, Nat.one_mul, Nat.mul_comm count] at rows
  simp only [elementByte, Nat.add_mul]
  omega

/-- What is written over elements leaves the header. -/
theorem readWord_of_behind (width first : Nat) (before after : Block)
    (same : ∀ position < elementByte width first 0, after.byte position = before.byte position) :
    after.readWord32 Format.arrayLengthAt.toNat = before.readWord32 Format.arrayLengthAt.toNat ∧
    after.readWord64 Format.arrayWidthAt.toNat = before.readWord64 Format.arrayWidthAt.toNat := by
  have elements : Format.arrayElementsAt.toNat = 16 := rfl
  have kept (start count : Nat) (inside : start + count ≤ 16) :
      after.read start count = before.read start count := by
    refine List.map_congr_left fun position member => same position ?_
    have bound := List.mem_range'_1.mp member
    simp only [elementByte, elements]
    omega
  exact ⟨congrArg (fun bytes => UInt32.ofNat (decodeLE bytes)) (kept _ 4 (by decide)),
    congrArg (fun bytes => UInt64.ofNat (decodeLE bytes)) (kept _ 8 (by decide))⟩

end

/-- Bytes that were read in one block and written in another, wherever the two lie. -/
theorem byte_write_read (target origin : Block) (position start count other : Nat) :
    (target.write position (origin.read start count)).byte other =
      if position ≤ other ∧ other - position < count then origin.byte (start + (other - position))
      else target.byte other := by
  rw [Block.byte_write, getD_read]
  by_cases above : position ≤ other <;> simp [above]

/-- Bytes that were read at one place and written at another are elements that were moved. -/
theorem moved_write {heap : Heap} {source destination : Ref}
    (present : destination.object ∈ heap.objects) (sourceStart destinationStart count : Nat) :
    Moved heap
      (heap.setFields destination ((heap.fields destination).write
        (elementByte (heap.arrayWidth source).toNat destinationStart 0)
        ((heap.fields source).read (elementByte (heap.arrayWidth source).toNat sourceStart 0)
          ((heap.arrayWidth source).toNat * count))))
      source sourceStart destination destinationStart count := by
  generalize named : (heap.arrayWidth source).toNat = width
  generalize written : (heap.fields destination).write (elementByte width destinationStart 0)
    ((heap.fields source).read (elementByte width sourceStart 0) (width * count)) = fields
  have byte (position : Nat) := congrArg (Block.byte · position) written
  simp only [byte_write_read] at byte
  have own {r : Ref} (same : r.object = destination.object) :
      (heap.setFields destination fields).fields r = fields :=
    (fields_of_same same).trans (fields_setFields fields present)
  have other {r : Ref} (apart : r.object ≠ destination.object) :
      (heap.setFields destination fields).fields r = heap.fields r :=
    fields_setFields_of_ne fields apart.symm
  have headers (r : Ref) := by
    refine readWord_of_behind width destinationStart (heap.fields r)
      ((heap.setFields destination fields).fields r) fun position below => ?_
    by_cases same : r.object = destination.object
    · rw [own same, fields_of_same same, ← byte, if_neg (by omega)]
    · rw [other same]
  constructor
  · intro index inside offset within
    rw [named] at within ⊢
    obtain ⟨above, distance, bound⟩ := elementByte_lt destinationStart inside within
    rw [own rfl, ← byte, if_pos ⟨above, distance ▸ bound⟩, distance, elementByte_add]
  · intro r position apart
    rw [named] at apart
    by_cases same : r.object = destination.object
    · rw [own same, ← byte, if_neg, fields_of_same same]
      rintro ⟨above, near⟩
      obtain ⟨index, inside, offset, within, here⟩ :=
        exists_elementByte count above (by omega)
      exact apart index inside offset within same here
    · rw [other same]
  · exact fun r => (headers r).1
  · exact fun r => (headers r).2
  · exact monitor_setFields fields
  · intro r
    by_cases same : r.object = destination.object
    · rw [own same, fields_of_same same, ← written, Block.size_write]
    · rw [other same]
  · exact fun object => mem_setFields_iff fields
  · exact setFields_rest fields

section
variable {heap : Heap} {source destination : Ref} {sourceStart destinationStart count : Int64}

/-- Inside the arrays, a copy reads and writes where unbounded numbers say. -/
theorem copyArray_eq (same : heap.arrayWidth source = heap.arrayWidth destination)
    (some : 0 < count.toInt) (sourceArray : IsArray heap source)
    (destinationArray : IsArray heap destination) (out : Holds heap source sourceStart count)
    (into : Holds heap destination destinationStart count) :
    heap.copyArray source sourceStart destination destinationStart count =
      .ok (heap.setFields destination ((heap.fields destination).write
        (elementByte (heap.arrayWidth source).toNat destinationStart.toInt.toNat 0)
        ((heap.fields source).read
          (elementByte (heap.arrayWidth source).toNat sourceStart.toInt.toNat 0)
          ((heap.arrayWidth source).toNat * count.toInt.toNat)))) := by
  obtain ⟨narrow, readable⟩ := out.bound sourceArray some
  obtain ⟨-, writable⟩ := into.bound destinationArray some
  rw [← same] at writable
  rw [Nat.add_mul] at readable writable
  have positive : ¬count ≤ 0 := by
    rw [Int64.le_iff_toInt_le]
    exact Int.not_le.mpr some
  have size := toNat_mul_count (heap.arrayWidth source) (Int.le_of_lt some) (by omega)
  rw [copyArray, if_neg (not_not_intro same), if_neg positive, size]
  dsimp only
  rw [elementPosition_eq out.first narrow (by omega),
    elementPosition_eq into.first narrow (by omega)]

/-- Inside the arrays, what is copied is moved. -/
theorem copyArray_moved (same : heap.arrayWidth source = heap.arrayWidth destination)
    (some : 0 < count.toInt) (sourceArray : IsArray heap source)
    (destinationArray : IsArray heap destination) (out : Holds heap source sourceStart count)
    (into : Holds heap destination destinationStart count) :
    ∃ copied, heap.copyArray source sourceStart destination destinationStart count = .ok copied ∧
      Moved heap copied source sourceStart.toInt.toNat destination destinationStart.toInt.toNat
        count.toInt.toNat :=
  ⟨_, copyArray_eq same some sourceArray destinationArray out into,
    moved_write destinationArray.present ..⟩

end

end Heap
end ManagedRuntime
