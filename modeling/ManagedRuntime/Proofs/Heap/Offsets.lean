import ManagedRuntime.Proofs.Heap.Allocation

/-! Offsets in a copy between arrays. They are multiplied without a check; that nothing wraps and
nothing outside of the arrays is reached follows from what was checked when the arrays were
allocated. -/
namespace ManagedRuntime.Heap
open Memory

/-- Header and size are as an allocation writes them that is not refused. -/
structure AsAllocated (heap : Heap) (r : Ref) : Prop where
  present : r.object ∈ heap.objects
  accepted : ∃ (before : Heap) (table : UInt64), ∀ reason,
    before.allocateArray (heap.arrayLength r) (heap.arrayWidth r) table ≠ .error (.refused reason)
  size : (heap.fields r).size = arrayPayload (heap.arrayLength r) (heap.arrayWidth r)

/-- The words with which a copy finds `count` elements from `start` on are exact, and the bytes lie
behind the header of the array and in front of the end of its block. -/
structure Reaches (heap : Heap) (r : Ref) (start count : Int64) : Prop where
  narrow : (heap.arrayWidth r).toNat ≤ 2 ^ 63 - 1
  widthExact : (heap.arrayWidth r).toInt64.toInt = (heap.arrayWidth r).toNat
  offsetExact : ((heap.arrayWidth r).toInt64 * start).toInt =
    (heap.arrayWidth r).toNat * start.toInt
  sizeExact : ((heap.arrayWidth r * count.toUInt64).toNat : Int) =
    (heap.arrayWidth r).toNat * count.toInt
  behindHeader : r.object.toNat + 64 ≤
    r.object.toNat + 48 + elementPosition (heap.arrayWidth r).toInt64 start
  inside : r.object.toNat + 48 + elementPosition (heap.arrayWidth r).toInt64 start +
    (heap.arrayWidth r * count.toUInt64).toNat ≤ heap.stop r

section
variable {heap : Heap} {r : Ref} {start count : Int64}

theorem exists_accepted_iff {length : UInt32} {width : UInt64} :
    (∃ (before : Heap) (table : UInt64), ∀ reason,
        before.allocateArray length width table ≠ .error (.refused reason)) ↔
      arrayPayload length width + 48 ≤ 2 ^ 63 - 16 := by
  constructor
  · rintro ⟨before, table, accepted⟩
    by_contra large
    exact accepted _ (allocateArray_refused (Nat.lt_of_not_le large) table)
  · intro fits
    -- Where there is no memory, nothing is refused for its size.
    refine ⟨{ next := addressLimit }, 0, fun reason refused => ?_⟩
    rw [allocateArray_exhausted fits (Nat.lt_add_of_pos_right (by omega))] at refused
    cases refused

instance (heap : Heap) (r : Ref) : Decidable (AsAllocated heap r) :=
  decidable_of_iff (r.object ∈ heap.objects ∧
    arrayPayload (heap.arrayLength r) (heap.arrayWidth r) + 48 ≤ 2 ^ 63 - 16 ∧
    (heap.fields r).size = arrayPayload (heap.arrayLength r) (heap.arrayWidth r))
    ⟨fun ⟨present, fits, size⟩ => ⟨present, exists_accepted_iff.mpr fits, size⟩,
      fun allocated =>
        ⟨allocated.present, exists_accepted_iff.mp allocated.accepted, allocated.size⟩⟩

theorem AsAllocated.isArray (allocated : AsAllocated heap r) : IsArray heap r := by
  have limit : 2 ^ 63 - 16 ≤ Layout.maxSize := by decide
  have fits := exists_accepted_iff.mp allocated.accepted
  refine ⟨allocated.present, allocated.size, ?_⟩
  rw [allocated.size]
  omega

/-- New arrays are as allocated. -/
theorem asAllocated_allocateArray {before : Heap} {length : UInt32} {width table : UInt64}
    (made : before.allocateArray length width table = .ok (r, heap)) : AsAllocated heap r := by
  obtain ⟨array, sameLength, sameWidth⟩ := isArray_allocateArray made
  refine ⟨array.present, ⟨before, table, fun reason => ?_⟩, array.size⟩
  rw [sameLength, sameWidth, made]
  nofun

theorem Holds.reaches (array : IsArray heap r) (holds : Holds heap r start count)
    (some : 1 ≤ count.toInt) : Reaches heap r start count := by
  obtain ⟨narrow, bound⟩ := holds.bound array some
  have elements : Format.arrayElementsAt.toNat = 16 := rfl
  have header : Format.arrayHeaderSize.toNat = 16 := rfl
  rw [elements, Nat.add_mul] at bound
  have position := elementPosition_eq holds.first narrow (by omega)
  have size := toNat_mul_count (heap.arrayWidth r) (Int.le_of_lt some) (by omega)
  have first := Int.toNat_of_nonneg holds.first
  have number := Int.toNat_of_nonneg (Int.le_of_lt some)
  have last := holds.last
  constructor
  · omega
  · exact toInt_toInt64 narrow
  · rw [toInt_mul_start holds.first narrow (by omega), Int.natCast_mul, first, Int.mul_comm]
  · rw [size, Int.natCast_mul, number]
  · rw [position, elementByte, elements]
    omega
  · -- All elements up to the last one copied fit in front of the end.
    have rows := Nat.mul_le_mul_right (heap.arrayWidth r).toNat
      (show start.toInt.toNat + count.toInt.toNat ≤ (heap.arrayLength r).toNat by omega)
    rw [Nat.add_mul] at rows
    rw [position, size, elementByte, stop, array.size, arrayPayload, elements, header,
      Nat.mul_comm (heap.arrayWidth r).toNat]
    omega

end

/-- A copy never leaves the arrays. For arrays of any length and width that an allocation accepted,
and any elements inside of them, all words are exact, and what is moved is what unbounded numbers
say. Every array that is made is such an array. -/
theorem copyArray_never_leaves {heap : Heap} {source destination : Ref}
    {sourceStart destinationStart count : Int64}
    (same : heap.arrayWidth source = heap.arrayWidth destination)
    (sourceAllocated : AsAllocated heap source)
    (destinationAllocated : AsAllocated heap destination) (some : 1 ≤ count.toInt)
    (out : Holds heap source sourceStart count)
    (into : Holds heap destination destinationStart count) :
    Reaches heap source sourceStart count ∧ Reaches heap destination destinationStart count ∧
      heap.copyArray source sourceStart destination destinationStart count =
        .ok (heap.setFields destination ((heap.fields destination).write
          (elementByte (heap.arrayWidth source).toNat destinationStart.toInt.toNat 0)
          ((heap.fields source).read
            (elementByte (heap.arrayWidth source).toNat sourceStart.toInt.toNat 0)
            ((heap.arrayWidth source).toNat * count.toInt.toNat)))) ∧
      ∀ (before : Heap) (length : UInt32) (width table : UInt64) (r : Ref) (after : Heap),
        before.allocateArray length width table = .ok (r, after) → AsAllocated after r := by
  have sourceArray := sourceAllocated.isArray
  have destinationArray := destinationAllocated.isArray
  exact ⟨out.reaches sourceArray some, into.reaches destinationArray some,
    copyArray_eq same some sourceArray destinationArray out into,
    fun _ _ _ _ _ _ => asAllocated_allocateArray⟩

/-- Two arrays with elements of three bytes. -/
def narrowArrays : Option (Ref × Ref × Heap) := do
  let (short, heap) ← (({} : Heap).allocateArray 4 3 0).toOption
  let (long, heap) ← (heap.allocateArray 6 3 0).toOption
  pure (short, long, heap)

/-- The end of one array is copied to the end of another. -/
theorem copyArray_never_leaves_ends : ∃ (heap : Heap) (short long : Ref),
    (short, long, heap) ∈ narrowArrays ∧ Reaches heap short 1 3 ∧ Reaches heap long 3 3 := by
  have checked : narrowArrays.map (fun (short, long, heap) =>
      decide (heap.arrayWidth short = heap.arrayWidth long ∧ AsAllocated heap short ∧
        AsAllocated heap long ∧ heap.arrayLength short = 4 ∧ heap.arrayLength long = 6)) =
      some true := by
    decide +kernel
  obtain ⟨⟨short, long, heap⟩, made, holds⟩ := Option.map_eq_some_iff.mp checked
  obtain ⟨same, shortAllocated, longAllocated, four, six⟩ := of_decide_eq_true holds
  have out : Holds heap short 1 3 := ⟨by decide, by rw [four]; decide⟩
  have into : Holds heap long 3 3 := ⟨by decide, by rw [six]; decide⟩
  obtain ⟨first, second, -⟩ :=
    copyArray_never_leaves same shortAllocated longAllocated (by decide) out into
  exact ⟨heap, short, long, made, first, second⟩

end ManagedRuntime.Heap
