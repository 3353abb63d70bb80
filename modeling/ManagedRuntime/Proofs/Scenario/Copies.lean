import ManagedRuntime.Proofs.Heap.Arrays
import ManagedRuntime.Proofs.Scenario.Exceptions

/-! A copy step between arrays: refused, without effect, or a move of all its elements at once. -/
namespace ManagedRuntime.Scenario.State
open Heap (IsArray Holds Moved)

theorem heap_tell (state : State) (me : Nat) (event : Event) :
    (state.tell me event).machine.heap = state.machine.heap := by
  change (state.flushJournal me).machine.heap = _
  rw [machine_flushJournal]

section
variable (state : State) (me : Nat) (source destination : Ref)
  (sourceStart destinationStart count : Int64)

theorem copyArray_direct_of_error
    (refused : state.machine.heap.copyArray source sourceStart destination destinationStart count =
      .error reason) :
    state.copyArray me source sourceStart.toInt destination destinationStart.toInt count.toInt
      .direct = state.tell me (.refused "copy" reason) := by
  simp only [copyArray, Machine.copyArray, Int64.ofInt_toInt, refused]
  rfl

theorem copyArray_direct_of_ok
    (copied : state.machine.heap.copyArray source sourceStart destination destinationStart count =
      .ok heap) :
    state.copyArray me source sourceStart.toInt destination destinationStart.toInt count.toInt
      .direct = (state.setMachine { state.machine with heap }).tell me (.plain "copy") := by
  simp only [copyArray, Machine.copyArray, Int64.ofInt_toInt, copied]
  rfl

end

/-- Arrays of different widths are refused, whatever the count. Otherwise a count that is not
positive is without effect, whatever the positions; and elements inside both arrays are moved as if
through a buffer, also within one array, while every other byte, header and monitor stays. -/
theorem copyArray_simultaneous (state : State) (me : Nat) (source destination : Ref)
    (sourceStart destinationStart count : Int64) :
    let heap := state.machine.heap
    let after := state.copyArray me source sourceStart.toInt destination destinationStart.toInt
      count.toInt .direct
    (heap.arrayWidth source ≠ heap.arrayWidth destination →
      after = state.tell me
        (.refused "copy" (.widthMismatch (heap.arrayWidth source) (heap.arrayWidth destination))) ∧
      after.machine.heap = heap) ∧
    (heap.arrayWidth source = heap.arrayWidth destination →
      (count.toInt ≤ 0 → after = state.tell me (.plain "copy") ∧ after.machine.heap = heap) ∧
      (0 < count.toInt → IsArray heap source → IsArray heap destination →
        Holds heap source sourceStart count → Holds heap destination destinationStart count →
        after = (state.setMachine { state.machine with heap := after.machine.heap }).tell me
          (.plain "copy") ∧
        Moved heap after.machine.heap source sourceStart.toInt.toNat destination
          destinationStart.toInt.toNat count.toInt.toNat)) := by
  intro heap after
  have kept {machine : Machine} {event : Event}
      (told : after = (state.setMachine machine).tell me event) :
      after.machine.heap = machine.heap := by
    rw [told, heap_tell]
    rfl
  refine ⟨fun different => ?_, fun same => ⟨fun none => ?_, fun some sourceArray destinationArray
    out into => ?_⟩⟩
  · have refused := state.copyArray_direct_of_error me source destination sourceStart
      destinationStart count (by rw [Heap.copyArray, if_pos different])
    have still : after.machine.heap = state.machine.heap := kept refused
    exact ⟨refused, still⟩
  · have still : heap.copyArray source sourceStart destination destinationStart count =
        .ok heap := by
      rw [Heap.copyArray, if_neg (not_not_intro same), if_pos (Int64.le_iff_toInt_le.mpr none)]
    have done := state.copyArray_direct_of_ok me source destination sourceStart
      destinationStart count still
    exact ⟨done, kept done⟩
  · obtain ⟨copied, done, moved⟩ :=
      Heap.copyArray_moved same some sourceArray destinationArray out into
    have told := state.copyArray_direct_of_ok me source destination sourceStart
      destinationStart count done
    rw [kept told]
    exact ⟨told, moved⟩

/-- One array with elements of three bytes and one with elements of eight. -/
def twoArrays : Option (Ref × Ref × Heap) := do
  let (narrow, heap) ← (({} : Heap).allocateArray 4 3 0).toOption
  let (wide, heap) ← (heap.allocateArray 2 8 0).toOption
  pure (narrow, wide, heap)

theorem exists_twoArrays : ∃ (heap : Heap) (narrow wide : Ref), IsArray heap narrow ∧
    IsArray heap wide ∧ heap.arrayLength narrow = 4 ∧ heap.arrayWidth narrow = 3 ∧
    heap.arrayWidth wide = 8 := by
  have checked : ((twoArrays.map fun (narrow, wide, heap) => decide (IsArray heap narrow ∧
      IsArray heap wide ∧ heap.arrayLength narrow = 4 ∧ heap.arrayWidth narrow = 3 ∧
      heap.arrayWidth wide = 8)) = some true) := by
    decide +kernel
  obtain ⟨⟨narrow, wide, heap⟩, -, holds⟩ := Option.map_eq_some_iff.mp checked
  exact ⟨heap, narrow, wide, of_decide_eq_true holds⟩

theorem copyArray_simultaneous_overlapping : ∃ (state : State) (narrow wide : Ref),
    IsArray state.machine.heap narrow ∧ IsArray state.machine.heap wide ∧
    state.copyArray 0 narrow 9 wide 9 0 .direct =
      state.tell 0 (.refused "copy" (.widthMismatch 3 8)) ∧
    state.copyArray 0 narrow 9 narrow 9 (-1) .direct = state.tell 0 (.plain "copy") ∧
    Moved state.machine.heap (state.copyArray 0 narrow 0 narrow 1 3 .direct).machine.heap
      narrow 0 narrow 1 3 := by
  obtain ⟨heap, narrow, wide, narrowArray, wideArray, length, three, eight⟩ := exists_twoArrays
  obtain ⟨state, rfl⟩ : ∃ state : State, state.machine.heap = heap :=
    ⟨{ machine := { heap }, threads := #[] }, rfl⟩
  have inside (start : Int64) (nonneg : 0 ≤ start.toInt) (last : start.toInt + 3 ≤ 4) :
      Holds state.machine.heap narrow start 3 :=
    ⟨nonneg, by rw [length]; exact last⟩
  have words : (0 : Int64).toInt = 0 ∧ (1 : Int64).toInt = 1 ∧ (3 : Int64).toInt = 3 ∧
      (9 : Int64).toInt = 9 ∧ (-1 : Int64).toInt = -1 := by decide
  have refused := ((state.copyArray_simultaneous 0 narrow wide 9 9 0).1 (by
    rw [three, eight]
    decide)).1
  have nothing := (((state.copyArray_simultaneous 0 narrow narrow 9 9 (-1)).2 rfl).1
    (by decide)).1
  have moved := (((state.copyArray_simultaneous 0 narrow narrow 0 1 3).2 rfl).2 (by decide)
    narrowArray narrowArray (inside 0 (by decide) (by decide))
    (inside 1 (by decide) (by decide))).2
  simp only [words, three, eight] at refused nothing moved
  exact ⟨state, narrow, wide, narrowArray, wideArray, refused, nothing, moved⟩

end ManagedRuntime.Scenario.State
