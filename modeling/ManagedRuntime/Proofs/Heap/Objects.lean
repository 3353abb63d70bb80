import ManagedRuntime.Heap.Basic

/-! Objects stay apart: a change of the fields or the monitor of one leaves all else as it is. -/
namespace ManagedRuntime

namespace Heap
variable {heap : Heap}

@[simp] theorem fields_setMonitor (object : UInt64) (monitor : Monitor) (r : Ref) :
    (heap.setMonitor object monitor).fields r = heap.fields r := by
  unfold setMonitor
  split
  · rfl
  · next held found =>
    simp only [fields, object?, Std.ExtTreeMap.getElem?_insert, Std.compare_eq_iff_eq]
    split
    · next same => simp [← same, found]
    · rfl

@[simp] theorem tables_setMonitor (object : UInt64) (monitor : Monitor) :
    (heap.setMonitor object monitor).tables = heap.tables := by
  unfold setMonitor
  split <;> rfl

theorem setMonitor_of_absent (absent : object ∉ heap.objects) (monitor : Monitor) :
    heap.setMonitor object monitor = heap := by
  unfold setMonitor
  rw [Std.ExtTreeMap.getElem?_eq_none absent]

theorem mem_setMonitor_iff (place : UInt64) (monitor : Monitor) :
    object ∈ (heap.setMonitor place monitor).objects ↔ object ∈ heap.objects := by
  unfold setMonitor
  split
  · exact Iff.rfl
  · next held found =>
    rw [Std.ExtTreeMap.mem_insert, Std.compare_eq_iff_eq, or_iff_right_iff_imp]
    rintro rfl
    exact Std.ExtTreeMap.mem_iff_isSome_getElem?.mpr (by rw [found]; rfl)

/-- Tables, texts and counters stay. -/
theorem setMonitor_rest (object : UInt64) (monitor : Monitor) :
    heap.setMonitor object monitor =
      { heap with objects := (heap.setMonitor object monitor).objects } := by
  unfold setMonitor
  split <;> rfl

theorem mem_setMonitor (present : object ∈ heap.objects) (place : UInt64) (monitor : Monitor) :
    object ∈ (heap.setMonitor place monitor).objects :=
  (mem_setMonitor_iff place monitor).mpr present

section
variable {r : Ref} (fields : Memory.Block)

@[simp] theorem monitor_setFields (object : UInt64) :
    (heap.setFields r fields).monitor object = heap.monitor object := by
  unfold setFields
  split
  · rfl
  · next held found =>
    simp only [object?] at found
    simp only [monitor, Std.ExtTreeMap.getElem?_insert, Std.compare_eq_iff_eq]
    split
    · next same => simp [← same, found]
    · rfl

@[simp] theorem tables_setFields : (heap.setFields r fields).tables = heap.tables := by
  unfold setFields
  split <;> rfl

theorem fields_setFields (present : r.object ∈ heap.objects) :
    (heap.setFields r fields).fields r = fields := by
  obtain ⟨held, found⟩ := Option.isSome_iff_exists.mp
    (Std.ExtTreeMap.mem_iff_isSome_getElem?.mp present)
  simp [setFields, Heap.fields, object?, found]

/-- Addresses tell objects apart; the table word of a reference plays no part. -/
theorem fields_setFields_of_ne {other : Ref} (apart : r.object ≠ other.object) :
    (heap.setFields r fields).fields other = heap.fields other := by
  unfold setFields
  split
  · rfl
  · simp only [Heap.fields, object?, Std.ExtTreeMap.getElem?_insert, Std.compare_eq_iff_eq,
      if_neg apart]

theorem objects_setFields_of_ne {other : UInt64} (apart : r.object ≠ other) :
    (heap.setFields r fields).objects[other]? = heap.objects[other]? := by
  unfold setFields
  split
  · rfl
  · simp only [Std.ExtTreeMap.getElem?_insert, Std.compare_eq_iff_eq, if_neg apart]

theorem fields_of_same {other : Ref} (same : r.object = other.object) :
    heap.fields r = heap.fields other := by
  simp only [Heap.fields, object?, same]

theorem mem_setFields_iff :
    object ∈ (heap.setFields r fields).objects ↔ object ∈ heap.objects := by
  unfold setFields
  split
  · exact Iff.rfl
  · next held found =>
    rw [Std.ExtTreeMap.mem_insert, Std.compare_eq_iff_eq, or_iff_right_iff_imp]
    rintro rfl
    exact Std.ExtTreeMap.mem_iff_isSome_getElem?.mpr (by rw [object?] at found; rw [found]; rfl)

/-- Tables, texts and counters stay. -/
theorem setFields_rest :
    heap.setFields r fields = { heap with objects := (heap.setFields r fields).objects } := by
  unfold setFields
  split <;> rfl

theorem mem_setFields (present : object ∈ heap.objects) :
    object ∈ (heap.setFields r fields).objects :=
  (mem_setFields_iff fields).mpr present

end

end Heap

end ManagedRuntime
