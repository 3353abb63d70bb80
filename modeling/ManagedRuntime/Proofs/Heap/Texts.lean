import Mathlib.Data.List.Forall2
import ManagedRuntime.Proofs.Heap.Allocation

/-! Zero-terminated texts in memory. They lie in front of what is free and stay where they are, so a
copy is apart from its original and from every other text. -/
namespace ManagedRuntime.Heap
open Memory

/-- Every text ends in front of what is free, the zero behind it counted. -/
def TextsInFront (heap : Heap) : Prop :=
  ∀ (address : UInt64) (text : List UInt8), heap.texts[address]? = some text →
    address.toNat + text.length ≤ heap.next

/-- At the address lie these bytes, with a zero behind them that is the first one. -/
structure HoldsText (heap : Heap) (address : UInt64) (bytes : List UInt8) : Prop where
  placed : heap.texts[address]? = some (bytes ++ [0])
  whole : 0 ∉ bytes

/-- There is memory for regions of these sizes, one behind the other. -/
def Room (next : Nat) : List Nat → Prop
  | [] => True
  | size :: rest => next + size ≤ addressLimit ∧ Room (next + stride size) rest

instance Room.decidable (next : Nat) : (sizes : List Nat) → Decidable (Room next sizes)
  | [] => .isTrue trivial
  | size :: rest =>
    have := Room.decidable (next + stride size) rest
    inferInstanceAs (Decidable (_ ∧ _))

/-- Where memory is free behind regions of these sizes. -/
def behind (next : Nat) (sizes : List Nat) : Nat :=
  sizes.foldl (fun next size => next + stride size) next

theorem Room.append {next : Nat} {early late : List Nat} (room : Room next (early ++ late)) :
    Room next early ∧ Room (behind next early) late := by
  induction early generalizing next with
  | nil => exact ⟨trivial, room⟩
  | cons size rest ih =>
    obtain ⟨fits, further⟩ := room
    exact ⟨⟨fits, (ih further).1⟩, (ih further).2⟩

section
variable {heap after : Heap}

theorem HoldsText.textAt {address : UInt64} {bytes : List UInt8}
    (held : heap.HoldsText address bytes) : heap.textAt address = bytes := by
  have filled : ∀ byte ∈ bytes, (byte != 0) = true := by
    intro byte member
    exact bne_iff_ne.mpr fun zero => held.whole (zero ▸ member)
  rw [Heap.textAt, held.placed, Option.getD_some, Native.cString,
    List.takeWhile_append_of_pos filled]
  exact List.append_nil bytes

theorem HoldsText.of_same {address : UInt64} {bytes : List UInt8}
    (held : heap.HoldsText address bytes) (same : after.texts[address]? = heap.texts[address]?) :
    after.HoldsText address bytes :=
  ⟨same.trans held.placed, held.whole⟩

theorem HoldsText.inFront {address : UInt64} {bytes : List UInt8}
    (held : heap.HoldsText address bytes) (inFront : heap.TextsInFront) :
    address.toNat + bytes.length < heap.next := by
  have ends := inFront _ _ held.placed
  rw [List.length_append] at ends
  exact ends

theorem TextsInFront.of_same (inFront : heap.TextsInFront) (same : after.texts = heap.texts)
    (grows : heap.next ≤ after.next) : after.TextsInFront := by
  intro address text found
  rw [same] at found
  exact Nat.le_trans (inFront address text found) grows

/-- An allocation takes a region for itself, and leaves texts and tables alone. -/
structure Takes (heap : Heap) (size : Nat) (after : Heap) : Prop where
  texts : after.texts = heap.texts
  tables : after.tables = heap.tables
  own : after.defaultArrayTable = heap.defaultArrayTable
  next : after.next = heap.next + stride size

theorem Takes.grows {size : Nat} (takes : Takes heap size after) : heap.next ≤ after.next :=
  takes.next ▸ Nat.le_add_right _ _

theorem place_eq_ok {layout : Layout} {size table : UInt64}
    (placed : heap.place layout size table = .ok (r, after)) :
    Takes heap layout.size.toNat after := by
  unfold place at placed
  split at placed
  · cases placed
  · next reserved =>
    obtain rfl := reserve?_eq_some reserved
    cases placed
    exact ⟨rfl, rfl, rfl, rfl⟩

theorem allocateObject_eq_ok {size table : UInt64}
    (made : heap.allocateObject size table = .ok (r, after)) :
    Takes heap (48 + size.toNat) after := by
  by_cases fits : size.toNat + 48 ≤ 2 ^ 63 - 16
  · obtain ⟨layout, laid, same⟩ := @allocateObject_of_fits heap size fits table
    exact laid ▸ place_eq_ok (same ▸ made)
  · rw [allocateObject_refused (Nat.lt_of_not_le fits)] at made
    cases made

theorem allocateArray_eq_ok {length : UInt32} {width table : UInt64}
    (made : heap.allocateArray length width table = .ok (r, after)) :
    Takes heap (48 + arrayPayload length width) after := by
  unfold allocateArray at made
  dsimp only at made
  split at made
  · next small =>
    cases object : heap.allocateObject (.ofNat (arrayPayload length width)) table with
    | error fault =>
      rw [object] at made
      cases made
    | ok placed =>
      rw [object] at made
      cases made
      have grown := allocateObject_eq_ok object
      rw [UInt64.toNat_ofNat_of_lt' small] at grown
      rw [setFields_rest]
      exact ⟨grown.texts, grown.tables, grown.own, grown.next⟩
  · cases made

/-- Where there is room, a text gets an address of its own. -/
theorem placeText_of_room {bytes : List UInt8}
    (room : heap.next + (bytes.length + 1) ≤ addressLimit) :
    heap.placeText bytes = (.ofNat heap.next,
      { heap with
        next := heap.next + stride (bytes.length + 1)
        texts := heap.texts.insert (.ofNat heap.next) (bytes ++ [0]) }) := by
  simp only [placeText, reserve?, room, if_true]

theorem toNat_next {size : Nat} (room : heap.next + size ≤ addressLimit) :
    (UInt64.ofNat heap.next).toNat = heap.next := by
  have limit : addressLimit = 2 ^ 47 := rfl
  exact UInt64.toNat_ofNat_of_lt' (by simp only [UInt64.size]; omega)

theorem TextsInFront.placeText (inFront : heap.TextsInFront) (bytes : List UInt8) :
    (heap.placeText bytes).2.TextsInFront := by
  by_cases room : heap.next + (bytes.length + 1) ≤ addressLimit
  · obtain ⟨reaches, -⟩ := stride_spec (bytes.length + 1)
    rw [placeText_of_room room]
    intro address text found
    rw [Std.TreeMap.getElem?_insert] at found
    split at found
    · next same =>
      obtain rfl := Std.compare_eq_iff_eq.mp same
      obtain rfl := Option.some.inj found
      rw [toNat_next room, List.length_append]
      exact Nat.add_le_add_left reaches _
    · exact Nat.le_trans (inFront address text found) (Nat.le_add_right _ _)
  · rw [Heap.placeText, reserve?, if_neg room]
    exact inFront

theorem TextsInFront.keeps {set : List UInt64} (inFront : heap.TextsInFront)
    (change : Change heap set after) : after.TextsInFront := by
  cases change with
  | object made =>
    have takes := allocateObject_eq_ok made
    exact inFront.of_same takes.texts takes.grows
  | array made =>
    have takes := allocateArray_eq_ok made
    exact inFront.of_same takes.texts takes.grows
  | write r fields => exact setFields_rest fields ▸ inFront
  | monitor object monitor => exact setMonitor_rest object monitor ▸ inFront
  | table placed | ownTable missing placed =>
    obtain ⟨-, -, rfl⟩ := placeTable_eq_some placed
    exact inFront.of_same rfl (Nat.le_add_right _ _)
  | text bytes => exact inFront.placeText bytes
  | arrayTable table => exact inFront

theorem TextsInFront.run {first : Heap} {set : List UInt64} (inFront : first.TextsInFront)
    (run : Runs Change first set heap) : heap.TextsInFront :=
  run.invariant TextsInFront (fun before change => before.keeps change) inFront

end
end ManagedRuntime.Heap
