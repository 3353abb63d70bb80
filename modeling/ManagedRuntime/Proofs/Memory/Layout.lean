import Mathlib.Algebra.Ring.Nat
import ManagedRuntime.Memory.Layout

/-! Which objects and tables have a layout. The words a layout is computed with do not wrap, and it
is refused only where its size, rounded up, is beyond the largest offset. -/
namespace ManagedRuntime.Memory

/-- The number as a word, if one holds it. -/
def word? (number : Nat) : Option UInt64 :=
  if number < UInt64.size then some (.ofNat number) else none

theorem word?_eq_some_iff {number : Nat} {word : UInt64} :
    word? number = some word ↔ word.toNat = number := by
  have bound := word.toNat_lt
  simp only [word?, UInt64.size]
  split
  case isTrue small =>
    simp only [Option.some.injEq, ← UInt64.toNat_inj, UInt64.toNat_ofNat', Nat.mod_eq_of_lt small]
    exact eq_comm
  case isFalse large => simp only [reduceCtorEq, false_iff]; omega

theorem exists_word {number : Nat} (small : number < 2 ^ 64) :
    ∃ word : UInt64, word.toNat = number :=
  ⟨.ofNat number, UInt64.toNat_ofNat_of_lt' small⟩

/-- A checked sum is the sum without bound, or there is no word for it. -/
theorem checkedAdd?_eq_word? (a b : UInt64) : checkedAdd? a b = word? (a.toNat + b.toNat) := by
  ext word
  rw [checkedAdd?_eq_some_iff, word?_eq_some_iff]

theorem checkedMul?_eq_word? (a b : UInt64) : checkedMul? a b = word? (a.toNat * b.toNat) := by
  ext word
  rw [checkedMul?_eq_some_iff, word?_eq_some_iff]

/-- Header and fields have a layout if they end in front of the last address that an offset reaches
and that is aligned. -/
theorem objectLayout?_eq (size : UInt64) : objectLayout? size =
    if size.toNat + 48 ≤ 2 ^ 63 - 16 then
      some ⟨Format.objectHeaderSize + size, Format.objectAlign⟩
    else none := by
  have header : Format.objectHeaderSize.toNat = 48 := rfl
  have align : Format.objectAlign.toNat = 16 := rfl
  have bound := size.toNat_lt
  by_cases small : size.toNat + 48 < 2 ^ 64
  · have sum : (Format.objectHeaderSize + size).toNat = size.toNat + 48 := by
      rw [UInt64.toNat_add, header, Nat.mod_eq_of_lt (by omega), Nat.add_comm]
    have total : checkedAdd? Format.objectHeaderSize size =
        some (Format.objectHeaderSize + size) :=
      checkedAdd?_eq_some_iff.mpr (by rw [sum, header, Nat.add_comm])
    have fits : roundUp (size.toNat + 48) 16 ≤ Layout.maxSize ↔
        size.toNat + 48 ≤ 2 ^ 63 - 16 := by
      simp only [roundUp, Layout.maxSize]
      omega
    simp only [objectLayout?, total, Option.bind_eq_bind, Option.bind_some, Layout.make?, sum,
      align, fits]
  · have wraps : checkedAdd? Format.objectHeaderSize size = none := by
      refine Option.eq_none_iff_forall_ne_some.mpr fun total summed => ?_
      have sum := checkedAdd?_eq_some_iff.mp summed
      have bound := total.toNat_lt
      omega
    rw [objectLayout?, wraps, if_neg (by omega)]
    rfl

/-- What has a layout fits in front of the largest offset. -/
theorem objectLayout?_bound {size : UInt64} {layout : Layout}
    (laid : objectLayout? size = some layout) :
    Format.objectHeaderSize.toNat + size.toNat ≤ Layout.maxSize := by
  have header : Format.objectHeaderSize.toNat = 48 := rfl
  rw [objectLayout?_eq] at laid
  split at laid
  · next small =>
    simp only [header, Layout.maxSize]
    omega
  · cases laid

/-- The bytes of a table, counted without bound. -/
def tableSize (methods interfaces : Nat) : Nat := 16 + 8 * methods + 16 * interfaces

theorem tableSize_mono {methods more interfaces further : Nat} (slots : methods ≤ more)
    (entries : interfaces ≤ further) : tableSize methods interfaces ≤ tableSize more further := by
  simp only [tableSize]
  omega

/-- Rounding to the alignment of a table takes the largest size seven bytes down. -/
theorem make?_tableAlign (size : UInt64) : Layout.make? size Format.tableAlign =
    if size.toNat ≤ 2 ^ 63 - 8 then some ⟨size, Format.tableAlign⟩ else none := by
  have align : Format.tableAlign.toNat = 8 := rfl
  have fits : roundUp size.toNat 8 ≤ Layout.maxSize ↔ size.toNat ≤ 2 ^ 63 - 8 := by
    simp only [roundUp, Layout.maxSize]
    omega
  simp only [Layout.make?, align, fits]

/-- What bounds the size of the whole table bounds every product and sum on the way to it. -/
theorem tableLayout?_eq_some_iff {methods interfaces : UInt64} {layout : Layout} :
    tableLayout? methods interfaces = some layout ↔
      tableSize methods.toNat interfaces.toNat ≤ 2 ^ 63 - 8 ∧
        layout.size.toNat = tableSize methods.toNat interfaces.toNat ∧
        layout.align = Format.tableAlign := by
  have headers : (Format.tableHeaderSize + Format.interfaceHeaderSize).toNat = 16 := rfl
  have slot : Format.slotSize.toNat = 8 := rfl
  have entry : Format.interfaceEntrySize.toNat = 16 := rfl
  simp only [tableLayout?, Option.bind_eq_bind, Option.bind_eq_some_iff, checkedMul?_eq_some_iff,
    checkedAdd?_eq_some_iff, make?_tableAlign, headers, slot, entry, tableSize]
  constructor
  · rintro ⟨slots, slotsExact, entries, entriesExact, withSlots, sum, size, whole, made⟩
    split at made
    case isTrue fits =>
      cases made
      have exact : size.toNat = 16 + 8 * methods.toNat + 16 * interfaces.toNat := by omega
      exact ⟨exact ▸ fits, exact, rfl⟩
    case isFalse => cases made
  · rintro ⟨fits, whole, aligned⟩
    obtain ⟨slots, slotsExact⟩ := exists_word (by omega : methods.toNat * 8 < 2 ^ 64)
    obtain ⟨entries, entriesExact⟩ := exists_word (by omega : interfaces.toNat * 16 < 2 ^ 64)
    obtain ⟨withSlots, sum⟩ := exists_word (by omega : 16 + slots.toNat < 2 ^ 64)
    refine ⟨slots, slotsExact, entries, entriesExact, withSlots, sum, layout.size, by omega, ?_⟩
    rw [if_pos (whole ▸ fits), ← aligned]

end ManagedRuntime.Memory
