import ManagedRuntime.Dispatch.Blueprint
import ManagedRuntime.Proofs.Memory.Layout

/-! The size of a table is the number that its counts give without bound, and only a number beyond
the largest offset is refused. -/
namespace ManagedRuntime.Dispatch
open Memory

section
variable {methods interfaces : UInt64}

theorem tableLayout_eq_ok_iff {layout : Layout} : tableLayout methods interfaces = .ok layout ↔
    tableSize methods.toNat interfaces.toNat ≤ 2 ^ 63 - 8 ∧
      layout.size.toNat = tableSize methods.toNat interfaces.toNat ∧ layout.align = 8 := by
  have named : tableLayout methods interfaces = .ok layout ↔
      tableLayout? methods interfaces = some layout := by
    rw [tableLayout]
    cases tableLayout? methods interfaces with
    | none => simp
    | some found => simp
  rw [named, tableLayout?_eq_some_iff]
  rfl

theorem exists_tableLayout (fits : tableSize methods.toNat interfaces.toNat ≤ 2 ^ 63 - 8) :
    ∃ layout, tableLayout methods interfaces = .ok layout := by
  obtain ⟨size, whole⟩ := exists_word (Nat.lt_of_le_of_lt fits (by decide))
  exact ⟨⟨size, 8⟩, tableLayout_eq_ok_iff.mpr ⟨fits, whole, rfl⟩⟩

/-- Refusing has one reason, and it names both counts as they came. -/
theorem tableLayout_eq_error_iff {fault : LayoutFault} :
    tableLayout methods interfaces = .error fault ↔
      2 ^ 63 - 8 < tableSize methods.toNat interfaces.toNat ∧
        fault = .tableTooLarge methods.toNat interfaces.toNat := by
  constructor
  · intro refused
    have large : 2 ^ 63 - 8 < tableSize methods.toNat interfaces.toNat := by
      refine Nat.lt_of_not_le fun fits => ?_
      obtain ⟨layout, laid⟩ := exists_tableLayout fits
      rw [laid] at refused
      contradiction
    rw [tableLayout] at refused
    split at refused
    · contradiction
    · exact ⟨large, (Except.error.inj refused).symm⟩
  · rintro ⟨large, rfl⟩
    have unnamed : tableLayout? methods interfaces = none := by
      refine Option.eq_none_iff_forall_ne_some.mpr fun layout found => ?_
      exact Nat.not_le_of_lt large (tableLayout?_eq_some_iff.mp found).1
    rw [tableLayout, unnamed]

end

/-- Every product and every sum on the way to a layout is the number itself, in a word that holds
it. Where no word does, the way ends. -/
structure Unwrapped (methods interfaces : UInt64) : Prop where
  slots : checkedMul? methods Format.slotSize = word? (8 * methods.toNat)
  entries : checkedMul? interfaces Format.interfaceEntrySize = word? (16 * interfaces.toNat)
  headers : (Format.tableHeaderSize + Format.interfaceHeaderSize).toNat = 16
  withSlots : ∀ slots, checkedMul? methods Format.slotSize = some slots →
    checkedAdd? (Format.tableHeaderSize + Format.interfaceHeaderSize) slots =
      word? (16 + 8 * methods.toNat)
  size : ∀ slots entries withSlots, checkedMul? methods Format.slotSize = some slots →
    checkedMul? interfaces Format.interfaceEntrySize = some entries →
    checkedAdd? (Format.tableHeaderSize + Format.interfaceHeaderSize) slots = some withSlots →
    checkedAdd? withSlots entries = word? (tableSize methods.toNat interfaces.toNat)

theorem unwrapped (methods interfaces : UInt64) : Unwrapped methods interfaces := by
  have slot : Format.slotSize.toNat = 8 := rfl
  have entry : Format.interfaceEntrySize.toNat = 16 := rfl
  have headers : (Format.tableHeaderSize + Format.interfaceHeaderSize).toNat = 16 := rfl
  refine ⟨?_, ?_, headers, ?_, ?_⟩
  · rw [checkedMul?_eq_word?, slot, Nat.mul_comm]
  · rw [checkedMul?_eq_word?, entry, Nat.mul_comm]
  · intro slots product
    rw [checkedAdd?_eq_word?, headers, checkedMul?_eq_some_iff.mp product, slot, Nat.mul_comm]
  · intro slots entries withSlots product others sum
    rw [checkedAdd?_eq_word?, checkedAdd?_eq_some_iff.mp sum, headers,
      checkedMul?_eq_some_iff.mp product, checkedMul?_eq_some_iff.mp others, slot, entry, tableSize,
      Nat.mul_comm 8, Nat.mul_comm 16]

/-- For any two counts, the chain of checks decides the one comparison without bound. What is laid
out for more takes at least the room of what is laid out for less. -/
theorem tableLayout_exact (methods interfaces : UInt64) :
    let size := 16 + 8 * methods.toNat + 16 * interfaces.toNat
    (∀ layout, tableLayout methods interfaces = .ok layout ↔
      size ≤ 2 ^ 63 - 8 ∧ layout.size.toNat = size ∧ layout.align = 8) ∧
    (size ≤ 2 ^ 63 - 8 → ∃ layout, tableLayout methods interfaces = .ok layout) ∧
    (∀ fault, tableLayout methods interfaces = .error fault ↔
      2 ^ 63 - 8 < size ∧ fault = .tableTooLarge methods.toNat interfaces.toNat) ∧
    Unwrapped methods interfaces ∧
    ∀ layout, tableLayout methods interfaces = .ok layout →
      ∀ fewer less : UInt64, fewer ≤ methods → less ≤ interfaces →
        ∃ smaller, tableLayout fewer less = .ok smaller ∧ smaller.size ≤ layout.size := by
  refine ⟨fun layout => tableLayout_eq_ok_iff, exists_tableLayout,
    fun fault => tableLayout_eq_error_iff, unwrapped methods interfaces, ?_⟩
  intro layout laid fewer less slots entries
  obtain ⟨fits, whole, -⟩ := tableLayout_eq_ok_iff.mp laid
  have below := tableSize_mono (UInt64.le_iff_toNat_le.mp slots) (UInt64.le_iff_toNat_le.mp entries)
  obtain ⟨smaller, placed⟩ := exists_tableLayout (Nat.le_trans below fits)
  obtain ⟨-, part, -⟩ := tableLayout_eq_ok_iff.mp placed
  refine ⟨smaller, placed, UInt64.le_iff_toNat_le.mpr ?_⟩
  rw [part, whole]
  exact below

/-- The last number of slots beside one entry, the next one, which only rounding refuses, and one
whose product has no word. -/
theorem tableLayout_exact_boundary :
    tableLayout 0x0ffffffffffffffb 1 = .ok ⟨0x7ffffffffffffff8, 8⟩ ∧
      tableLayout 0x0ffffffffffffffc 1 = .error (.tableTooLarge 0x0ffffffffffffffc 1) ∧
      tableLayout 0x2000000000000000 0 = .error (.tableTooLarge 0x2000000000000000 0) ∧
      ∃ smaller, tableLayout 44 0 = .ok smaller ∧ smaller.size ≤ 0x7ffffffffffffff8 := by
  obtain ⟨accepted, -, -, -, monotone⟩ := tableLayout_exact 0x0ffffffffffffffb 1
  have last := (accepted ⟨0x7ffffffffffffff8, 8⟩).mpr (by decide)
  have rounding := ((tableLayout_exact 0x0ffffffffffffffc 1).2.2.1 _).mpr ⟨by decide, rfl⟩
  have wrapping := ((tableLayout_exact 0x2000000000000000 0).2.2.1 _).mpr ⟨by decide, rfl⟩
  exact ⟨last, rounding, wrapping, monotone _ last 44 0 (by decide) (by decide)⟩

end ManagedRuntime.Dispatch
