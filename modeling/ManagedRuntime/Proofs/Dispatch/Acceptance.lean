import ManagedRuntime.Proofs.Dispatch.Fields
import ManagedRuntime.Proofs.Dispatch.Sizes

/-! What a blueprint that is accepted has to satisfy: lengths that fit, entries that do not repeat
and stay inside the slots, and a size that memory can have. -/
namespace ManagedRuntime.Dispatch
open Memory

/-- Lengths that fit the words of a table have a layout. -/
theorem tableLayout_of_small {slotCount entryCount : Nat} (fewSlots : slotCount < UInt32.size)
    (fewInterfaces : entryCount < UInt32.size) :
    ∃ layout, tableLayout (UInt64.ofNat slotCount) (UInt64.ofNat entryCount) = .ok layout := by
  have slots : (UInt64.ofNat slotCount).toNat = slotCount :=
    UInt64.toNat_ofNat_of_lt' (Nat.lt_trans fewSlots (by decide))
  have entries : (UInt64.ofNat entryCount).toNat = entryCount :=
    UInt64.toNat_ofNat_of_lt' (Nat.lt_trans fewInterfaces (by decide))
  refine exists_tableLayout ?_
  simp only [slots, entries, tableSize, UInt32.size] at *
  omega

theorem bind_eq_ok {ε α β : Type} {first : Except ε α} {next : α → Except ε β} {result : β}
    (finished : first >>= next = .ok result) :
    ∃ value, first = .ok value ∧ next value = .ok result := by
  cases first with
  | error fault => contradiction
  | ok value => exact ⟨value, rfl, finished⟩

namespace Blueprint

theorem checkLength_eq_ok {count : Nat} (passed : checkLength count = .ok ()) :
    count < UInt32.size := by
  simp only [checkLength] at passed
  split at passed
  · assumption
  · contradiction

theorem checkEntries_eq_ok {methods : Nat} {seen : List UInt64} {entries : List InterfaceEntry} :
    checkEntries methods seen entries = .ok () ↔
      (entries.map InterfaceEntry.interface).Nodup ∧
        ∀ entry ∈ entries, entry.interface ∉ seen ∧ entry.offset.toNat ≤ methods := by
  induction entries generalizing seen with
  | nil => simp [checkEntries]
  | cons entry rest ih =>
    simp only [checkEntries]
    split
    case isTrue known => simp [known]
    case isFalse fresh =>
      split
      case isTrue beyond =>
        refine iff_of_false nofun ?_
        rintro ⟨-, each⟩
        exact Nat.not_le_of_lt beyond (each entry List.mem_cons_self).2
      case isFalse fits =>
        have reaches : entry.offset.toNat ≤ methods := Nat.le_of_not_lt fits
        simp only [ih, List.map_cons, List.nodup_cons, List.mem_map, List.mem_cons, not_or,
          forall_eq_or_imp]
        constructor
        · rintro ⟨distinct, others⟩
          refine ⟨⟨?_, distinct⟩, ⟨fresh, reaches⟩, fun other member => ?_⟩
          · rintro ⟨other, member, same⟩
            exact (others other member).1.1 same
          · exact ⟨(others other member).1.2, (others other member).2⟩
        · rintro ⟨⟨unlike, distinct⟩, -, others⟩
          refine ⟨distinct, fun other member => ?_⟩
          obtain ⟨unseen, offset⟩ := others other member
          exact ⟨⟨fun same => unlike ⟨other, member, same⟩, unseen⟩, offset⟩

theorem build_eq_ok {blueprint : Blueprint} {unset : Nat → UInt32} {table : Block}
    (built : blueprint.build unset = .ok table) :
    blueprint.methods.length < UInt32.size ∧ blueprint.interfaces.length < UInt32.size ∧
      (blueprint.interfaces.map InterfaceEntry.interface).Nodup ∧
      (∀ entry ∈ blueprint.interfaces, entry.offset.toNat ≤ blueprint.methods.length) ∧
      ∃ layout, tableLayout (UInt64.ofNat blueprint.methods.length)
          (UInt64.ofNat blueprint.interfaces.length) = .ok layout ∧
        layout.size.toNat =
          16 + 8 * blueprint.methods.length + 16 * blueprint.interfaces.length ∧
        table = writeFields (.zeroed layout.size.toNat) (blueprint.copies unset) := by
  obtain ⟨_, slots, built⟩ := bind_eq_ok built
  obtain ⟨_, interfaces, built⟩ := bind_eq_ok built
  obtain ⟨_, entries, built⟩ := bind_eq_ok built
  obtain ⟨layout, found, built⟩ := bind_eq_ok built
  obtain ⟨distinct, each⟩ := checkEntries_eq_ok.mp entries
  have fewSlots := checkLength_eq_ok slots
  have fewInterfaces := checkLength_eq_ok interfaces
  have size := (tableLayout_eq_ok_iff.mp found).2.1
  rw [UInt64.toNat_ofNat_of_lt' (Nat.lt_trans fewSlots (by decide)),
    UInt64.toNat_ofNat_of_lt' (Nat.lt_trans fewInterfaces (by decide))] at size
  cases built
  exact ⟨fewSlots, fewInterfaces, distinct, fun entry member => (each entry member).2, layout,
    found, size, rfl⟩

/-- Identities do not repeat, and no interface begins behind the slot after the last one. -/
structure WellFormed (blueprint : Blueprint) : Prop where
  distinct : (blueprint.interfaces.map InterfaceEntry.interface).Nodup
  inside : ∀ entry ∈ blueprint.interfaces, entry.offset.toNat ≤ blueprint.methods.length

theorem checkEntries_eq_ok_iff_wellFormed {blueprint : Blueprint} :
    checkEntries blueprint.methods.length [] blueprint.interfaces = .ok () ↔
      blueprint.WellFormed := by
  rw [checkEntries_eq_ok]
  constructor
  · rintro ⟨distinct, each⟩
    exact ⟨distinct, fun entry member => (each entry member).2⟩
  · rintro ⟨distinct, inside⟩
    exact ⟨distinct, fun entry member => ⟨List.not_mem_nil, inside entry member⟩⟩

/-- Where the lengths fit, only an entry can be at fault. -/
theorem build_of_small {blueprint : Blueprint} (fewSlots : blueprint.methods.length < UInt32.size)
    (fewInterfaces : blueprint.interfaces.length < UInt32.size) (unset : Nat → UInt32) :
    ∃ table, blueprint.build unset =
      (checkEntries blueprint.methods.length [] blueprint.interfaces).map fun _ => table := by
  obtain ⟨layout, laid⟩ := tableLayout_of_small fewSlots fewInterfaces
  simp only [build, checkLength, fewSlots, fewInterfaces, if_true, laid]
  cases checkEntries blueprint.methods.length [] blueprint.interfaces with
  | error fault => exact ⟨.zeroed 0, rfl⟩
  | ok => exact ⟨_, rfl⟩

theorem exists_build_iff {blueprint : Blueprint} {unset : Nat → UInt32} :
    (∃ table, blueprint.build unset = .ok table) ↔
      blueprint.methods.length < UInt32.size ∧ blueprint.interfaces.length < UInt32.size ∧
        blueprint.WellFormed := by
  constructor
  · rintro ⟨table, built⟩
    obtain ⟨fewSlots, fewInterfaces, distinct, inside, -⟩ := build_eq_ok built
    exact ⟨fewSlots, fewInterfaces, distinct, inside⟩
  · rintro ⟨fewSlots, fewInterfaces, wellFormed⟩
    obtain ⟨table, same⟩ := build_of_small fewSlots fewInterfaces unset
    rw [checkEntries_eq_ok_iff_wellFormed.mpr wellFormed] at same
    exact ⟨table, same⟩

end Blueprint

end ManagedRuntime.Dispatch
