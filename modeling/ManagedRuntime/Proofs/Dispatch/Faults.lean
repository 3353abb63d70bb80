import Mathlib.Algebra.Ring.Nat
import Mathlib.Order.Fin.Basic
import Mathlib.Order.WellFounded
import ManagedRuntime.Proofs.Dispatch.Acceptance
import ManagedRuntime.Proofs.Machine.Tables

/-! Why a blueprint is refused. Entries are looked at in their order, each with those before it in
mind, and the first one at fault is the one that is reported. -/
namespace ManagedRuntime.Dispatch

/-- The identity of the entry occurs before it. -/
def Repeats (entries : List InterfaceEntry) (index : Fin entries.length) : Prop :=
  ∃ earlier < index, entries[earlier].interface = entries[index].interface

def IsFaulty (methods : Nat) (entries : List InterfaceEntry) (index : Fin entries.length) : Prop :=
  Repeats entries index ∨ methods < entries[index].offset.toNat

/-- What is reported of the first entry at fault. One that repeats an identity and begins behind the
slots is reported for the identity. -/
inductive FirstFault (methods : Nat) (entries : List InterfaceEntry) : LayoutFault → Prop
  | repeated (index : Fin entries.length)
      (first : ∀ earlier < index, ¬IsFaulty methods entries earlier)
      (repeats : Repeats entries index) :
      FirstFault methods entries (.duplicateInterface entries[index].interface)
  | beyond (index : Fin entries.length)
      (first : ∀ earlier < index, ¬IsFaulty methods entries earlier)
      (single : ¬Repeats entries index) (outside : methods < entries[index].offset.toNat) :
      FirstFault methods entries
        (.offsetOutOfRange entries[index].interface entries[index].offset methods)

section
variable {methods : Nat} {entries : List InterfaceEntry}

/-- Up to an entry, none is at fault. -/
theorem proper_take {count : Nat} (proper : ∀ index : Fin entries.length, index < count →
      ¬IsFaulty methods entries index) :
    ((entries.take count).map InterfaceEntry.interface).Nodup ∧
      ∀ entry ∈ entries.take count, entry.offset.toNat ≤ methods := by
  constructor
  · rw [List.Nodup, List.pairwise_map, List.pairwise_iff_getElem]
    intro earlier later _ reached before same
    simp only [List.length_take, Nat.lt_min] at reached
    simp only [List.getElem_take] at same
    exact proper ⟨later, reached.2⟩ reached.1
      (.inl ⟨⟨earlier, Nat.lt_trans before reached.2⟩, before, same⟩)
  · intro entry member
    obtain ⟨index, reached, rfl⟩ := List.mem_iff_getElem.mp member
    simp only [List.length_take, Nat.lt_min] at reached
    rw [List.getElem_take]
    exact Nat.le_of_not_lt fun outside => proper ⟨index, reached.2⟩ reached.1 (.inr outside)

theorem repeats_iff {index : Fin entries.length} : Repeats entries index ↔
    entries[index].interface ∈ (entries.take index).map InterfaceEntry.interface := by
  simp only [Repeats, List.mem_map, List.mem_take_iff_getElem]
  constructor
  · rintro ⟨earlier, before, same⟩
    exact ⟨entries[earlier], ⟨earlier, by omega, rfl⟩, same⟩
  · rintro ⟨entry, ⟨earlier, reached, rfl⟩, same⟩
    exact ⟨⟨earlier, by omega⟩, (Nat.lt_min.mp reached).1, same⟩

instance (index : Fin entries.length) : Decidable (Repeats entries index) :=
  decidable_of_iff _ repeats_iff.symm

instance (index : Fin entries.length) : Decidable (IsFaulty methods entries index) :=
  inferInstanceAs (Decidable (_ ∨ _))

/-- Where any entry is at fault, there is a first one. -/
theorem exists_firstFault (faulty : ∃ index, IsFaulty methods entries index) :
    ∃ fault, FirstFault methods entries fault := by
  obtain ⟨index, here, least⟩ :=
    wellFounded_lt.has_min {index | IsFaulty methods entries index} faulty
  have first : ∀ earlier < index, ¬IsFaulty methods entries earlier :=
    fun earlier before there => least earlier there before
  by_cases repeats : Repeats entries index
  · exact ⟨_, .repeated index first repeats⟩
  · exact ⟨_, .beyond index first repeats (here.resolve_left repeats)⟩

namespace Blueprint

theorem checkEntries_append {seen : List UInt64} {early : List InterfaceEntry}
    (accepted : checkEntries methods seen early = .ok ()) (late : List InterfaceEntry) :
    checkEntries methods seen (early ++ late) =
      checkEntries methods ((early.map InterfaceEntry.interface).reverse ++ seen) late := by
  induction early generalizing seen with
  | nil => rfl
  | cons entry rest ih =>
    simp only [checkEntries] at accepted
    split at accepted
    · cases accepted
    · next fresh =>
      split at accepted
      · cases accepted
      · next inside =>
        simp only [List.cons_append, checkEntries, fresh, inside, if_false, ih accepted,
          List.map_cons, List.reverse_cons, List.append_assoc, List.nil_append]

theorem checkEntries_of_firstFault {fault : LayoutFault}
    (first : FirstFault methods entries fault) :
    checkEntries methods [] entries = .error fault := by
  have reaches (index : Fin entries.length)
      (proper : ∀ earlier < index, ¬IsFaulty methods entries earlier) :
      checkEntries methods [] entries = checkEntries methods
        ((entries.take index).map InterfaceEntry.interface).reverse
        (entries[index] :: entries.drop (index + 1)) := by
    obtain ⟨distinct, inside⟩ := @proper_take methods entries index proper
    have accepted : checkEntries methods [] (entries.take index) = .ok () :=
      checkEntries_eq_ok.mpr ⟨distinct, fun entry member =>
        ⟨List.not_mem_nil, inside entry member⟩⟩
    have whole : entries = entries.take index ++ entries[index] :: entries.drop (index + 1) := by
      simp
    rw [← List.append_nil (List.reverse _), ← checkEntries_append accepted, ← whole]
  cases first with
  | repeated index proper repeats =>
    rw [reaches index proper]
    simp only [checkEntries, List.mem_reverse, repeats_iff.mp repeats, if_true]
  | beyond index proper single outside =>
    rw [reaches index proper]
    simp only [checkEntries, List.mem_reverse, mt repeats_iff.mpr single, outside, if_true,
      if_false]

end Blueprint
end

/-- A blueprint is well-formed unless one of its entries is at fault. -/
theorem wellFormed_of_proper {blueprint : Blueprint}
    (proper : ∀ index, ¬IsFaulty blueprint.methods.length blueprint.interfaces index) :
    blueprint.WellFormed := by
  obtain ⟨distinct, inside⟩ :=
    @proper_take _ _ blueprint.interfaces.length fun index _ => proper index
  rw [List.take_length] at distinct inside
  exact ⟨distinct, inside⟩

/-- With lengths that fit the words of a table, exactly the well-formed blueprints are built. Any
other is refused for its first entry at fault, never for its size, and nothing else comes of it. -/
theorem build_reports_first_fault {blueprint : Blueprint}
    (fewSlots : blueprint.methods.length < 2 ^ 32)
    (fewInterfaces : blueprint.interfaces.length < 2 ^ 32) (unset : Nat → UInt32) :
    ((∃ table, blueprint.build unset = .ok table) ↔
      (blueprint.interfaces.map InterfaceEntry.interface).Nodup ∧
        ∀ entry ∈ blueprint.interfaces, entry.offset.toNat ≤ blueprint.methods.length) ∧
    (∀ fault, blueprint.build unset = .error fault ↔
      FirstFault blueprint.methods.length blueprint.interfaces fault) ∧
    (∃ layout, tableLayout (UInt64.ofNat blueprint.methods.length)
      (UInt64.ofNat blueprint.interfaces.length) = .ok layout) ∧
    (∀ methods interfaces, blueprint.build unset ≠ .error (.tableTooLarge methods interfaces)) ∧
    ∀ (machine : Machine) (fault : LayoutFault), machine.buildTable blueprint = .error fault ↔
      FirstFault blueprint.methods.length blueprint.interfaces fault := by
  have refused {fault : LayoutFault} (unset : Nat → UInt32)
      (first : FirstFault blueprint.methods.length blueprint.interfaces fault) :
      blueprint.build unset = .error fault := by
    obtain ⟨table, same⟩ := Blueprint.build_of_small fewSlots fewInterfaces unset
    rw [same, Blueprint.checkEntries_of_firstFault first]
    rfl
  have reports (unset : Nat → UInt32) (fault : LayoutFault) :
      blueprint.build unset = .error fault ↔
        FirstFault blueprint.methods.length blueprint.interfaces fault := by
    refine ⟨fun failed => ?_, refused unset⟩
    have faulty : ∃ index, IsFaulty blueprint.methods.length blueprint.interfaces index := by
      by_contra proper
      obtain ⟨table, built⟩ := Blueprint.exists_build_iff.mpr
        ⟨fewSlots, fewInterfaces, wellFormed_of_proper (not_exists.mp proper)⟩
      rw [built] at failed
      cases failed
    obtain ⟨other, first⟩ := exists_firstFault faulty
    obtain rfl : other = fault := Except.error.inj ((refused unset first).symm.trans failed)
    exact first
  refine ⟨?_, reports unset, tableLayout_of_small fewSlots fewInterfaces, ?_, ?_⟩
  · rw [Blueprint.exists_build_iff]
    exact ⟨fun ⟨_, _, distinct, inside⟩ => ⟨distinct, inside⟩,
      fun ⟨distinct, inside⟩ => ⟨fewSlots, fewInterfaces, distinct, inside⟩⟩
  · intro methods interfaces failed
    cases (reports _ _).mp failed
  · intro machine fault
    rw [← reports (machine.heap.residue machine.heap.next)]
    exact Machine.buildTable_eq_error_iff

/-- The second entry is a repetition and out of range at once, the third one is out of range. -/
theorem build_reports_first_fault_repeated :
    let blueprint : Blueprint := ⟨[0x1000], [⟨0x9000, 1⟩, ⟨0x9000, 4⟩, ⟨0xa000, 2⟩]⟩
    FirstFault 1 blueprint.interfaces (.duplicateInterface 0x9000) ∧
      blueprint.build (fun _ => 0) = .error (.duplicateInterface 0x9000) := by
  intro blueprint
  have first : FirstFault 1 blueprint.interfaces (.duplicateInterface 0x9000) :=
    .repeated ⟨1, by decide⟩ (by decide) (by decide)
  exact ⟨first, ((build_reports_first_fault (by decide) (by decide) fun _ => 0).2.1 _).mpr first⟩

end ManagedRuntime.Dispatch
