import ManagedRuntime.Machine.Memory
import ManagedRuntime.Proofs.Dispatch.RoundTrip

/-! Dispatch through tables that were built. A method of an interface is the virtual method at the
offset that was given for the interface, in whatever order the interfaces were given. -/
namespace ManagedRuntime.Dispatch

/-- The receiver points to the table. Its object may be any. -/
def Carries (machine : Machine) (receiver : Ref) (table : Memory.Block) : Prop :=
  machine.heap.tables[receiver.table]? = some table

section
variable {blueprint : Blueprint} {unset : Nat → UInt32} {table : Memory.Block}
  (built : blueprint.build unset = .ok table)
include built

theorem holds_of_build : Holds table blueprint.fields := by
  obtain ⟨-, -, -, -, layout, -, -, written⟩ := Blueprint.build_eq_ok built
  have held : Holds table (blueprint.copies unset) :=
    written ▸ holds_writeFields (blueprint.copies_inOrder unset).apart
  exact Blueprint.holds_fields held

theorem shows_of_build : Table.Shows table blueprint.methods blueprint.interfaces := by
  obtain ⟨fewSlots, fewInterfaces, distinct, -⟩ := Blueprint.build_eq_ok built
  exact Table.shows_of_holds (holds_of_build built) fewSlots fewInterfaces distinct

variable {machine : Machine} {receiver : Ref} (carries : Carries machine receiver table)
include carries

theorem vtableLookup_of_carries {index : Nat} (inside : index < blueprint.methods.length) :
    machine.vtableLookup receiver index = blueprint.methods[index] := by
  rw [Machine.vtableLookup, Heap.table, carries, Option.getD_some]
  exact Table.method_of_holds (holds_of_build built) inside

theorem itableLookup_of_given {interface : UInt64} {offset : UInt32}
    (given : ⟨interface, offset⟩ ∈ blueprint.interfaces) {index : Nat}
    (inside : offset.toNat + index < blueprint.methods.length) :
    machine.itableLookup receiver interface index =
      some blueprint.methods[offset.toNat + index] := by
  have start := ((shows_of_build built).find? interface offset).mpr given
  rw [Machine.itableLookup, Heap.table, carries, Option.getD_some, Table.interfaceMethod?, start,
    Option.map_some]
  exact congrArg some (Table.method_of_holds (holds_of_build built) inside)

theorem itableLookup_of_missing {interface : UInt64}
    (missing : interface ∉ blueprint.interfaces.map InterfaceEntry.interface) (index : Nat) :
    machine.itableLookup receiver interface index = none := by
  rw [Machine.itableLookup, Heap.table, carries, Option.getD_some, Table.interfaceMethod?]
  cases found : Table.find? table interface with
  | none => rfl
  | some offset =>
    have given := ((shows_of_build built).find? interface offset).mp found
    exact absurd (List.mem_map.mpr ⟨_, given, rfl⟩) missing

end

/-- Whether a blueprint is accepted does not depend on the order of its interfaces. -/
theorem wellFormed_perm {methods : List UInt64} {first second : List InterfaceEntry}
    (same : first.Perm second) :
    (Blueprint.mk methods first).WellFormed ↔ (Blueprint.mk methods second).WellFormed := by
  have distinct := (same.map InterfaceEntry.interface).nodup_iff
  exact ⟨fun ⟨apart, inside⟩ => ⟨distinct.mp apart, fun entry member =>
      inside entry (same.mem_iff.mpr member)⟩,
    fun ⟨apart, inside⟩ => ⟨distinct.mpr apart, fun entry member =>
      inside entry (same.mem_iff.mp member)⟩⟩

theorem exists_build_perm {methods : List UInt64} {first second : List InterfaceEntry}
    (same : first.Perm second) (unset left : Nat → UInt32) :
    (∃ table, (Blueprint.mk methods first).build unset = .ok table) ↔
      ∃ table, (Blueprint.mk methods second).build left = .ok table := by
  rw [Blueprint.exists_build_iff, Blueprint.exists_build_iff, wellFormed_perm same, same.length_eq]

/-- Interface dispatch is virtual dispatch at the offset that was given for the interface, and finds
nothing for any other. Neither the order in which the interfaces were given nor what lies in the
gaps between them decides whether the table is built or what any lookup finds. -/
theorem interface_dispatch (methods : List UInt64) (interfaces : List InterfaceEntry)
    (unset : Nat → UInt32) :
    (∀ table, (Blueprint.mk methods interfaces).build unset = .ok table →
      ∀ machine receiver, Carries machine receiver table →
        (∀ interface offset, ⟨interface, offset⟩ ∈ interfaces →
          ∀ index, (inside : offset.toNat + index < methods.length) →
            machine.itableLookup receiver interface index =
              some (machine.vtableLookup receiver (offset.toNat + index)) ∧
            machine.vtableLookup receiver (offset.toNat + index) =
              methods[offset.toNat + index]) ∧
        ∀ interface, interface ∉ interfaces.map InterfaceEntry.interface →
          ∀ index, machine.itableLookup receiver interface index = none) ∧
    ∀ others (left : Nat → UInt32), interfaces.Perm others →
      ((∃ table, (Blueprint.mk methods interfaces).build unset = .ok table) ↔
        ∃ table, (Blueprint.mk methods others).build left = .ok table) ∧
      ∀ table other, (Blueprint.mk methods interfaces).build unset = .ok table →
        (Blueprint.mk methods others).build left = .ok other →
        ∀ first second receiver another, Carries first receiver table →
          Carries second another other →
          (∀ index < methods.length,
            first.vtableLookup receiver index = second.vtableLookup another index) ∧
          ∀ interface index,
            (∀ offset, ⟨interface, offset⟩ ∈ interfaces → offset.toNat + index < methods.length) →
            first.itableLookup receiver interface index =
              second.itableLookup another interface index := by
  refine ⟨fun table built machine receiver carries => ⟨?_, ?_⟩, fun others left same =>
    ⟨exists_build_perm same unset left, ?_⟩⟩
  · intro interface offset given index inside
    have virtual := vtableLookup_of_carries built carries inside
    rw [virtual]
    exact ⟨itableLookup_of_given built carries given inside, rfl⟩
  · exact fun interface => itableLookup_of_missing built carries
  · intro table other built rebuilt first second receiver another carries carried
    refine ⟨fun index inside => ?_, fun interface index inside => ?_⟩
    · exact (vtableLookup_of_carries built carries inside).trans
        (vtableLookup_of_carries rebuilt carried inside).symm
    · by_cases given : interface ∈ interfaces.map InterfaceEntry.interface
      · obtain ⟨⟨_, offset⟩, member, rfl⟩ := List.mem_map.mp given
        have reached := inside offset member
        exact (itableLookup_of_given built carries member reached).trans
          (itableLookup_of_given rebuilt carried (same.mem_iff.mp member) reached).symm
      · have missing := mt ((same.map InterfaceEntry.interface).mem_iff.mpr) given
        exact (itableLookup_of_missing built carries given index).trans
          (itableLookup_of_missing rebuilt carried missing index).symm

/-- Two interfaces in either order, carried by a receiver without an object and by another one. -/
theorem interface_dispatch_swapped : ∃ machine : Machine,
    machine.itableLookup ⟨0, 0x20000⟩ 0x9000 1 =
      some (machine.vtableLookup ⟨0, 0x20000⟩ 2) ∧
    machine.vtableLookup ⟨0, 0x20000⟩ 2 = 0x1020 ∧
    machine.itableLookup ⟨0, 0x20000⟩ 0xb000 0 = none ∧
    machine.itableLookup ⟨0, 0x20000⟩ 0x9000 1 = machine.itableLookup ⟨7, 0x30000⟩ 0x9000 1 := by
  obtain ⟨table, built⟩ : ∃ table,
    (Blueprint.mk [0x1000, 0x1010, 0x1020] [⟨0x9000, 1⟩, ⟨0xa000, 2⟩]).build (fun _ => 0) =
      .ok table := ⟨_, rfl⟩
  obtain ⟨other, rebuilt⟩ : ∃ table,
    (Blueprint.mk [0x1000, 0x1010, 0x1020] [⟨0xa000, 2⟩, ⟨0x9000, 1⟩]).build (fun _ => 7) =
      .ok table := ⟨_, rfl⟩
  let machine : Machine := { heap := {
    tables := ((∅ : Std.TreeMap UInt64 Memory.Block).insert 0x20000 table).insert 0x30000 other } }
  have carries : Carries machine ⟨0, 0x20000⟩ table := by
    simp [Carries, machine, Std.TreeMap.getElem_insert]
  have carried : Carries machine ⟨7, 0x30000⟩ other := by simp [Carries, machine]
  have dispatch := interface_dispatch [0x1000, 0x1010, 0x1020] [⟨0x9000, 1⟩, ⟨0xa000, 2⟩] fun _ => 0
  obtain ⟨given, missing⟩ := dispatch.1 table built machine _ carries
  obtain ⟨found, method⟩ := given 0x9000 1 (by decide) 1 (by decide)
  have swapped := (dispatch.2 _ (fun _ => 7) (.swap _ _ [])).2 table other built rebuilt machine
    machine _ _
    carries carried
  have defined : ∀ offset, ⟨0x9000, offset⟩ ∈ [⟨0x9000, 1⟩, (⟨0xa000, 2⟩ : InterfaceEntry)] →
      offset.toNat + 1 < 3 := by
    intro offset member
    obtain rfl : offset = 1 := by simpa using member
    decide
  exact ⟨machine, found, method, missing 0xb000 (by decide) 0, swapped.2 0x9000 1 defined⟩

end ManagedRuntime.Dispatch
