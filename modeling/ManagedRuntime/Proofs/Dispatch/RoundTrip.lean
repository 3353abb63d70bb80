import ManagedRuntime.Proofs.Dispatch.Acceptance

/-! What was described call by call is what the views show, once the table is built. -/
namespace ManagedRuntime.Dispatch
open Memory

/-- One call that adds to a blueprint. -/
inductive Addition where
  | method (method : UInt64)
  | methods (methods : List UInt64)
  | interface (interface : UInt64) (offset : UInt32)
deriving DecidableEq, Repr

namespace Addition

def slots : Addition → List UInt64
  | .method slot => [slot]
  | .methods slots => slots
  | .interface _ _ => []

def entries : Addition → List InterfaceEntry
  | .interface identity offset => [⟨identity, offset⟩]
  | _ => []

end Addition

namespace Blueprint

def add (blueprint : Blueprint) : Addition → Blueprint
  | .method method => blueprint.addMethod method
  | .methods methods => blueprint.addMethods methods
  | .interface interface offset => blueprint.addInterface interface offset

def ofAdditions (additions : List Addition) : Blueprint := additions.foldl add {}

/-- Slots and entries keep the order of the calls, however these mix. -/
theorem foldl_add (blueprint : Blueprint) (additions : List Addition) :
    additions.foldl add blueprint =
      ⟨blueprint.methods ++ additions.flatMap Addition.slots,
        blueprint.interfaces ++ additions.flatMap Addition.entries⟩ := by
  induction additions generalizing blueprint with
  | nil => simp
  | cons addition rest ih =>
    rw [List.foldl_cons, ih]
    cases addition with
    | method => simp [add, addMethod, Addition.slots, Addition.entries]
    | methods => simp [add, addMethods, Addition.slots, Addition.entries]
    | interface => simp [add, addInterface, Addition.slots, Addition.entries]

theorem ofAdditions_eq (additions : List Addition) :
    ofAdditions additions =
      ⟨additions.flatMap Addition.slots, additions.flatMap Addition.entries⟩ :=
  foldl_add {} additions

end Blueprint

/-- At most one entry matches, so the first one is the one. -/
theorem find?_eq_some_iff {entries : List InterfaceEntry} {interface : UInt64} {offset : UInt32}
    (distinct : (entries.map InterfaceEntry.interface).Nodup) :
    (entries.find? (·.interface == interface)).map (·.offset) = some offset ↔
      ⟨interface, offset⟩ ∈ entries := by
  induction entries with
  | nil => simp
  | cons entry rest ih =>
    obtain ⟨unlike, distinct⟩ := List.nodup_cons.mp distinct
    by_cases same : entry.interface = interface
    · have absent : ⟨interface, offset⟩ ∉ rest := fun later =>
        unlike (List.mem_map.mpr ⟨_, later, same.symm⟩)
      rw [List.find?_cons_of_pos (by simpa using same), List.mem_cons, Option.map_some,
        Option.some.injEq]
      constructor
      · rintro rfl
        exact .inl (congrArg (InterfaceEntry.mk · entry.offset) same.symm)
      · rintro (rfl | later)
        · rfl
        · exact absurd later absent
    · have other : (⟨interface, offset⟩ : InterfaceEntry) ≠ entry := fun equal =>
        same (congrArg InterfaceEntry.interface equal).symm
      rw [List.find?_cons_of_neg (by simpa using same), ih distinct, List.mem_cons]
      exact ⟨.inr, fun member => member.resolve_left other⟩

namespace Table

/-- Every view gives back these slots and these entries. -/
structure Shows (table : Block) (slots : List UInt64) (interfaces : List InterfaceEntry) :
    Prop where
  length : Table.length table = slots.length
  methods : Table.methods table = slots
  interfacesAt : Table.interfacesAt table = 8 + 8 * slots.length
  interfaceCount : Table.interfaceCount table = interfaces.length
  entries : Table.entries table = interfaces
  find? : ∀ interface offset,
    Table.find? table interface = some offset ↔ ⟨interface, offset⟩ ∈ interfaces

section
variable {table : Block} {blueprint : Blueprint} (held : Holds table blueprint.fields)
  (fewSlots : blueprint.methods.length < UInt32.size)
  (fewInterfaces : blueprint.interfaces.length < UInt32.size)
include held

theorem method_of_holds {index : Nat} (inside : index < blueprint.methods.length) :
    method table index = blueprint.methods[index] :=
  held.readWord64 (blueprint.slot_mem_fields inside)

include fewSlots

theorem length_of_holds : length table = blueprint.methods.length := by
  rw [length, held.readWord32 blueprint.length_mem_fields]
  exact UInt32.toNat_ofNat_of_lt' fewSlots

theorem methods_of_holds : methods table = blueprint.methods := by
  refine List.ext_getElem (by simp [methods, length_of_holds held fewSlots]) ?_
  intro index _ inside
  simpa [methods] using method_of_holds held inside

theorem interfacesAt_of_holds :
    interfacesAt table = interfacesPosition blueprint.methods.length := by
  rw [interfacesAt, length_of_holds held fewSlots, interfacesPosition, slotPosition]

theorem entry_of_holds {index : Nat} (inside : index < blueprint.interfaces.length) :
    entry table index = blueprint.interfaces[index] := by
  obtain ⟨identity, offset⟩ := blueprint.entry_mem_fields inside
  have position : interfacesAt table + Format.interfaceHeaderSize.toNat +
      index * Format.interfaceEntrySize.toNat = entryPosition blueprint.methods.length index := by
    rw [interfacesAt_of_holds held fewSlots, entryPosition]
  have identityRead := held.readWord64 identity
  have offsetRead := held.readWord32 offset
  rw [UInt32.ofNat_toNat] at offsetRead
  simp only [entry, position]
  exact congr (congrArg InterfaceEntry.mk identityRead) offsetRead

include fewInterfaces

theorem interfaceCount_of_holds : interfaceCount table = blueprint.interfaces.length := by
  rw [interfaceCount, interfacesAt_of_holds held fewSlots,
    held.readWord32 blueprint.count_mem_fields]
  exact UInt32.toNat_ofNat_of_lt' fewInterfaces

theorem entries_of_holds : entries table = blueprint.interfaces := by
  have count := interfaceCount_of_holds held fewSlots fewInterfaces
  refine List.ext_getElem (by simp [entries, count]) ?_
  intro index _ inside
  simpa [entries] using entry_of_holds held fewSlots inside

theorem shows_of_holds
    (distinct : (blueprint.interfaces.map InterfaceEntry.interface).Nodup) :
    Shows table blueprint.methods blueprint.interfaces where
  length := length_of_holds held fewSlots
  methods := methods_of_holds held fewSlots
  interfacesAt := (interfacesAt_of_holds held fewSlots).trans (interfacesPosition_eq _)
  interfaceCount := interfaceCount_of_holds held fewSlots fewInterfaces
  entries := entries_of_holds held fewSlots fewInterfaces
  find? interface offset := by
    rw [Table.find?, entries_of_holds held fewSlots fewInterfaces]
    exact find?_eq_some_iff distinct

end
end Table

/-- The views show what was added call by call, whatever lies behind the table and in the gaps of
its entries. They and the writer keep to the bytes of the layout, and neither the fields nor what is
written overlap. Between the fields there is nothing but zeros, except for the gaps, where whatever
was copied with the entries stays. -/
theorem build_round_trip {additions : List Addition} {unset : Nat → UInt32} {table : Block}
    (built : (Blueprint.ofAdditions additions).build unset = .ok table) :
    let slots := additions.flatMap Addition.slots
    let interfaces := additions.flatMap Addition.entries
    let blueprint := Blueprint.ofAdditions additions
    let copies := blueprint.copies unset
    let size := 16 + 8 * slots.length + 16 * interfaces.length
    (∃ layout, tableLayout (UInt64.ofNat slots.length) (UInt64.ofNat interfaces.length) =
        .ok layout ∧ layout.size.toNat = size ∧ table.size = size) ∧
      Table.Shows table slots interfaces ∧ 8 ∣ Table.interfacesAt table ∧
      (∀ memory : Block, (∀ position < size, memory.byte position = table.byte position) →
        Table.Shows memory slots interfaces) ∧
      table = writeFields (.zeroed size) copies ∧
      (∀ copy ∈ copies, copy.stop ≤ size) ∧ copies.Pairwise PlacedField.Apart ∧
      Holds table blueprint.fields ∧
      (∀ field ∈ blueprint.fields, field.stop ≤ size) ∧
      blueprint.fields.Pairwise PlacedField.Apart ∧
      (∀ position, (∀ field ∈ blueprint.fields, ¬field.Covers position) →
        ¬blueprint.InGap position → table.byte position = 0) ∧
      ∀ index < interfaces.length,
        table.read (gapPosition slots.length index) 4 = encodeLE 4 (unset index).toNat := by
  intro slots interfaces blueprint copies size
  obtain ⟨methods, entries⟩ : blueprint.methods = slots ∧ blueprint.interfaces = interfaces := by
    have described : blueprint = ⟨slots, interfaces⟩ := Blueprint.ofAdditions_eq additions
    rw [described]
    exact ⟨rfl, rfl⟩
  obtain ⟨fewSlots, fewInterfaces, distinct, -, layout, found, whole, written⟩ :=
    Blueprint.build_eq_ok built
  have copied := blueprint.copies_inOrder unset
  have ordered := blueprint.fields_inOrder
  have put : Holds table copies := written ▸ holds_writeFields copied.apart
  have held : Holds table blueprint.fields := Blueprint.holds_fields put
  have shown (memory : Block) (kept : Holds memory blueprint.fields) :
      Table.Shows memory slots interfaces := by
    have shows := Table.shows_of_holds kept fewSlots fewInterfaces distinct
    rwa [methods, entries] at shows
  rw [show Blueprint.ofAdditions additions = blueprint from rfl] at found whole written
  rw [methods, entries] at found whole copied ordered
  rw [whole] at written
  refine ⟨⟨layout, found, whole, ?_⟩, shown table held, ?_, ?_, written, ?_, copied.apart, held, ?_,
    ordered.apart, ?_, ?_⟩
  · rw [written, size_writeFields, Block.zeroed]
  · rw [(shown table held).interfacesAt]
    exact Nat.dvd_add (Nat.dvd_refl 8) (Nat.dvd_mul_right 8 _)
  · exact fun memory same => shown memory (held.agree ordered same)
  · exact fun copy member => (copied.bounds member).2
  · exact fun field member => (ordered.bounds member).2
  · intro position bare outside
    rw [written, byte_writeFields, Block.byte_zeroed]
    intro copy member covers
    rcases Blueprint.covers_copies member covers with ⟨field, present, covered⟩ | gap
    · exact bare field present covered
    · exact outside gap
  · intro index inside
    have gap := Blueprint.gap_of_holds put (entries.symm ▸ inside)
    rwa [methods] at gap

/-- What a table with one slot and one interface is made from. -/
def gapped : List Addition := [.method 0x1000, .interface 0x9000 1]

/-- A byte that no field covers need not be zero. -/
theorem build_leaves_gap : ∃ table, (Blueprint.ofAdditions gapped).build (fun _ => 0xa5) =
      .ok table ∧
    (∀ field ∈ (Blueprint.ofAdditions gapped).fields, ¬field.Covers 36) ∧
    table.byte 36 = 0xa5 := by
  have built : (Blueprint.ofAdditions gapped).build (fun _ => 0xa5) = .ok _ := rfl
  refine ⟨_, built, ?_, ?_⟩
  · unfold PlacedField.Covers PlacedField.stop
    decide
  · rfl

/-- The byte behind the number of slots belongs to no field and to no gap of an entry. -/
theorem build_round_trip_interleaved :
    ∃ table, (Blueprint.ofAdditions [.method 0x1000, .interface 0x9000 1,
        .methods [0x1010, 0x1020], .interface 0xa000 3]).build (fun _ => 0xa5) = .ok table ∧
      Table.methods table = [0x1000, 0x1010, 0x1020] ∧ Table.interfacesAt table = 32 ∧
      Table.entries table = [⟨0x9000, 1⟩, ⟨0xa000, 3⟩] ∧
      Table.find? table 0xa000 = some 3 ∧ table.byte 4 = 0 ∧
      table.read 52 4 = [0xa5, 0, 0, 0] := by
  have built : (Blueprint.ofAdditions [.method 0x1000, .interface 0x9000 1,
      .methods [0x1010, 0x1020], .interface 0xa000 3]).build (fun _ => 0xa5) = .ok _ := rfl
  obtain ⟨-, shown, -, -, -, -, -, -, -, -, zeros, gaps⟩ := build_round_trip built
  have found := (shown.find? 0xa000 3).mpr (by decide)
  have zero := zeros 4 (by unfold PlacedField.Covers PlacedField.stop; decide)
    (by unfold Blueprint.InGap; decide)
  exact ⟨_, built, shown.methods, shown.interfacesAt, shown.entries, found, zero,
    gaps 0 (by decide)⟩

end ManagedRuntime.Dispatch
