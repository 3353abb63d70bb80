import ManagedRuntime.Dispatch.Static
import ManagedRuntime.Proofs.Dispatch.Lookups
import ManagedRuntime.Proofs.Memory.Blocks

/-! A table that exists before the process starts is the table that would be built from its slots,
byte for byte, gaps included. The record and the fields of the format are laid out apart from each
other; that they agree is what dispatch on such tables rests on. -/
namespace ManagedRuntime.Dispatch
open Memory

theorem writeFields_cons (block : Block) (field : PlacedField) (rest : List PlacedField) :
    writeFields block (field :: rest) =
      writeFields (block.write field.position field.bytes) rest := rfl

theorem writeFields_append (block : Block) (early late : List PlacedField) :
    writeFields block (early ++ late) = writeFields (writeFields block early) late :=
  List.foldl_append

/-- Slots one by one are the slots in one go. -/
theorem writeFields_slotFields (block : Block) (first : Nat) (methods : List UInt64) :
    writeFields block (Blueprint.slotFields first methods) =
      block.write (slotPosition first)
        (methods.flatMap fun method => encodeLE 8 method.toNat) := by
  induction methods generalizing block first with
  | nil => rfl
  | cons method rest ih =>
    have next : slotPosition first + 8 = slotPosition (first + 1) := by
      simp only [slotPosition_eq]
      omega
    rw [List.flatMap_cons, Block.write_append, length_encodeLE, next, ← ih]
    rfl

theorem length_slotBytes (methods : List UInt64) :
    (methods.flatMap fun method => encodeLE 8 method.toNat).length = 8 * methods.length := by
  induction methods with
  | nil => rfl
  | cons method rest ih =>
    rw [List.flatMap_cons, List.length_append, ih, length_encodeLE, List.length_cons]
    omega

/-- The record puts its fields where the format has them. -/
theorem placeFields_static (methods : List UInt64) :
    placeFields 0 [.word32 methods.length, .words64 methods, .word32 0] =
      ([(0, encodeLE 4 methods.length),
        (slotPosition 0, methods.flatMap fun method => encodeLE 8 method.toNat),
        (interfacesPosition methods.length, encodeLE 4 0)], 12 + 8 * methods.length) := by
  have length : roundUp 0 4 = 0 := rfl
  have slots : roundUp (0 + 4) 8 = 8 := rfl
  have count : roundUp (8 + 8 * methods.length) 4 = 8 + 8 * methods.length := by
    simp only [roundUp]
    omega
  have stop : 8 + 8 * methods.length + 4 = 12 + 8 * methods.length := by omega
  simp only [placeFields, RecordField.word32, RecordField.words64, length_encodeLE,
    length_slotBytes, length, slots, count, stop, slotPosition_eq, interfacesPosition_eq,
    Nat.mul_zero, Nat.add_zero]

/-- Without entries, nothing follows the number of interfaces but the gap that aligns the whole. -/
theorem staticTable_eq (methods : List UInt64) : staticTable methods =
    writeFields (.zeroed (16 + 8 * methods.length)) (Blueprint.mk methods []).fields := by
  have whole : roundUp (12 + 8 * methods.length) 8 = 16 + 8 * methods.length := by
    simp only [roundUp]
    omega
  have align : ([RecordField.word32 methods.length, .words64 methods, .word32 0].map
      (·.align)).foldl max 1 = 8 := rfl
  have fields : (Blueprint.mk methods []).fields =
      ⟨0, encodeLE 4 methods.length⟩ :: (Blueprint.slotFields 0 methods ++
        [⟨interfacesPosition methods.length, encodeLE 4 0⟩]) := rfl
  rw [fields, writeFields_cons, writeFields_append, writeFields_slotFields, staticTable,
    recordBlock, placeFields_static, align]
  dsimp only
  rw [whole]
  rfl

theorem build_eq_staticTable {methods : List UInt64} (few : methods.length < UInt32.size)
    (unset : Nat → UInt32) : (Blueprint.mk methods []).build unset = .ok (staticTable methods) := by
  have wellFormed : (Blueprint.mk methods []).WellFormed := ⟨.nil, nofun⟩
  have none : (Blueprint.mk methods []).interfaces.length < UInt32.size := Nat.zero_lt_of_lt few
  obtain ⟨table, built⟩ := Blueprint.exists_build_iff.mpr ⟨few, none, wellFormed⟩
  obtain ⟨-, -, -, -, layout, -, whole, written⟩ := Blueprint.build_eq_ok built
  rw [built, written, whole, staticTable_eq]
  rfl

/-- What a table with these slots and without interfaces shows, by itself and to dispatch on a
receiver that points to it. -/
structure Serves (memory : Block) (methods : List UInt64) : Prop where
  shown : Table.Shows memory methods []
  unimplemented : ∀ interface, Table.find? memory interface = none
  virtual : ∀ machine receiver, Carries machine receiver memory →
    ∀ index, (inside : index < methods.length) →
      machine.vtableLookup receiver index = methods[index]
  interface : ∀ machine receiver, Carries machine receiver memory →
    ∀ interface index, machine.itableLookup receiver interface index = none

theorem serves_of_holds {memory : Block} {methods : List UInt64}
    (held : Holds memory (Blueprint.mk methods []).fields) (few : methods.length < UInt32.size) :
    Serves memory methods := by
  have shown : Table.Shows memory methods [] := Table.shows_of_holds held few
    (Nat.zero_lt_of_lt few) .nil
  have unimplemented (interface : UInt64) : Table.find? memory interface = none := by
    cases found : Table.find? memory interface with
    | none => rfl
    | some offset => exact absurd ((shown.find? interface offset).mp found) List.not_mem_nil
  refine ⟨shown, unimplemented, ?_, ?_⟩
  · intro machine receiver carries index inside
    rw [Machine.vtableLookup, Heap.table, carries, Option.getD_some]
    exact Table.method_of_holds held inside
  · intro machine receiver carries interface index
    rw [Machine.itableLookup, Heap.table, carries, Option.getD_some, Table.interfaceMethod?,
      unimplemented, Option.map_none]

/-- A static table is the table that is built from its slots and no interfaces. Both serve alike,
and so does any memory that begins with their bytes, whatever lies behind the last of them. -/
theorem static_same_format (methods : List UInt64) (few : methods.length < UInt32.size)
    (unset : Nat → UInt32) :
    let size := 16 + 8 * methods.length
    ∃ table, (Blueprint.mk methods []).build unset = .ok table ∧
      table.size = size ∧ (staticTable methods).size = size ∧
      (staticTable methods).bytes = table.bytes ∧
      (∀ position, (∀ field ∈ (Blueprint.mk methods []).fields, ¬field.Covers position) →
        (staticTable methods).byte position = 0) ∧
      Serves (staticTable methods) methods ∧ Serves table methods ∧
      ∀ memory : Block,
        (∀ position < size, memory.byte position = (staticTable methods).byte position) →
          Serves memory methods := by
  intro size
  have written := staticTable_eq methods
  have ordered : InOrder 0 size (Blueprint.mk methods []).fields :=
    (Blueprint.mk methods []).fields_inOrder
  have held : Holds (staticTable methods) (Blueprint.mk methods []).fields :=
    written ▸ holds_writeFields ordered.apart
  have whole : (staticTable methods).size = size := by rw [written, size_writeFields]; rfl
  have serves := serves_of_holds held few
  refine ⟨staticTable methods, build_eq_staticTable few unset, whole, whole, rfl, ?_, serves,
    serves, ?_⟩
  · intro position bare
    rw [written, byte_writeFields bare, Block.byte_zeroed]
  · exact fun memory same => serves_of_holds (held.agree ordered same) few

/-- Two slots, and a class without any, where the interface part begins behind a gap. -/
theorem static_same_format_few :
    (∃ table, (Blueprint.mk [0x1000, 0x1010] []).build (fun _ => 0) = .ok table ∧ table.size = 32 ∧
        (staticTable [0x1000, 0x1010]).bytes = table.bytes ∧
        Table.methods table = [0x1000, 0x1010]) ∧
      ∃ table, (Blueprint.mk [] []).build (fun _ => 0) = .ok table ∧ table.size = 16 ∧
        (staticTable []).bytes = table.bytes ∧ (staticTable []).byte 4 = 0 ∧
        Table.interfacesAt (staticTable []) = 8 := by
  obtain ⟨two, built, size, -, same, -, -, served, -⟩ :=
    static_same_format [0x1000, 0x1010] (by decide) fun _ => 0
  obtain ⟨none, empty, least, -, alike, gaps, static, -, -⟩ :=
    static_same_format [] (by decide) fun _ => 0
  have gap := gaps 4 (by unfold PlacedField.Covers PlacedField.stop; decide)
  exact ⟨⟨two, built, size, same, served.shown.methods⟩,
    none, empty, least, alike, gap, static.shown.interfacesAt⟩

end ManagedRuntime.Dispatch
