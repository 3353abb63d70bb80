import ManagedRuntime.Dispatch.Image
import ManagedRuntime.Proofs.Memory.Blocks

/-! Fields that lie one behind the other in a block. None overlaps another, each is read back as it
was written, and a byte that no field covers stays as it was. -/
namespace ManagedRuntime.Dispatch
open Memory

namespace PlacedField

/-- The first position behind the field. -/
def stop (field : PlacedField) : Nat := field.position + field.bytes.length

def Covers (field : PlacedField) (position : Nat) : Prop :=
  field.position ≤ position ∧ position < field.stop

/-- No byte belongs to both. -/
def Apart (first second : PlacedField) : Prop :=
  first.stop ≤ second.position ∨ second.stop ≤ first.position

end PlacedField

def writeFields (block : Block) (fields : List PlacedField) : Block :=
  fields.foldl (fun block field => block.write field.position field.bytes) block

/-- The fields follow each other between `start` and `stop`, maybe with gaps. -/
def InOrder (start stop : Nat) : List PlacedField → Prop
  | [] => start ≤ stop
  | field :: rest => start ≤ field.position ∧ InOrder field.stop stop rest

namespace InOrder
variable {start stop : Nat} {fields : List PlacedField}

theorem weaken {earlier : Nat} (ordered : InOrder start stop fields) (before : earlier ≤ start) :
    InOrder earlier stop fields := by
  cases fields with
  | nil => exact Nat.le_trans before ordered
  | cons field rest => exact ⟨Nat.le_trans before ordered.1, ordered.2⟩

theorem append {middle : Nat} {late : List PlacedField} (early : InOrder start middle fields)
    (after : InOrder middle stop late) : InOrder start stop (fields ++ late) := by
  induction fields generalizing start with
  | nil => exact after.weaken early
  | cons field rest ih => exact ⟨early.1, ih early.2⟩

theorem start_le_stop (ordered : InOrder start stop fields) : start ≤ stop := by
  induction fields generalizing start with
  | nil => exact ordered
  | cons field rest ih =>
    have behind := ih ordered.2
    have inside : field.position ≤ field.stop := Nat.le_add_right _ _
    exact Nat.le_trans ordered.1 (Nat.le_trans inside behind)

theorem bounds (ordered : InOrder start stop fields) {field : PlacedField}
    (member : field ∈ fields) : start ≤ field.position ∧ field.stop ≤ stop := by
  induction fields generalizing start with
  | nil => contradiction
  | cons head rest ih =>
    obtain ⟨first, further⟩ := ordered
    rcases List.mem_cons.mp member with rfl | later
    · exact ⟨first, further.start_le_stop⟩
    · obtain ⟨behind, inside⟩ := ih further later
      have width : head.position ≤ head.stop := Nat.le_add_right _ _
      exact ⟨Nat.le_trans first (Nat.le_trans width behind), inside⟩

theorem apart (ordered : InOrder start stop fields) : fields.Pairwise PlacedField.Apart := by
  induction fields generalizing start with
  | nil => exact .nil
  | cons head rest ih =>
    refine .cons ?_ (ih ordered.2)
    intro field later
    exact .inl (ordered.2.bounds later).1

end InOrder

section
variable {block : Block} {fields : List PlacedField}

theorem byte_writeFields {position : Nat} (bare : ∀ field ∈ fields, ¬field.Covers position) :
    (writeFields block fields).byte position = block.byte position := by
  induction fields generalizing block with
  | nil => rfl
  | cons field rest ih =>
    have outside : ¬field.Covers position := bare field List.mem_cons_self
    have kept : (block.write field.position field.bytes).byte position = block.byte position := by
      rw [Block.byte_write]
      split
      · next reached =>
        have beyond : field.bytes.length ≤ position - field.position := by
          simp only [PlacedField.Covers, PlacedField.stop] at outside
          omega
        rw [List.getD_eq_getElem?_getD, List.getElem?_eq_none beyond, Option.getD_none]
      · rfl
    have later : (writeFields (block.write field.position field.bytes) rest).byte position =
        (block.write field.position field.bytes).byte position :=
      ih fun other member => bare other (List.mem_cons_of_mem _ member)
    exact later.trans kept

theorem size_writeFields : (writeFields block fields).size = block.size := by
  induction fields generalizing block with
  | nil => rfl
  | cons field rest ih => exact ih.trans (Block.size_write ..)

theorem read_writeFields_of_apart {field : PlacedField}
    (others : ∀ other ∈ fields, field.Apart other) :
    (writeFields block fields).read field.position field.bytes.length =
      block.read field.position field.bytes.length := by
  apply List.ext_getElem
  · simp
  · intro index inside _
    have near : index < field.bytes.length := by simpa using inside
    have bare : ∀ other ∈ fields, ¬other.Covers (field.position + index) := by
      intro other member covers
      have clear := others other member
      simp only [PlacedField.Apart, PlacedField.Covers, PlacedField.stop] at clear covers
      omega
    simp only [Block.read, List.getElem_map, List.getElem_range', Nat.one_mul]
    exact byte_writeFields bare

/-- The bytes of every field are where the field says. -/
def Holds (block : Block) (fields : List PlacedField) : Prop :=
  ∀ field ∈ fields, block.read field.position field.bytes.length = field.bytes

/-- A block that holds bytes in one piece holds them part by part. -/
theorem read_of_read_append {position : Nat} {first second : List UInt8}
    (held : block.read position (first ++ second).length = first ++ second) :
    block.read position first.length = first ∧
      block.read (position + first.length) second.length = second := by
  rw [List.length_append, Block.read_append] at held
  exact List.append_inj held (by simp)

theorem holds_writeFields (apart : fields.Pairwise PlacedField.Apart) :
    Holds (writeFields block fields) fields := by
  induction fields generalizing block with
  | nil => exact fun _ member => (List.not_mem_nil member).elim
  | cons head rest ih =>
    intro field member
    obtain ⟨others, further⟩ := List.pairwise_cons.mp apart
    rcases List.mem_cons.mp member with rfl | later
    · exact (read_writeFields_of_apart others).trans (Block.read_write ..)
    · exact ih further field later

namespace Holds
variable (held : Holds block fields)
include held

theorem agree {other : Block} {start stop : Nat} (ordered : InOrder start stop fields)
    (same : ∀ position < stop, other.byte position = block.byte position) :
    Holds other fields := by
  intro field member
  have inside : field.position + field.bytes.length ≤ stop := (ordered.bounds member).2
  have kept : other.read field.position field.bytes.length =
      block.read field.position field.bytes.length := by
    refine List.map_congr_left fun position covered => same position ?_
    have near := List.mem_range'_1.mp covered
    exact Nat.lt_of_lt_of_le near.2 inside
  exact kept.trans (held field member)

theorem readWord32 {position value : Nat} (member : ⟨position, encodeLE 4 value⟩ ∈ fields) :
    block.readWord32 position = UInt32.ofNat value := by
  have bytes := held _ member
  rw [length_encodeLE] at bytes
  rw [Block.readWord32, bytes, decodeLE_encodeLE]
  exact UInt32.toNat_inj.mp (by simp)

theorem readWord64 {position : Nat} {value : UInt64}
    (member : ⟨position, encodeLE 8 value.toNat⟩ ∈ fields) :
    block.readWord64 position = value := by
  have bytes := held _ member
  rw [length_encodeLE] at bytes
  rw [Block.readWord64, bytes, decodeLE_encodeLE]
  exact UInt64.toNat_inj.mp (by simp)

end Holds
end

/-! The fields of a dispatch table lie in the order of the format: length, slots, number of
interfaces, entries. -/

theorem slotPosition_eq (index : Nat) : slotPosition index = 8 + 8 * index := by
  simp only [slotPosition, Format.tableHeaderSize, Format.slotSize, UInt64.reduceToNat]
  omega

theorem interfacesPosition_eq (methods : Nat) : interfacesPosition methods = 8 + 8 * methods :=
  slotPosition_eq methods

theorem entryPosition_eq (methods index : Nat) :
    entryPosition methods index = 16 + 8 * methods + 16 * index := by
  simp only [entryPosition, interfacesPosition_eq, Format.interfaceHeaderSize,
    Format.interfaceEntrySize, UInt64.reduceToNat]
  omega

theorem length_entryBytes (entry : InterfaceEntry) (unset : UInt32) :
    (Blueprint.entryBytes entry unset).length = 16 := by
  simp [Blueprint.entryBytes]

/-- Position of the bytes of an entry that nothing sets. -/
def gapPosition (methods index : Nat) : Nat :=
  entryPosition methods index + Format.entryOffsetAt.toNat + 4

namespace Blueprint

/-- Of an entry, the identity and the offset are fields of the format. -/
def entryFields (methods : Nat) : Nat → List InterfaceEntry → List PlacedField
  | _, [] => []
  | index, entry :: rest =>
    let position := entryPosition methods index
    ⟨position + Format.entryInterfaceAt.toNat, encodeLE 8 entry.interface.toNat⟩ ::
      ⟨position + Format.entryOffsetAt.toNat, encodeLE 4 entry.offset.toNat⟩ ::
      entryFields methods (index + 1) rest

/-- The fields of a table, in the order of the format. -/
def fields (blueprint : Blueprint) : List PlacedField :=
  let methods := blueprint.methods.length
  ⟨0, encodeLE 4 methods⟩ :: slotFields 0 blueprint.methods ++
    ⟨interfacesPosition methods, encodeLE 4 blueprint.interfaces.length⟩ ::
      entryFields methods 0 blueprint.interfaces

theorem slotFields_inOrder (first : Nat) (methods : List UInt64) :
    InOrder (slotPosition first) (slotPosition (first + methods.length))
      (slotFields first methods) := by
  induction methods generalizing first with
  | nil => exact Nat.le_refl _
  | cons method rest ih =>
    refine ⟨Nat.le_refl _, ?_⟩
    have further := ih (first + 1)
    rw [List.length_cons, show first + (rest.length + 1) = first + 1 + rest.length by omega]
    refine further.weaken ?_
    simp only [PlacedField.stop, length_encodeLE, slotPosition_eq]
    omega

theorem entryFields_inOrder (methods first : Nat) (entries : List InterfaceEntry) :
    InOrder (entryPosition methods first) (entryPosition methods (first + entries.length))
      (entryFields methods first entries) := by
  induction entries generalizing first with
  | nil => exact Nat.le_refl _
  | cons entry rest ih =>
    have further := ih (first + 1)
    rw [List.length_cons, show first + (rest.length + 1) = first + 1 + rest.length by omega]
    refine ⟨Nat.le_add_right _ _, ?_, further.weaken ?_⟩
    · simp only [PlacedField.stop, length_encodeLE, Format.entryInterfaceAt, Format.entryOffsetAt,
        UInt64.reduceToNat]
      omega
    · simp only [PlacedField.stop, length_encodeLE, entryPosition_eq, Format.entryOffsetAt,
        UInt64.reduceToNat]
      omega

theorem entryCopies_inOrder (unset : Nat → UInt32) (methods first : Nat)
    (entries : List InterfaceEntry) :
    InOrder (entryPosition methods first) (entryPosition methods (first + entries.length))
      (entryCopies unset methods first entries) := by
  induction entries generalizing first with
  | nil => exact Nat.le_refl _
  | cons entry rest ih =>
    refine ⟨Nat.le_refl _, ?_⟩
    have further := ih (first + 1)
    rw [List.length_cons, show first + (rest.length + 1) = first + 1 + rest.length by omega]
    refine further.weaken ?_
    simp only [PlacedField.stop, length_entryBytes, entryPosition_eq]
    omega

/-- What lies in front of the entries is in order, and so is the whole if the entries are. -/
theorem inOrder_of_entries (blueprint : Blueprint) {entries : List PlacedField}
    (ordered : InOrder (entryPosition blueprint.methods.length 0)
      (entryPosition blueprint.methods.length blueprint.interfaces.length) entries) :
    InOrder 0 (16 + 8 * blueprint.methods.length + 16 * blueprint.interfaces.length)
      (⟨0, encodeLE 4 blueprint.methods.length⟩ :: slotFields 0 blueprint.methods ++
        ⟨interfacesPosition blueprint.methods.length,
          encodeLE 4 blueprint.interfaces.length⟩ :: entries) := by
  have slots := slotFields_inOrder 0 blueprint.methods
  simp only [Nat.zero_add, slotPosition_eq, entryPosition_eq] at slots ordered
  have early : InOrder 0 (8 + 8 * blueprint.methods.length)
      (⟨0, encodeLE 4 blueprint.methods.length⟩ :: slotFields 0 blueprint.methods) := by
    refine ⟨Nat.le_refl 0, slots.weaken ?_⟩
    simp [PlacedField.stop]
  refine early.append ⟨Nat.le_of_eq (interfacesPosition_eq _).symm, ordered.weaken ?_⟩
  simp only [PlacedField.stop, length_encodeLE, interfacesPosition_eq]
  omega

/-- From the first byte to the end of the last entry. -/
theorem fields_inOrder (blueprint : Blueprint) :
    InOrder 0 (16 + 8 * blueprint.methods.length + 16 * blueprint.interfaces.length)
      blueprint.fields := by
  have entries := entryFields_inOrder blueprint.methods.length 0 blueprint.interfaces
  rw [Nat.zero_add] at entries
  exact blueprint.inOrder_of_entries entries

theorem copies_inOrder (blueprint : Blueprint) (unset : Nat → UInt32) :
    InOrder 0 (16 + 8 * blueprint.methods.length + 16 * blueprint.interfaces.length)
      (blueprint.copies unset) := by
  have entries := entryCopies_inOrder unset blueprint.methods.length 0 blueprint.interfaces
  rw [Nat.zero_add] at entries
  exact blueprint.inOrder_of_entries entries

theorem mem_slotFields {methods : List UInt64} {index : Nat} (first : Nat)
    (inside : index < methods.length) :
    ⟨slotPosition (first + index), encodeLE 8 methods[index].toNat⟩ ∈ slotFields first methods := by
  induction methods generalizing first index with
  | nil => contradiction
  | cons method rest ih =>
    cases index with
    | zero => exact List.mem_cons_self
    | succ index =>
      have later := ih (first + 1) (Nat.lt_of_succ_lt_succ inside)
      rw [show first + 1 + index = first + (index + 1) by omega] at later
      exact List.mem_cons_of_mem _ later

theorem mem_entryFields {entries : List InterfaceEntry} {index : Nat} (methods first : Nat)
    (inside : index < entries.length) :
    ⟨entryPosition methods (first + index), encodeLE 8 entries[index].interface.toNat⟩ ∈
        entryFields methods first entries ∧
      ⟨entryPosition methods (first + index) + 8, encodeLE 4 entries[index].offset.toNat⟩ ∈
        entryFields methods first entries := by
  induction entries generalizing first index with
  | nil => contradiction
  | cons entry rest ih =>
    cases index with
    | zero => exact ⟨List.mem_cons_self, List.mem_cons_of_mem _ List.mem_cons_self⟩
    | succ index =>
      have later := ih (first + 1) (Nat.lt_of_succ_lt_succ inside)
      rw [show first + 1 + index = first + (index + 1) by omega] at later
      exact later.imp (fun there => List.mem_cons_of_mem _ (List.mem_cons_of_mem _ there))
        fun there => List.mem_cons_of_mem _ (List.mem_cons_of_mem _ there)

section
variable (blueprint : Blueprint)

theorem length_mem_fields : ⟨0, encodeLE 4 blueprint.methods.length⟩ ∈ blueprint.fields :=
  List.mem_append_left _ List.mem_cons_self

theorem slot_mem_fields {index : Nat} (inside : index < blueprint.methods.length) :
    ⟨slotPosition index, encodeLE 8 blueprint.methods[index].toNat⟩ ∈ blueprint.fields := by
  have member := mem_slotFields 0 inside
  rw [Nat.zero_add] at member
  exact List.mem_append_left _ (List.mem_cons_of_mem _ member)

theorem count_mem_fields :
    ⟨interfacesPosition blueprint.methods.length, encodeLE 4 blueprint.interfaces.length⟩ ∈
      blueprint.fields :=
  List.mem_append_right _ List.mem_cons_self

theorem entry_mem_fields {index : Nat} (inside : index < blueprint.interfaces.length) :
    ⟨entryPosition blueprint.methods.length index,
        encodeLE 8 blueprint.interfaces[index].interface.toNat⟩ ∈ blueprint.fields ∧
      ⟨entryPosition blueprint.methods.length index + 8,
        encodeLE 4 blueprint.interfaces[index].offset.toNat⟩ ∈ blueprint.fields := by
  have members := mem_entryFields blueprint.methods.length 0 inside
  rw [Nat.zero_add] at members
  exact members.imp (fun there => List.mem_append_right _ (List.mem_cons_of_mem _ there))
    fun there => List.mem_append_right _ (List.mem_cons_of_mem _ there)

end

/-! Entries are copied whole, and that puts their fields in place. -/

theorem holds_entryFields {block : Block} {unset : Nat → UInt32} {methods first : Nat}
    {entries : List InterfaceEntry} (held : Holds block (entryCopies unset methods first entries)) :
    Holds block (entryFields methods first entries) := by
  induction entries generalizing first with
  | nil => exact fun _ member => (List.not_mem_nil member).elim
  | cons entry rest ih =>
    have whole := held _ List.mem_cons_self
    obtain ⟨named, -⟩ := read_of_read_append whole
    obtain ⟨identity, offset⟩ := read_of_read_append named
    rw [length_encodeLE] at offset
    intro field member
    simp only [entryFields, List.mem_cons] at member
    rcases member with rfl | rfl | later
    · exact identity
    · rw [length_encodeLE]
      exact offset
    · exact ih (fun copy copied => held copy (List.mem_cons_of_mem _ copied)) field later

theorem holds_fields {block : Block} {blueprint : Blueprint} {unset : Nat → UInt32}
    (held : Holds block (blueprint.copies unset)) : Holds block blueprint.fields := by
  intro field member
  rcases List.mem_append.mp member with early | late
  · exact held field (List.mem_append_left _ early)
  · rcases List.mem_cons.mp late with rfl | entry
    · exact held _ (List.mem_append_right _ List.mem_cons_self)
    · have entries : Holds block (entryCopies unset blueprint.methods.length 0
          blueprint.interfaces) := fun copy copied =>
        held copy (List.mem_append_right _ (List.mem_cons_of_mem _ copied))
      exact holds_entryFields entries field entry

theorem mem_entryCopies {entries : List InterfaceEntry} {index : Nat} (unset : Nat → UInt32)
    (methods first : Nat) (inside : index < entries.length) :
    ⟨entryPosition methods (first + index), entryBytes entries[index] (unset (first + index))⟩ ∈
      entryCopies unset methods first entries := by
  induction entries generalizing first index with
  | nil => contradiction
  | cons entry rest ih =>
    cases index with
    | zero => exact List.mem_cons_self
    | succ index =>
      have later := ih (first + 1) (Nat.lt_of_succ_lt_succ inside)
      rw [show first + 1 + index = first + (index + 1) by omega] at later
      exact List.mem_cons_of_mem _ later

/-- Behind the offset of an entry lies what nothing set. -/
theorem gap_of_holds {block : Block} {blueprint : Blueprint} {unset : Nat → UInt32}
    (held : Holds block (blueprint.copies unset)) {index : Nat}
    (inside : index < blueprint.interfaces.length) :
    block.read (gapPosition blueprint.methods.length index) 4 =
      encodeLE 4 (unset index).toNat := by
  have member := mem_entryCopies unset blueprint.methods.length 0 inside
  rw [Nat.zero_add] at member
  have whole := held _ (List.mem_append_right _ (List.mem_cons_of_mem _ member))
  obtain ⟨-, gap⟩ := read_of_read_append whole
  simpa [gapPosition, Format.entryOffsetAt] using gap

/-- The position belongs to the bytes of an entry that nothing sets. -/
def InGap (blueprint : Blueprint) (position : Nat) : Prop :=
  ∃ index < blueprint.interfaces.length,
    gapPosition blueprint.methods.length index ≤ position ∧
      position < gapPosition blueprint.methods.length index + 4

/-- What is copied for an entry are its fields and its gap. -/
theorem covers_entryCopies {unset : Nat → UInt32} {methods first position : Nat}
    {entries : List InterfaceEntry} {copy : PlacedField}
    (member : copy ∈ entryCopies unset methods first entries) (covers : copy.Covers position) :
    (∃ field ∈ entryFields methods first entries, field.Covers position) ∨
      ∃ index < entries.length, gapPosition methods (first + index) ≤ position ∧
        position < gapPosition methods (first + index) + 4 := by
  induction entries generalizing first with
  | nil => contradiction
  | cons entry rest ih =>
    rcases List.mem_cons.mp member with rfl | later
    · simp only [PlacedField.Covers, PlacedField.stop, length_entryBytes] at covers
      rcases Nat.lt_or_ge position (entryPosition methods first + 8) with early | behind
      · refine .inl ⟨_, List.mem_cons_self, ?_⟩
        simp [PlacedField.Covers, PlacedField.stop, Format.entryInterfaceAt, covers.1, early]
      · rcases Nat.lt_or_ge position (entryPosition methods first + 12) with inner | last
        · refine .inl ⟨_, List.mem_cons_of_mem _ List.mem_cons_self, ?_⟩
          simp only [PlacedField.Covers, PlacedField.stop, length_encodeLE, Format.entryOffsetAt,
            UInt64.reduceToNat]
          omega
        · refine .inr ⟨0, Nat.succ_pos _, ?_⟩
          simp only [gapPosition, Format.entryOffsetAt, UInt64.reduceToNat, Nat.add_zero]
          omega
    · rcases ih later with ⟨field, fields, covered⟩ | ⟨index, inside, gap⟩
      · exact .inl ⟨field, List.mem_cons_of_mem _ (List.mem_cons_of_mem _ fields), covered⟩
      · refine .inr ⟨index + 1, Nat.succ_lt_succ inside, ?_⟩
        rwa [show first + (index + 1) = first + 1 + index by omega]

theorem covers_copies {blueprint : Blueprint} {unset : Nat → UInt32} {position : Nat}
    {copy : PlacedField} (member : copy ∈ blueprint.copies unset)
    (covers : copy.Covers position) :
    (∃ field ∈ blueprint.fields, field.Covers position) ∨ blueprint.InGap position := by
  rcases List.mem_append.mp member with early | late
  · exact .inl ⟨copy, List.mem_append_left _ early, covers⟩
  · rcases List.mem_cons.mp late with rfl | entry
    · exact .inl ⟨_, List.mem_append_right _ List.mem_cons_self, covers⟩
    · rcases covers_entryCopies entry covers with ⟨field, fields, covered⟩ | ⟨index, inside, gap⟩
      · exact .inl ⟨field, List.mem_append_right _ (List.mem_cons_of_mem _ fields), covered⟩
      · exact .inr ⟨index, inside, by rwa [Nat.zero_add] at gap⟩

end Blueprint

end ManagedRuntime.Dispatch
