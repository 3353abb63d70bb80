import ManagedRuntime.Dispatch.Blueprint
import ManagedRuntime.Memory.Block

/-! The binary form of a dispatch table: a length, the slots, and behind the last slot the
interface part with a length and entries of its own. Writing and reading are separate. -/
namespace ManagedRuntime.Dispatch
open Memory

/-- One value of a table and the position of its first byte. -/
structure PlacedField where
  position : Nat
  bytes : List UInt8
deriving DecidableEq, Repr

def slotPosition (index : Nat) : Nat :=
  Format.tableHeaderSize.toNat + index * Format.slotSize.toNat

/-- The interface part begins right behind the last slot. -/
def interfacesPosition (methods : Nat) : Nat := slotPosition methods

def entryPosition (methods index : Nat) : Nat :=
  interfacesPosition methods + Format.interfaceHeaderSize.toNat +
    index * Format.interfaceEntrySize.toNat

namespace Blueprint

def slotFields : Nat → List UInt64 → List PlacedField
  | _, [] => []
  | index, method :: rest =>
    ⟨slotPosition index, encodeLE 8 method.toNat⟩ :: slotFields (index + 1) rest

/-- An entry as it lies in memory. Nothing sets the four bytes behind the offset. -/
def entryBytes (entry : InterfaceEntry) (unset : UInt32) : List UInt8 :=
  encodeLE 8 entry.interface.toNat ++ encodeLE 4 entry.offset.toNat ++ encodeLE 4 unset.toNat

/-- Entries are copied whole. -/
def entryCopies (unset : Nat → UInt32) (methods : Nat) :
    Nat → List InterfaceEntry → List PlacedField
  | _, [] => []
  | index, entry :: rest =>
    ⟨entryPosition methods index, entryBytes entry (unset index)⟩ ::
      entryCopies unset methods (index + 1) rest

/-- Everything that is put into a table, in the order it is written. -/
def copies (blueprint : Blueprint) (unset : Nat → UInt32) : List PlacedField :=
  let methods := blueprint.methods.length
  ⟨0, encodeLE 4 methods⟩ :: slotFields 0 blueprint.methods ++
    ⟨interfacesPosition methods, encodeLE 4 blueprint.interfaces.length⟩ ::
      entryCopies unset methods 0 blueprint.interfaces

/-- Writes the table into zeroed memory. Nothing is written when the blueprint is refused. What
nothing sets in an entry comes along with it. -/
def build (blueprint : Blueprint) (unset : Nat → UInt32) : Except LayoutFault Block := do
  checkLength blueprint.methods.length
  checkLength blueprint.interfaces.length
  checkEntries blueprint.methods.length [] blueprint.interfaces
  let layout ← tableLayout (UInt64.ofNat blueprint.methods.length)
    (UInt64.ofNat blueprint.interfaces.length)
  pure ((blueprint.copies unset).foldl (fun block copy => block.write copy.position copy.bytes)
    (Block.zeroed layout.size.toNat))

end Blueprint

namespace Table

/-- Number of slots. -/
def length (table : Block) : Nat := (table.readWord32 0).toNat

/-- The slot at `index`; compiled code never asks beyond the last one. -/
def method (table : Block) (index : Nat) : UInt64 :=
  table.readWord64 (Format.tableHeaderSize.toNat + index * Format.slotSize.toNat)

def methods (table : Block) : List UInt64 := (List.range (length table)).map (method table)

/-- Where the interface part begins, from the length the table itself states. -/
def interfacesAt (table : Block) : Nat :=
  Format.tableHeaderSize.toNat + length table * Format.slotSize.toNat

def interfaceCount (table : Block) : Nat := (table.readWord32 (interfacesAt table)).toNat

def entry (table : Block) (index : Nat) : InterfaceEntry :=
  let position := interfacesAt table + Format.interfaceHeaderSize.toNat +
    index * Format.interfaceEntrySize.toNat
  ⟨table.readWord64 (position + Format.entryInterfaceAt.toNat),
    table.readWord32 (position + Format.entryOffsetAt.toNat)⟩

def entries (table : Block) : List InterfaceEntry :=
  (List.range (interfaceCount table)).map (entry table)

/-- The offset of the first entry for `interface`. -/
def find? (table : Block) (interface : UInt64) : Option UInt32 :=
  ((entries table).find? (·.interface == interface)).map (·.offset)

/-- Interface dispatch: the slot `index` places behind the start of the interface's methods. -/
def interfaceMethod? (table : Block) (interface : UInt64) (index : Nat) : Option UInt64 :=
  (find? table interface).map fun offset => method table (offset.toNat + index)

def inline (table : Block) : String :=
  let listing (items : List String) := "[" ++ ", ".intercalate items ++ "]"
  "VTable \x7b methods: " ++
    listing ((methods table).map fun method => Text.hexadecimal method.toNat) ++
    ", interfaces: " ++ listing ((entries table).map fun entry =>
      "ITableEntry \x7b interface: " ++ Text.hexadecimal entry.interface.toNat ++ ", offset: " ++
        toString entry.offset.toNat ++ " \x7d") ++ " \x7d"

end Table

end ManagedRuntime.Dispatch
