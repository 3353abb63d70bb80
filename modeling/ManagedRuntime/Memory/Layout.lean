import ManagedRuntime.Memory.Word

/-! Size and alignment of memory blocks, and the sizes and offsets compiled code relies on. -/
namespace ManagedRuntime.Memory

structure Layout where
  size : UInt64
  align : UInt64
deriving DecidableEq, Repr

def roundUp (size align : Nat) : Nat :=
  (size + align - 1) / align * align

/-- The largest size a block may have once it is rounded up to its alignment. -/
def Layout.maxSize : Nat := (1 <<< 63) - 1

def Layout.make? (size align : UInt64) : Option Layout :=
  if roundUp size.toNat align.toNat ≤ maxSize then some ⟨size, align⟩ else none

namespace Format

def referenceSize : UInt64 := 16
def referenceObjectAt : UInt64 := 0
def referenceTableAt : UInt64 := 8
/-- The prefix of every object; fields follow it. -/
def objectHeaderSize : UInt64 := 48
def objectAlign : UInt64 := 16
/-- The prefix of an array's fields; elements follow it. -/
def arrayHeaderSize : UInt64 := 16
def arrayLengthAt : UInt64 := 0
def arrayWidthAt : UInt64 := 8
def arrayElementsAt : UInt64 := 16
def tableHeaderSize : UInt64 := 8
def slotSize : UInt64 := 8
def interfaceHeaderSize : UInt64 := 8
def interfaceEntrySize : UInt64 := 16
def entryInterfaceAt : UInt64 := 0
def entryOffsetAt : UInt64 := 8
def tableAlign : UInt64 := 8

end Format

/-- Layout of an object with `size` bytes of fields. -/
def objectLayout? (size : UInt64) : Option Layout := do
  let total ← checkedAdd? Format.objectHeaderSize size
  Layout.make? total Format.objectAlign

/-- Layout of a dispatch table with `methods` slots and `interfaces` entries. -/
def tableLayout? (methods interfaces : UInt64) : Option Layout := do
  let slots ← checkedMul? methods Format.slotSize
  let entries ← checkedMul? interfaces Format.interfaceEntrySize
  let withSlots ← checkedAdd? (Format.tableHeaderSize + Format.interfaceHeaderSize) slots
  let size ← checkedAdd? withSlots entries
  Layout.make? size Format.tableAlign

end ManagedRuntime.Memory
