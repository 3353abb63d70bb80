import Std.Data.TreeMap
import ManagedRuntime.Memory.Word

/-! Zero-filled blocks of bytes. Only bytes that were written take room. -/
namespace ManagedRuntime.Memory

structure Block where
  size : Nat
  written : Std.TreeMap Nat UInt8

namespace Block

def zeroed (size : Nat) : Block := ⟨size, ∅⟩

def byte (block : Block) (position : Nat) : UInt8 :=
  block.written.getD position 0

def setByte (block : Block) (position : Nat) (value : UInt8) : Block :=
  { block with written := block.written.insert position value }

/-- The `count` bytes from `position` on. -/
def read (block : Block) (position count : Nat) : List UInt8 :=
  (List.range' position count).map block.byte

def write (block : Block) (position : Nat) : List UInt8 → Block
  | [] => block
  | value :: rest => (block.setByte position value).write (position + 1) rest

def readWord32 (block : Block) (position : Nat) : UInt32 :=
  UInt32.ofNat (decodeLE (block.read position 4))

def readWord64 (block : Block) (position : Nat) : UInt64 :=
  UInt64.ofNat (decodeLE (block.read position 8))

def writeWord32 (block : Block) (position : Nat) (value : UInt32) : Block :=
  block.write position (encodeLE 4 value.toNat)

def writeWord64 (block : Block) (position : Nat) (value : UInt64) : Block :=
  block.write position (encodeLE 8 value.toNat)

def bytes (block : Block) : List UInt8 := block.read 0 block.size

@[simp] theorem byte_zeroed (size position : Nat) : (zeroed size).byte position = 0 := by
  simp [zeroed, byte]

theorem byte_setByte (block : Block) (position other : Nat) (value : UInt8) :
    (block.setByte position value).byte other =
      if position = other then value else block.byte other := by
  simp [setByte, byte, Std.TreeMap.getD_insert]

@[simp] theorem size_setByte (block : Block) (position : Nat) (value : UInt8) :
    (block.setByte position value).size = block.size := rfl

@[simp] theorem size_write (block : Block) (position : Nat) (values : List UInt8) :
    (block.write position values).size = block.size := by
  induction values generalizing block position with
  | nil => rfl
  | cons value rest ih => simp [write, ih]

/-- Bytes outside of what is written stay. -/
theorem byte_write (block : Block) (position other : Nat) (values : List UInt8) :
    (block.write position values).byte other =
      if position ≤ other then values.getD (other - position) (block.byte other)
      else block.byte other := by
  induction values generalizing block position with
  | nil => simp [write]
  | cons value rest ih =>
    rw [write, ih, byte_setByte]
    rcases Nat.lt_trichotomy position other with below | rfl | above
    · have step : other - position = other - (position + 1) + 1 := by omega
      simp [step, Nat.ne_of_lt below, Nat.le_of_lt below, Nat.succ_le_of_lt below]
    · rw [if_neg (Nat.not_succ_le_self position), if_pos rfl, if_pos (Nat.le_refl position)]
      simp
    · simp [Nat.ne_of_gt above, Nat.not_le_of_lt above,
        Nat.not_le_of_lt (Nat.lt_succ_of_lt above)]

@[simp] theorem length_read (block : Block) (position count : Nat) :
    (block.read position count).length = count := by
  simp [read]

/-- What was written is read back. -/
theorem read_write (block : Block) (position : Nat) (values : List UInt8) :
    (block.write position values).read position values.length = values := by
  apply List.ext_getElem
  · simp
  · intro index _ inside
    simp [read, byte_write, inside]

theorem readWord32_writeWord32 (block : Block) (position : Nat) (value : UInt32) :
    (block.writeWord32 position value).readWord32 position = value := by
  have bytes := read_write block position (encodeLE 4 value.toNat)
  rw [length_encodeLE] at bytes
  rw [readWord32, writeWord32, bytes, decodeLE_encodeLE]
  exact UInt32.toNat_inj.mp (by simp)

/-- A write leaves what lies before or behind it. -/
theorem read_write_of_disjoint (block : Block) (position start count : Nat) (values : List UInt8)
    (apart : start + count ≤ position ∨ position + values.length ≤ start) :
    (block.write position values).read start count = block.read start count := by
  apply List.ext_getElem
  · simp
  · intro index inside _
    have near : index < count := by simpa using inside
    simp only [read, List.getElem_map, List.getElem_range', byte_write, Nat.one_mul]
    split
    case isTrue reached =>
      rw [List.getD_eq_getElem?_getD, List.getElem?_eq_none (by omega), Option.getD_none]
    case isFalse => rfl

end Block

end ManagedRuntime.Memory
