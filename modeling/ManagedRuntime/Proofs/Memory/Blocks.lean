import ManagedRuntime.Memory.Block

/-! Reads and writes of a block in parts: one behind the other they are one, and a part of what was
written reads as that part. -/
namespace ManagedRuntime.Memory.Block

theorem write_append (block : Block) (position : Nat) (first second : List UInt8) :
    block.write position (first ++ second) =
      (block.write position first).write (position + first.length) second := by
  induction first generalizing block position with
  | nil => rfl
  | cons value rest ih =>
    have shifted : position + (rest.length + 1) = position + 1 + rest.length := by omega
    rw [List.cons_append, Block.write, ih, List.length_cons, shifted, Block.write]

theorem read_append (block : Block) (position first second : Nat) :
    block.read position (first + second) =
      block.read position first ++ block.read (position + first) second := by
  rw [read, read, read, ← List.map_append, List.range'_append_1]

theorem read_write_part (block : Block) (position : Nat) (values : List UInt8)
    {start count : Nat} (inside : start + count ≤ values.length) :
    (block.write position values).read (position + start) count =
      (values.drop start).take count := by
  apply List.ext_getElem
  · simp only [length_read, List.length_take, List.length_drop]
    omega
  · intro index near _
    rw [length_read] at near
    have there : position + start + index - position = start + index := by omega
    simp only [read, List.getElem_map, List.getElem_range', Nat.one_mul, byte_write,
      List.getElem_take, List.getElem_drop, there]
    rw [if_pos (by omega), List.getD_eq_getElem?_getD, List.getElem?_eq_getElem (by omega),
      Option.getD_some]

theorem readWord64_of_read {block : Block} {position : Nat} {value : UInt64}
    (held : block.read position 8 = encodeLE 8 value.toNat) :
    block.readWord64 position = value := by
  rw [readWord64, held, decodeLE_encodeLE]
  exact UInt64.toNat_inj.mp (by simp)

theorem readWord64_writeWord64 (block : Block) (position : Nat) (value : UInt64) :
    (block.writeWord64 position value).readWord64 position = value := by
  have bytes := block.read_write position (encodeLE 8 value.toNat)
  rw [length_encodeLE] at bytes
  exact readWord64_of_read bytes

end ManagedRuntime.Memory.Block
