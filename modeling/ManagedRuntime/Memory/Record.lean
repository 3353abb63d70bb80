import ManagedRuntime.Memory.Block
import ManagedRuntime.Memory.Layout

/-! Records laid out field by field: each field at the next position its alignment allows, the
whole rounded up to the largest alignment, gaps zero. -/
namespace ManagedRuntime.Memory

structure RecordField where
  align : Nat
  bytes : List UInt8
deriving DecidableEq, Repr

namespace RecordField

def word32 (value : Nat) : RecordField := ⟨4, encodeLE 4 value⟩

/-- Consecutive words form one field. -/
def words64 (values : List UInt64) : RecordField :=
  ⟨8, values.flatMap fun value => encodeLE 8 value.toNat⟩

end RecordField

/-- The fields' positions and the end of the last one. -/
def placeFields : Nat → List RecordField → List (Nat × List UInt8) × Nat
  | position, [] => ([], position)
  | position, field :: rest =>
    let start := roundUp position field.align
    let (placed, stop) := placeFields (start + field.bytes.length) rest
    ((start, field.bytes) :: placed, stop)

def recordBlock (fields : List RecordField) : Block :=
  let (placed, stop) := placeFields 0 fields
  let align := (fields.map (·.align)).foldl max 1
  placed.foldl (fun block (position, bytes) => block.write position bytes)
    (Block.zeroed (roundUp stop align))

end ManagedRuntime.Memory
