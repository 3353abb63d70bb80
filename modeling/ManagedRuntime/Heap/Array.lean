import ManagedRuntime.Heap.Basic

/-! Arrays: objects whose fields begin with a length and an element width, with the elements
behind them. -/
namespace ManagedRuntime
open Memory

/-- Address of the first element. -/
def Ref.dataPointer (r : Ref) : UInt64 := r.fieldPointer + Format.arrayHeaderSize

namespace Heap

def arrayLength (heap : Heap) (r : Ref) : UInt32 :=
  (heap.fields r).readWord32 Format.arrayLengthAt.toNat

def arrayWidth (heap : Heap) (r : Ref) : UInt64 :=
  (heap.fields r).readWord64 Format.arrayWidthAt.toNat

/-- Header and elements of an array, computed without bound. -/
def arrayPayload (length : UInt32) (width : UInt64) : Nat :=
  length.toNat * width.toNat + Format.arrayHeaderSize.toNat

def writeArrayHeader (fields : Block) (length : UInt32) (width : UInt64) : Block :=
  (fields.writeWord32 Format.arrayLengthAt.toNat length).writeWord64 Format.arrayWidthAt.toNat width

/-- An array of zeroed elements. -/
def allocateArray (heap : Heap) (length : UInt32) (width : UInt64) (table : UInt64) :
    Except AllocationFault (Ref × Heap) := do
  let payload := arrayPayload length width
  if payload < UInt64.size then
    let (r, heap) ← heap.allocateObject (UInt64.ofNat payload) table
    pure (r, heap.setFields r (writeArrayHeader (heap.fields r) length width))
  else .error (.refused (.allocationTooLarge payload))

/-- Position of an element in the fields, in the signed words compiled code computes with. -/
def elementPosition (width : Int64) (index : Int64) : Nat :=
  (Int64.ofNat Format.arrayElementsAt.toNat + width * index).toInt.toNat

/-- Moves `count` elements as if through a buffer. Widths are compared first; a count that is not
positive moves nothing. That the ranges lie inside the arrays is up to the caller. -/
def copyArray (heap : Heap) (source : Ref) (sourceStart : Int64) (destination : Ref)
    (destinationStart : Int64) (count : Int64) : Except Trap Heap :=
  let sourceWidth := heap.arrayWidth source
  let destinationWidth := heap.arrayWidth destination
  if sourceWidth ≠ destinationWidth then
    .error (.widthMismatch sourceWidth destinationWidth)
  else if count ≤ 0 then .ok heap
  else
    let width := sourceWidth.toInt64
    let moved := (heap.fields source).read (elementPosition width sourceStart)
      (sourceWidth * count.toUInt64).toNat
    .ok (heap.setFields destination
      ((heap.fields destination).write (elementPosition width destinationStart) moved))

/-- A reference as the two words of an array element. -/
def encodeRef (r : Ref) : List UInt8 := encodeLE 8 r.object.toNat ++ encodeLE 8 r.table.toNat

def refElementPosition (index : Nat) : Nat :=
  Format.arrayElementsAt.toNat + index * Format.referenceSize.toNat

/-- The reference stored as element `index`. -/
def readRefElement (heap : Heap) (r : Ref) (index : Nat) : Ref :=
  let fields := heap.fields r
  let position := refElementPosition index
  ⟨fields.readWord64 (position + Format.referenceObjectAt.toNat),
    fields.readWord64 (position + Format.referenceTableAt.toNat)⟩

/-- Copies each text and stores the references one behind the other. -/
def storeTexts (heap : Heap) (target : Ref) : Nat → List UInt64 → Heap
  | _, [] => heap
  | index, address :: rest =>
    let (string, heap) := heap.copyString (heap.textAt address)
    let fields := (heap.fields target).write (refElementPosition index) (encodeRef string)
    (heap.setFields target fields).storeTexts target (index + 1) rest

/-- The argument array of a program: every text but the first, which names the program. -/
def marshalArguments (heap : Heap) (arguments : List UInt64) (table : UInt64) :
    Except AllocationFault (Ref × Heap) := do
  let texts := arguments.drop 1
  let (r, heap) ← heap.allocateArray (UInt32.ofNat texts.length) Format.referenceSize table
  pure (r, heap.storeTexts r 0 texts)

end Heap

end ManagedRuntime
