/-! Floating-point stubs. Raw bits pass through unchanged, whatever a NaN carries. -/
namespace ManagedRuntime.Native

/-- Where the bits of a binary format lie. -/
structure BinaryFormat where
  exponentBits : Nat
  fractionBits : Nat
deriving DecidableEq, Repr

def single : BinaryFormat := ⟨8, 23⟩
def double : BinaryFormat := ⟨11, 52⟩

namespace BinaryFormat

def width (format : BinaryFormat) : Nat := 1 + format.exponentBits + format.fractionBits

def fraction (format : BinaryFormat) (bits : Nat) : Nat := bits % (1 <<< format.fractionBits)

def exponent (format : BinaryFormat) (bits : Nat) : Nat :=
  (bits >>> format.fractionBits) % (1 <<< format.exponentBits)

/-- Not a number: the largest exponent with a fraction that is not zero. -/
def isNaN (format : BinaryFormat) (bits : Nat) : Bool :=
  format.exponent bits + 1 == 1 <<< format.exponentBits && format.fraction bits != 0

/-- The bits of a value, as they are. -/
def rawBits (format : BinaryFormat) (bits : Nat) : Nat := bits % (1 <<< format.width)

end BinaryFormat

end ManagedRuntime.Native
