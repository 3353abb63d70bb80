import ManagedRuntime.Text.Hexadecimal

/-! References of compiled code: the word of an object and the word of the dispatch table of its
dynamic type. They are plain values, passed and copied freely. -/
namespace ManagedRuntime

structure Ref where
  object : UInt64
  table : UInt64
deriving DecidableEq, Repr, Inhabited

namespace Ref

def null : Ref := ⟨0, 0⟩

/-- The object word alone decides. -/
def isNull (r : Ref) : Bool := r.object == 0

/-- The low half of the object word. -/
def identityHash (r : Ref) : UInt32 := r.object.toUInt32

def inline (r : Ref) : String :=
  if r.isNull then "Ref(null)"
  else "Ref \x7b object: " ++ Text.hexadecimal r.object.toNat ++ ", vtable: " ++
    Text.hexadecimal r.table.toNat ++ " \x7d"

end Ref

end ManagedRuntime
