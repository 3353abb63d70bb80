import ManagedRuntime.Dispatch.Image
import ManagedRuntime.Memory.Record

/-! Dispatch tables that exist before the process starts: slots and an empty interface part, laid
out as a record of length, slots and interface count. -/
namespace ManagedRuntime.Dispatch
open Memory

def staticTable (methods : List UInt64) : Block :=
  recordBlock [.word32 methods.length, .words64 methods, .word32 0]

end ManagedRuntime.Dispatch
