import ManagedRuntime.Machine.State

/-! Allocation, dispatch, arrays and stubs of a process, with what they log. -/
namespace ManagedRuntime.Machine
open Memory

/-- Logs an allocation. Without memory the process aborts; a refusal is the caller's business. -/
def allocated (machine : Machine) (size : UInt64) :
    Except AllocationFault (Ref × Heap) → Except Trap Ref × Machine
  | .ok (r, heap) =>
    (.ok r, { machine with heap }.logText .trace .allocator
      ("allocated object " ++ Text.hexadecimal r.object.toNat ++ " (" ++
        toString (size.toNat + Format.objectHeaderSize.toNat) ++ " bytes)"))
  | .error (.refused reason) => (.error reason, machine)
  | .error (.exhausted bytes) =>
    (.ok .null, (machine.logText .error .allocator
      ("out of memory allocating " ++ toString bytes.toNat ++ " bytes")).abort)

def newObject (machine : Machine) (size table : UInt64) : Except Trap Ref × Machine :=
  machine.allocated size (machine.heap.allocateObject size table)

/-- Builds a table that lives as long as the process. Without memory for it the process aborts. -/
def buildTable (machine : Machine) (blueprint : Dispatch.Blueprint) :
    Except LayoutFault (Option UInt64 × Machine) := do
  let table ← blueprint.build (machine.heap.residue machine.heap.next)
  match machine.heap.placeTable table with
  | none => pure (none, machine.abort)
  | some (address, heap) =>
    pure (some address, { machine with heap }.logText .trace .dispatch
      ("built dispatch table at " ++ Text.hexadecimal address.toNat ++ ": " ++
        toString blueprint.methods.length ++ " methods, " ++
        toString blueprint.interfaces.length ++ " interfaces"))

/-- The table for new arrays, or nothing if the process ends over it. While none is registered, it
is an empty table of the runtime's own, which the first use builds. -/
def arrayTable (machine : Machine) : Option UInt64 × Machine :=
  match machine.heap.arrayTable? with
  | some table => (some table, machine)
  | none =>
    match machine.buildTable {} with
    | .error fault => (none, machine.trap (.runtimeTable fault))
    | .ok (none, aborted) => (none, aborted)
    | .ok (some table, built) =>
      (some table, { built with heap := { built.heap with defaultArrayTable := some table } })

/-- An allocation that needs the table for new arrays. -/
def withArrayTable (machine : Machine) (allocate : UInt64 → Machine → Except Trap Ref × Machine) :
    Except Trap Ref × Machine :=
  match machine.arrayTable with
  | (some table, ready) => allocate table ready
  | (none, ended) => (.ok .null, ended)

/-- The table is asked for as soon as a word holds the size, even if no memory will. -/
def newArray (machine : Machine) (length : UInt32) (width : UInt64) : Except Trap Ref × Machine :=
  let payload := Heap.arrayPayload length width
  if payload < UInt64.size then
    machine.withArrayTable fun table ready =>
      ready.allocated (UInt64.ofNat payload) (ready.heap.allocateArray length width table)
  else (.error (.allocationTooLarge payload), machine)

def setArrayTable (machine : Machine) (table : UInt64) : Machine :=
  let noted := machine.logText .debug .array
    ("array dispatch table set to " ++ Text.hexadecimal table.toNat)
  { noted with heap := noted.heap.setArrayTable table }

/-- Virtual dispatch: the slot at `index` of the receiver's table. -/
def vtableLookup (machine : Machine) (receiver : Ref) (index : Nat) : UInt64 :=
  Dispatch.Table.method (machine.heap.table receiver) index

/-- Interface dispatch; nothing when the receiver's class lacks the interface. -/
def itableLookup (machine : Machine) (receiver : Ref) (interface : UInt64) (index : Nat) :
    Option UInt64 :=
  Dispatch.Table.interfaceMethod? (machine.heap.table receiver) interface index

def copyArray (machine : Machine) (source : Ref) (sourceStart : Int64) (destination : Ref)
    (destinationStart count : Int64) : Except Trap Machine := do
  let heap ← machine.heap.copyArray source sourceStart destination destinationStart count
  pure { machine with heap }

/-- The argument array of a program; logged like any array. -/
def marshalArguments (machine : Machine) (arguments : List UInt64) : Except Trap Ref × Machine :=
  machine.withArrayTable fun table ready =>
    ready.allocated
      (UInt64.ofNat (Heap.arrayPayload (UInt32.ofNat (arguments.drop 1).length)
        Format.referenceSize))
      (ready.heap.marshalArguments arguments table)

/-- Writes a line to the output stream. A null reference reads `null`; a failure is only logged. -/
def println (machine : Machine) (string : Ref) : Machine :=
  let line := if string.isNull then "null".toUTF8.data.toList else machine.heap.textAt string.object
  if machine.outputBroken then
    machine.logText .warn .natives "println failed: No space left on device (os error 28)"
  else { machine with output := machine.output ++ line ++ [10] }

/-- The stubs are registered when the first of them is looked up. -/
def withNatives (machine : Machine) : Machine :=
  if machine.hasNatives then machine
  else { machine with hasNatives := true }.logText .debug .natives Native.registeredText

/-- Looks a stub up for a caller that holds a zero-terminated string. What is no text is not even
looked for. -/
def lookupNative (machine : Machine) (symbol : List UInt8) : Option Native.Stub × Machine :=
  match Native.text? (Native.cString symbol) with
  | some name => (Native.lookup? name, machine.withNatives)
  | none => (none, machine)

end ManagedRuntime.Machine
