import ManagedRuntime.Fault
import ManagedRuntime.Memory.Layout

/-! What a dispatch table is made from: method slots, and for each interface of a class the slot
at which its methods begin. -/
namespace ManagedRuntime.Dispatch

structure InterfaceEntry where
  /-- Identity of the interface: the address of its own table. -/
  interface : UInt64
  offset : UInt32
deriving DecidableEq, Repr

structure Blueprint where
  methods : List UInt64 := []
  interfaces : List InterfaceEntry := []
deriving DecidableEq, Repr

namespace Blueprint

def addMethod (blueprint : Blueprint) (method : UInt64) : Blueprint :=
  { blueprint with methods := blueprint.methods ++ [method] }

def addMethods (blueprint : Blueprint) (methods : List UInt64) : Blueprint :=
  { blueprint with methods := blueprint.methods ++ methods }

def addInterface (blueprint : Blueprint) (interface : UInt64) (offset : UInt32) : Blueprint :=
  { blueprint with interfaces := blueprint.interfaces ++ [⟨interface, offset⟩] }

/-- The first faulty entry decides; of its faults, a repeated identity comes first. An offset
just behind the last slot is fine. -/
def checkEntries (methods : Nat) (seen : List UInt64) :
    List InterfaceEntry → Except LayoutFault Unit
  | [] => .ok ()
  | entry :: rest =>
    if entry.interface ∈ seen then .error (.duplicateInterface entry.interface)
    else if methods < entry.offset.toNat then
      .error (.offsetOutOfRange entry.interface entry.offset methods)
    else checkEntries methods (entry.interface :: seen) rest

def checkLength (count : Nat) : Except LayoutFault Unit :=
  if count < UInt32.size then .ok () else .error (.tooManyMethods count)

end Blueprint

/-- Layout of a table with these numbers of slots and entries. -/
def tableLayout (methods interfaces : UInt64) : Except LayoutFault Memory.Layout :=
  match Memory.tableLayout? methods interfaces with
  | some layout => .ok layout
  | none => .error (.tableTooLarge methods.toNat interfaces.toNat)

end ManagedRuntime.Dispatch
