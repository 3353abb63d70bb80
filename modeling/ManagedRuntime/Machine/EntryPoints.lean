import ManagedRuntime.Machine.Exceptions
import ManagedRuntime.Machine.Memory
import ManagedRuntime.Machine.Monitors
import ManagedRuntime.Machine.Starting

/-! The entry points of compiled code. Each passes its arguments on and traps where the operation
behind it refuses; positions and counts of 32 bits keep their sign. -/
namespace ManagedRuntime.EntryPoint

/-- The result, or nothing once the process has trapped. -/
def orTrap : Except Trap α × Machine → Option α × Machine
  | (.ok value, machine) => (some value, machine)
  | (.error reason, machine) => (none, machine.trap reason)

/-- Zero, once the start has returned. -/
def start (outcome : Except Trap Unit × Machine) : Option UInt32 × Machine :=
  let (returned, machine) := orTrap outcome
  (returned.map fun _ => 0, machine)

def objectNew (machine : Machine) (size table : UInt64) : Option Ref × Machine :=
  orTrap (machine.newObject size table)

def fieldPointer (r : Ref) : UInt64 := r.fieldPointer

def vtableLookup (machine : Machine) (r : Ref) (index : UInt64) : UInt64 :=
  machine.vtableLookup r index.toNat

/-- Null, with an error in the log, when the receiver's class lacks the interface. -/
def itableLookup (machine : Machine) (r : Ref) (interface index : UInt64) : UInt64 × Machine :=
  match machine.itableLookup r interface index.toNat with
  | some method => (method, machine)
  | none =>
    (0, machine.logText .error .abi (Trap.interfaceNotImplemented interface).message)

def monitorEnter (machine : Machine) (me : Token) (r : Ref) : Machine := machine.enter me r
def monitorExit (machine : Machine) (me : Token) (r : Ref) : Machine := machine.leave me r
def wait (machine : Machine) (me : Token) (r : Ref) (timeout : UInt64) : Option Nat × Machine :=
  machine.wait me r timeout
def notifyOne (machine : Machine) (me : Token) (r : Ref) : Machine := machine.notify me r false
def notifyAll (machine : Machine) (me : Token) (r : Ref) : Machine := machine.notify me r true

def arrayNew (machine : Machine) (length : UInt32) (width : UInt64) : Option Ref × Machine :=
  orTrap (machine.newArray length width)

def arrayLength (machine : Machine) (r : Ref) : UInt32 := machine.heap.arrayLength r

def elementPointer (r : Ref) : UInt64 := r.dataPointer

def arrayCopy (machine : Machine) (source : Ref) (sourceStart : Int32) (destination : Ref)
    (destinationStart count : Int32) : Machine :=
  match machine.copyArray source sourceStart.toInt64 destination destinationStart.toInt64
      count.toInt64 with
  | .ok copied => copied
  | .error reason => machine.trap reason

def setArrayTable (machine : Machine) (table : UInt64) : Machine := machine.setArrayTable table

def throw (machine : Machine) (throwable : Ref) (stack : List UInt64) :
    UnwindMode × Exception.ExceptionRecord × Machine :=
  machine.throw throwable stack

def abstractMethod (machine : Machine) : Machine := machine.abstractMethodCalled

/-- What a catch region returns that is over, and what its caller's cell holds then. A caller
without a cell is not told what was caught. -/
def attempt (cell caught : Option Ref) : Nat × Option Ref :=
  match caught with
  | none => (0, cell)
  | some r => (1, cell.map fun _ => r)

def loadString (address : UInt64) : Ref := stringConstant address

/-- Address of a stub, or null. -/
def nativeLookup (machine : Machine) (address : Native.Stub → UInt64) (symbol : List UInt8) :
    UInt64 × Machine :=
  let (found, machine) := machine.lookupNative symbol
  ((found.map address).getD 0, machine)

end ManagedRuntime.EntryPoint

namespace ManagedRuntime.Native

/-! The class library's stubs that have code. -/

def Stub.callHashCode (this : Ref) : UInt32 := this.identityHash

def Stub.callNotify (machine : Machine) (me : Token) (this : Ref) : Machine :=
  machine.notify me this false

def Stub.callNotifyAll (machine : Machine) (me : Token) (this : Ref) : Machine :=
  machine.notify me this true

def Stub.callWait (machine : Machine) (me : Token) (this : Ref) (timeout : UInt64) :
    Option Nat × Machine :=
  machine.wait me this timeout

def Stub.callArrayCopy (machine : Machine) (source : Ref) (sourceStart : Int32) (destination : Ref)
    (destinationStart count : Int32) : Machine :=
  match machine.copyArray source sourceStart.toInt64 destination destinationStart.toInt64
      count.toInt64 with
  | .ok copied => copied
  | .error reason => machine.trap reason

/-- A stub without code ends the process. -/
def Stub.callUnimplemented (machine : Machine) (stub : Stub) : Machine :=
  machine.trap (.unimplemented stub.name)

end ManagedRuntime.Native
