import ManagedRuntime.Text.Hexadecimal
import ManagedRuntime.Text.Quoted

/-! Why an operation of the runtime is refused, and the wording of each reason. -/
namespace ManagedRuntime
open Text

/-- Why no dispatch table can be made. -/
inductive LayoutFault
  | duplicateInterface (interface : UInt64)
  | offsetOutOfRange (interface : UInt64) (offset : UInt32) (methods : Nat)
  | tooManyMethods (count : Nat)
  | tableTooLarge (methods interfaces : Nat)
deriving DecidableEq, Repr

def LayoutFault.message : LayoutFault → String
  | .duplicateInterface interface =>
      "interface " ++ hexadecimal interface.toNat ++ " appears more than once in the itable"
  | .offsetOutOfRange interface offset methods =>
      "interface " ++ hexadecimal interface.toNat ++ " starts at slot " ++ toString offset.toNat ++
        ", but the class only has " ++ toString methods ++ " methods"
  | .tooManyMethods count =>
      "dispatch table with " ++ toString count ++ " methods does not fit the u32 length field"
  | .tableTooLarge methods interfaces =>
      "dispatch table with " ++ toString methods ++ " methods and " ++ toString interfaces ++
        " interfaces exceeds the address space"

/-- Why settings are refused; a bad value is kept as it was given. -/
inductive SettingsFault
  | unknownUnwindMode (key value : String)
  | invalidFlag (key value : String)
  | invalidDepth (key value : String)
  | alreadyInstalled
deriving DecidableEq, Repr

def SettingsFault.message : SettingsFault → String
  | .unknownUnwindMode key value =>
      key ++ ": unknown unwind mode " ++ quoted value ++ ", expected `propagate` or `terminate`"
  | .invalidFlag key value => key ++ ": expected a boolean, got " ++ quoted value
  | .invalidDepth key value => key ++ ": expected a positive integer, got " ++ quoted value
  | .alreadyInstalled => "runtime configuration is already installed"

/-- Why the runtime gives up. -/
inductive Trap
  | widthMismatch (source destination : UInt64)
  | allocationTooLarge (requested : Nat)
  | interfaceNotImplemented (interface : UInt64)
  | abstractMethodCalled
  | unimplemented (name : String)
  | unwindFailed (reason : String)
  | foreignUnwind
  | monitorNotOwned (operation : String)
  | monitorOverflow
  | runtimeTable (fault : LayoutFault)
deriving DecidableEq, Repr

def Trap.message : Trap → String
  | .widthMismatch source destination =>
      "Attempt to copy between arrays of different element widths (" ++ toString source.toNat ++
        " != " ++ toString destination.toNat ++ ")."
  | .allocationTooLarge requested =>
      "Allocation of " ++ toString requested ++ " payload bytes exceeds the address space."
  | .interfaceNotImplemented interface =>
      "Interface " ++ hexadecimal interface.toNat ++
        " is not implemented by the receiver's class."
  | .abstractMethodCalled => "Abstract method invoked."
  | .unimplemented name => "Invoked unimplemented method " ++ name ++ ". Aborting."
  | .unwindFailed reason => "Exception propagation failed: " ++ reason ++ "."
  | .foreignUnwind => "A foreign unwind reached the bottom of a managed stack."
  | .monitorNotOwned operation =>
      "Monitor " ++ operation ++ " by a thread that does not own it."
  | .monitorOverflow => "Monitor recursion depth overflowed."
  | .runtimeTable fault =>
      "Runtime dispatch table could not be built: " ++ fault.message ++ "."

end ManagedRuntime
