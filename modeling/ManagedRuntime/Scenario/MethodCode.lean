import ManagedRuntime.Native.Registry
import ManagedRuntime.Scenario.Instruction
import ManagedRuntime.Text.Hexadecimal

/-! The code of a scenario's process: the stubs of the class library, and behind them the compiled
methods. -/
namespace ManagedRuntime.Scenario

def CompiledMethod.all : List CompiledMethod := [.get, .increment, .throwing, .abstract]

def CompiledMethod.name : CompiledMethod → String
  | .get => "@get"
  | .increment => "@inc"
  | .throwing => "@throw"
  | .abstract => "@abstract"

/-- What lies at a method address. -/
inductive MethodCode
  | stub (stub : Native.Stub)
  | compiled (method : CompiledMethod)
  | unknown
deriving DecidableEq, Repr

namespace MethodCode

def all : List MethodCode := Native.registered.map .stub ++ CompiledMethod.all.map .compiled

/-- Distance from one method's code to the next. -/
def stride : Nat := 16

def addressAt (base index : Nat) : UInt64 := UInt64.ofNat (base + stride * index)

/-- The address of a method when the code begins at `base`; null for an unknown symbol. -/
def address (base : Nat) : MethodName → UInt64
  | .address address => address
  | .stub symbol =>
      ((Native.registered.findIdx? (·.symbol == symbol)).map (addressAt base)).getD 0
  | .compiled method =>
      addressAt base (Native.registered.length + CompiledMethod.all.findIdx (· == method))

def ofAddress (base : Nat) (address : UInt64) : MethodCode :=
  let distance := address.toNat - base
  if base ≤ address.toNat ∧ distance % stride = 0 then (all[distance / stride]?).getD .unknown
  else .unknown

def text (base : Nat) (address : UInt64) : String :=
  match ofAddress base address with
  | .stub entry => "native:" ++ entry.symbol
  | .compiled method => method.name
  | .unknown => Text.hexadecimal address.toNat

end MethodCode

end ManagedRuntime.Scenario
