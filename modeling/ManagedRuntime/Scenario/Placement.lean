import ManagedRuntime.Memory.Word
import ManagedRuntime.Scenario.Instruction

/-! Where the code and the memory of a scenario's process lie. A scenario can write numbers that
look like addresses; the process lies in a region that no such number leads to. -/
namespace ManagedRuntime.Scenario

/-- The sixth byte of an address tells its region. -/
def regionSize : Nat := 1 <<< 40

def regionOf (address : UInt64) : Nat := address.toNat / regionSize

def MethodName.regions : MethodName → List Nat
  | .address number => [regionOf number]
  | .stub _ | .compiled _ => []

/-- The regions that numbers can lead to when they are put together from these bytes. -/
def byteRegions (bytes : List UInt8) : List Nat := bytes.map (·.toNat)

mutual

/-- The regions that a step can name. -/
def stepRegions : Step → List Nat
  | .act instruction => instructionRegions instruction
  | .block body => stepsRegions body
  | .protect _ body handler => stepsRegions body ++ stepsRegions handler
  | .guarded _ body cleanup => stepsRegions body ++ stepsRegions cleanup
  | .intercept _ _ body => stepsRegions body
  | .outermost _ body => stepsRegions body

def stepsRegions : List Step → List Nat
  | [] => []
  | step :: rest => stepRegions step ++ stepsRegions rest

def instructionRegions : Instruction → List Nat
  | .table _ methods interfaces =>
      methods.flatMap MethodName.regions ++ interfaces.map fun entry => regionOf entry.interface
  | .array _ length width _ =>
      byteRegions (Memory.encodeLE 4 length.toNat ++ Memory.encodeLE 8 width.toNat)
  | .write _ _ bytes => byteRegions bytes
  | .assign _ _ _ job => stepsRegions job
  | .start _ _ _ _ body => stepsRegions body
  | _ => []

end

/-- The first region that is not taken. Should all be, the last one is as good as any. -/
def freeRegion (taken : List Nat) : Nat := ((List.range' 1 126).find? (!taken.contains ·)).getD 127

/-- Where a process begins that runs these steps: code first, memory behind it. -/
def placement (steps : List Step) : Nat := freeRegion (stepsRegions steps) * regionSize

/-- Room for code in front of the memory. -/
def codeRoom : Nat := 1 <<< 20

end ManagedRuntime.Scenario
