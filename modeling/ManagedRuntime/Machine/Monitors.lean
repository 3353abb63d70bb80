import ManagedRuntime.Machine.State

/-! Monitor operations of a process. A request runs until it is done or its thread falls asleep;
misuse ends the process when monitors are strict and is only logged otherwise. -/
namespace ManagedRuntime.Machine

def monitorName (object : UInt64) : String := "monitor " ++ Text.hexadecimal object.toNat

/-- What the process makes of a monitor's note. -/
def heed (machine : Machine) (me : Token) (object : UInt64) : MonitorNote → Machine
  | .entered =>
    machine.log .trace .monitor [.text (monitorName object ++ " entered by "), .thread me]
  | .released =>
    machine.log .trace .monitor [.text (monitorName object ++ " released by "), .thread me]
  | .misuse operation owner =>
    let (settings, machine) := machine.readSettings
    if settings.strictMonitors then machine.trap (.monitorNotOwned operation)
    else machine.log .warn .monitor
      [.text ("monitor " ++ operation ++ " by "), .thread me, .text " while owned by ",
        .thread owner]
  | .overflow => machine.trap .monitorOverflow

/-- One step of a thread's request, if it can make one. -/
def stepMonitor (machine : Machine) (me : Token) (object : UInt64) : Option Machine :=
  (machine.heap.monitor object).step me |>.map fun (note, monitor) =>
    let stepped : Machine := { machine with heap := machine.heap.setMonitor object monitor }
    match note with
    | none => stepped
    | some note => stepped.heed me object note

/-- Steps until the thread sleeps, is done or the process has ended. No request takes more than
eight steps between two sleeps. -/
def runMonitor (machine : Machine) (me : Token) (object : UInt64) : Nat → Machine
  | 0 => machine
  | fuel + 1 =>
    if machine.ended.isSome then machine
    else
      match machine.stepMonitor me object with
      | none => machine
      | some stepped => stepped.runMonitor me object fuel

def advance (machine : Machine) (me : Token) (object : UInt64) : Machine :=
  machine.runMonitor me object 8

def request (machine : Machine) (me : Token) (object : UInt64) (request : MonitorRequest) :
    Machine :=
  let begun := (machine.heap.monitor object).begin me request
  { machine with heap := machine.heap.setMonitor object begun }.advance me object

def enter (machine : Machine) (me : Token) (r : Ref) : Machine := machine.request me r.object .enter

def leave (machine : Machine) (me : Token) (r : Ref) : Machine := machine.request me r.object .exit

/-- For how many milliseconds a thread waits at most; a time of zero is no limit. -/
def waitLimit (timeout : UInt64) : Option Nat := if timeout = 0 then none else some timeout.toNat

def wait (machine : Machine) (me : Token) (r : Ref) (timeout : UInt64) : Option Nat × Machine :=
  (waitLimit timeout, machine.request me r.object .wait)

/-- Strict monitors compare a notifier with the owner. -/
def notify (machine : Machine) (me : Token) (r : Ref) (all : Bool) : Machine :=
  let (settings, machine) := machine.readSettings
  machine.request me r.object (.notify all settings.strictMonitors)

/-- The time a thread was ready to wait is over. -/
def timeOut (machine : Machine) (me : Token) (object : UInt64) : Machine :=
  { machine with heap := machine.heap.setMonitor object ((machine.heap.monitor object).rouse me) }

def monitorPhase (machine : Machine) (me : Token) (object : UInt64) : MonitorPhase :=
  (machine.heap.monitor object).phase me

end ManagedRuntime.Machine
