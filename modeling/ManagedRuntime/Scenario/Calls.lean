import ManagedRuntime.Scenario.Objects

/-! Steps that run compiled methods and use monitors. -/
namespace ManagedRuntime.Scenario.State
open Exception

/-- A request to a monitor ends, or its thread sleeps until `deadline` or a wakeup. -/
def settleMonitor (state : State) (me : Nat) (object : UInt64) (token : Token)
    (deadline : Option Nat) (counts : Counts) (finish : State → State) :
    Reply Instruction Site × Counts × State :=
  if state.machine.ended.isSome then (.halted, counts, state.flushJournal me)
  else
    match state.machine.monitorPhase token object with
    | .idle => (.done, counts, (finish (state.setWaiting me .ready)).flushJournal me)
    | .parked _ =>
      (.pending, counts, (state.setWaiting me (.inMonitor object deadline)).flushJournal me)
    | _ => (.pending, counts, (state.setWaiting me (.inMonitor object none)).flushJournal me)

/-- Goes on with a request; a thread whose time is over wakes by itself. -/
def resumeMonitor (state : State) (me : Nat) (token : Token) (object : UInt64)
    (deadline : Option Nat) (counts : Counts) (finish : State → State) :
    Reply Instruction Site × Counts × State :=
  let machine :=
    match deadline with
    | some time =>
      if time ≤ state.clock then state.machine.timeOut token object else state.machine
    | none => state.machine
  (state.setMachine (machine.advance token object)).settleMonitor me object token deadline counts
    finish

/-- Begins a request by the given route; a wait says how long it lasts at most. -/
def beginMonitor (machine : Machine) (token : Token) (r : Ref) (verb : MonitorVerb) :
    Route → Option Nat × Machine
  | .direct =>
    match verb with
    | .enter => (none, machine.enter token r)
    | .exit => (none, machine.leave token r)
    | .wait milliseconds => machine.wait token r milliseconds
    | .notify => (none, machine.notify token r false)
    | .notifyAll => (none, machine.notify token r true)
    | .look => (none, machine)
  | .entryPoint =>
    match verb with
    | .enter => (none, EntryPoint.monitorEnter machine token r)
    | .exit => (none, EntryPoint.monitorExit machine token r)
    | .wait milliseconds => EntryPoint.wait machine token r milliseconds
    | .notify => (none, EntryPoint.notifyOne machine token r)
    | .notifyAll => (none, EntryPoint.notifyAll machine token r)
    | .look => (none, machine)
  | .stub =>
    match verb with
    | .enter => (none, EntryPoint.monitorEnter machine token r)
    | .exit => (none, EntryPoint.monitorExit machine token r)
    | .wait milliseconds => Native.Stub.callWait machine token r milliseconds
    | .notify => (none, Native.Stub.callNotify machine token r)
    | .notifyAll => (none, Native.Stub.callNotifyAll machine token r)
    | .look => (none, machine)

/-- A request of a thread with this token. -/
def useMonitorAs (state : State) (me : Nat) (token : Token) (r : Ref) (verb : MonitorVerb)
    (route : Route) (counts : Counts) (finish : State → State) :
    Reply Instruction Site × Counts × State :=
  match (state.thread me).waiting with
  | .inMonitor object deadline => state.resumeMonitor me token object deadline counts finish
  | _ =>
    let (patience, machine) := beginMonitor state.machine token r verb route
    (state.setMachine machine).settleMonitor me r.object token (patience.map (state.clock + ·))
      counts finish

/-- A request with the event that tells its end. -/
def useMonitor (state : State) (me : Nat) (r : Ref) (verb : MonitorVerb) (route : Route)
    (counts : Counts) (finish : Token → State → State) : Reply Instruction Site × Counts × State :=
  let (token, state) := state.currentToken me
  state.useMonitorAs me token r verb route counts (finish token)

def monitorStep (state : State) (me : Nat) (r : Ref) (verb : MonitorVerb) (route : Route)
    (quiet : Bool) (counts : Counts) : Reply Instruction Site × Counts × State :=
  state.useMonitor me r verb route counts fun token state =>
    state.tell me (if quiet then .plain verb.name
      else monitorEvent verb.name r.object token state)

/-- The number in the first field. -/
def firstField (state : State) (r : Ref) : UInt32 := (state.machine.heap.fields r).readWord32 0

def loadField (state : State) (me : Nat) (r : Ref) : State :=
  state.updateThread me fun thread => { thread with scratch := state.firstField r }

/-- Stores the successor of the value that was loaded. -/
def storeField (state : State) (me : Nat) (r : Ref) : State :=
  let heap := state.machine.heap
  let value := (state.thread me).scratch + 1
  state.setMachine { state.machine with
    heap := heap.setFields r ((heap.fields r).writeWord32 0 value) }

/-- The increment as its steps: reading and writing are separate. -/
def incrementSteps (r : Ref) : List Step :=
  [.act (.lock r), .act (.load r), .act (.store r), .act (.unlock r)]

/-- Throws by the given route. -/
def throwReply (state : State) (me : Nat) (r : Ref) (route : Route) (height : Nat)
    (counts : Counts) : Reply Instruction Site × Counts × State :=
  let (mode, record, machine) := match route with
    | .entryPoint => EntryPoint.throw state.machine r (stackOf height)
    | .direct | .stub => state.machine.throw r (stackOf height)
  (.throw mode record, counts, (state.setMachine machine).flushJournal me)

/-- Looks a method up as compiled code does and runs it. -/
def invoke (state : State) (me : Nat) (r : Ref) (interface : Option UInt64) (index : Nat)
    (announced : Bool) (height : Nat) (counts : Counts) :
    Reply Instruction Site × Counts × State :=
  let (method, machine) := match interface with
    | none => (EntryPoint.vtableLookup state.machine r (UInt64.ofNat index), state.machine)
    | some interface =>
        EntryPoint.itableLookup state.machine r interface (UInt64.ofNat index)
  let state := state.setMachine machine
  let finish (result : CallResult) : Reply Instruction Site × Counts × State :=
    (.done, counts,
      if announced then state.tell me (.called (MethodCode.text state.codeBase method) result)
      else state.flushJournal me)
  match MethodCode.ofAddress state.codeBase method with
  | .compiled .get => finish (.number (state.firstField r).toNat)
  | .compiled .increment =>
    (.run (incrementSteps r ++ if announced then [.act (.tellCall method)] else []), counts, state)
  | .compiled .throwing => state.throwReply me r .entryPoint height counts
  | .compiled .abstract =>
    (.halted, counts,
      (state.setMachine (EntryPoint.abstractMethod state.machine)).flushJournal me)
  | .stub stub =>
    if stub = .hashCode then
      let hash := Native.Stub.callHashCode r
      finish (.hash (hash == r.identityHash) (hash.toNat % 16))
    else finish .nothing
  | .unknown => finish .nothing

/-- Threads that call one method again and again. -/
def stressThread (r : Ref) (index times : Nat) : Thread :=
  { strand := { control := .run (List.replicate times (.act (.invoke r none index false)) ++
      [.act .leaveThread]) } }

def stress (state : State) (me : Nat) (r : Ref) (index threads times : Nat) (counts : Counts) :
    Reply Instruction Site × Counts × State :=
  match (state.thread me).waiting with
  | .forEnd _ _ =>
    let done := state.setWaiting me .ready
    (.done, counts, done.tell me (.stress (done.firstField r).toNat
      (done.machine.heap.monitor r.object).depth.toNat))
  | _ =>
    let first := state.threads.size
    let helpers := Array.replicate threads (stressThread r index times)
    (.pending, counts,
      { state with threads := state.threads ++ helpers }.setWaiting me
        (.forEnd (List.range' first threads) none))

end ManagedRuntime.Scenario.State
