import ManagedRuntime.Scenario.Host
import ManagedRuntime.Scenario.Placement

/-! Running a scenario. A thread runs until it has to wait; then another one that can go on runs.
When none can, the clock moves to the next moment a thread waits for. -/
namespace ManagedRuntime.Scenario
open Exception

namespace State

/-- Whether the thread has a step to make. -/
def isActive (thread : Thread) : Bool :=
  match thread.strand.control with
  | .run _ | .unwind _ | .exiting _ => true
  | .returned | .died _ | .halted => false

def isPast (state : State) (deadline : Option Nat) : Bool := deadline.any (· ≤ state.clock)

/-- Whether what the thread waits for has come. -/
def isReady (state : State) (index : Nat) (thread : Thread) : Bool :=
  match thread.waiting with
  | .ready => true
  | .inMonitor object deadline =>
    match state.machine.monitorPhase thread.token object with
    | .contending _ _ => false
    | .parked _ => state.isPast deadline
    | _ => true
  | .inJoin target deadline =>
    match (state.thread target).completion.caller index with
    | .asleep _ => state.isPast deadline
    | .attached => state.isGone target
    | _ => true
  | .untilTime deadline => deadline ≤ state.clock
  | .forJob target deadline =>
      state.isFinished target || state.isOut target || state.isPast deadline
  | .forFinished count => count ≤ state.finishedJobs.length
  | .forEnd targets deadline => targets.all state.isGone || state.isPast deadline
  | .forWork => thread.inbox.isSome || thread.toldToEnd

def canRun (state : State) (index : Nat) : Bool :=
  let thread := state.thread index
  isActive thread && state.isReady index thread

/-- The time a waiting thread will give up at. -/
def deadline (thread : Thread) : Option Nat :=
  if isActive thread then
    match thread.waiting with
    | .inMonitor _ deadline | .inJoin _ deadline | .forJob _ deadline | .forEnd _ deadline =>
      deadline
    | .untilTime deadline => some deadline
    | .ready | .forFinished _ | .forWork => none
  else none

/-- The next moment after now that a thread waits for. -/
def nextMoment (state : State) : Option Nat :=
  ((state.threads.toList.filterMap deadline).filter (state.clock < ·)).min?

/-- A thread whose last frame a foreign unwind left comes to its end like any other. -/
def buryThread (state : State) (index : Nat) : State :=
  if state.hasDied index then state.leaveThread index else state

/-- One step of a thread. -/
def stepThread (state : State) (index : Nat) : State :=
  let (strand, state) := (state.thread index).strand.step (host index) state
  (state.updateThread index fun thread => { thread with strand }).buryThread index

/-- The thread that runs next: the one that runs already, or the first that can. -/
def choose (state : State) : Option Nat :=
  if state.canRun state.running then some state.running
  else (List.range state.threads.size).find? state.canRun

def isOver (state : State) : Bool :=
  state.machine.ended.isSome || !isActive (state.thread 0)

/-- Steps until the first thread is at its end, the process has ended or nothing can go on. -/
def run (state : State) : Nat → State
  | 0 => state
  | fuel + 1 =>
    if state.isOver then state
    else
      match state.choose with
      | some index => { state with running := index }.stepThread index |>.run fuel
      | none =>
        match state.nextMoment with
        | some moment => { state with clock := moment }.run fuel
        | none => state

end State

/-- How a scenario is set up. -/
structure Setting where
  environment : Environment := {}
  backend : LogBackend := .silent
  /-- A session runs in a process that has its settings and its logger already. -/
  session : Option Threshold := none
  /-- The runtime's own table for arrays was asked for before the first step, when there was no
  logger. -/
  hasArrayTable : Bool := false
  /-- The first thread was asked for its token before its first step. -/
  asked : Bool := false

def printStreamMethods (codeBase : Nat) : List UInt64 :=
  (List.range Native.printStreamSlots).map fun slot =>
    if slot = Native.printlnSlot then
      MethodCode.address codeBase (.stub Native.Stub.println.symbol)
    else 0

/-- Where the tables of the class library lie, and the memory with them. -/
structure Library where
  printStream : UInt64
  stringBuilder : UInt64
  illegalArgument : UInt64
  heap : Heap

/-- Puts a table that comes with the program behind what is there. -/
def placeStatic (heap : Heap) (table : Memory.Block) : UInt64 × Heap :=
  (heap.placeTable table).getD (0, heap)

/-- Puts the tables of the class library one behind the other. The classes without methods have
equal tables. -/
def Library.place (heap : Heap) (printStream empty : Memory.Block) : Library :=
  let (printStream, heap) := placeStatic heap printStream
  let (stringBuilder, heap) := placeStatic heap empty
  let (illegalArgument, heap) := placeStatic heap empty
  { printStream, stringBuilder, illegalArgument, heap }

/-- The class library behind code that begins at `codeBase`. -/
def placeLibrary (codeBase : Nat) : Library :=
  .place { next := codeBase + codeRoom } (Dispatch.staticTable (printStreamMethods codeBase))
    (Dispatch.staticTable [])

/-- The process with the memory of its class library, and its table for arrays if it has one. -/
def Setting.prepare (setting : Setting) (heap : Heap) : Option UInt64 × Machine :=
  let machine : Machine := { environment := setting.environment, backend := setting.backend, heap }
  if setting.hasArrayTable then machine.arrayTable else (none, machine)

def Setting.attach (setting : Setting) (machine : Machine) : Machine :=
  match setting.session with
  | some threshold => { machine with settings := ⟨some {}⟩, sink := .journal threshold }
  | none => machine

/-- A process without threads whose code begins at `codeBase`, with the tables of the class
library. -/
def initialProcess (setting : Setting) (codeBase : Nat) : State :=
  let library := placeLibrary codeBase
  let (array, machine) := setting.prepare library.heap
  { machine := setting.attach machine
    threads := #[]
    codeBase
    references := [("$out", ⟨0, library.printStream⟩), ("$null", .null)]
    tables := (array.map (("$array", ·))).toList ++ [("$PrintStream", library.printStream),
      ("$IllegalArgumentException", library.illegalArgument),
      ("$StringBuilder", library.stringBuilder)] }

def initialState (setting : Setting) (steps : List Step) : State :=
  let process := initialProcess setting (placement steps)
  let first : Thread := { strand := { control := .run steps } }
  let state := { process with threads := #[first] }
  if setting.asked then state.askToken 0 "main" else state

/-- What a scenario told, and how its process ended. -/
structure Outcome where
  entries : List Entry
  ending : Option Ending
  errors : List UInt8

def fuelFor (steps : List Step) : Nat := 64 * stepsWeight steps + 4096

def run (setting : Setting) (steps : List Step) : Outcome :=
  let state := (initialState setting steps).run (fuelFor steps)
  ⟨(state.thread 0).told.reverse, state.machine.ended, state.machine.errors⟩

end ManagedRuntime.Scenario
