import ManagedRuntime.Dispatch.Blueprint
import ManagedRuntime.Exception.Code

/-! Scenarios: programs for the threads of a process that name what they make and tell what they
see. -/
namespace ManagedRuntime.Scenario
open Exception

/-- Which way an operation is reached. -/
inductive Route
  | direct
  /-- Through the entry points of compiled code. -/
  | entryPoint
  /-- Through a stub of the class library. -/
  | stub
deriving DecidableEq, Repr

/-- Methods a scenario brings along. -/
inductive CompiledMethod
  /-- Reads the number in the first field. -/
  | get
  /-- Adds one to the number in the first field, inside the receiver's monitor. -/
  | increment
  /-- Throws the receiver. -/
  | throwing
  | abstract
deriving DecidableEq, Repr

inductive MethodName
  | address (address : UInt64)
  | stub (symbol : String)
  | compiled (method : CompiledMethod)
deriving DecidableEq, Repr

inductive MonitorVerb
  | enter
  | exit
  /-- Zero waits without limit. -/
  | wait (milliseconds : UInt64)
  | notify
  | notifyAll
  /-- Only looks. -/
  | look
deriving DecidableEq, Repr

def MonitorVerb.name : MonitorVerb → String
  | .enter => "enter"
  | .exit => "exit"
  | .wait _ => "wait"
  | .notify => "notify"
  | .notifyAll => "notify_all"
  | .look => "monitor"

/-- Owners of the frames of a scenario. -/
inductive Site
  /-- A region that binds what it catches. With `ignore` the entry point is given no place to leave
  that in; other routes always tell it. -/
  | attempt (route : Route) (name : Option String) (ignore : Bool)
  | guarded (label : String)
  | intercept
  | outermost
  /-- The bottom of a program that was started. -/
  | entry
  /-- The bottom of a managed thread. -/
  | threadBottom
  /-- A level of a nest of regions, and the frame inside of it. -/
  | level (nest : Nat)
  | levelFrame (nest : Nat)
deriving DecidableEq, Repr

inductive Instruction
  | table (name : String) (methods : List MethodName) (interfaces : List Dispatch.InterfaceEntry)
  | object (name : String) (size : UInt64) (table : Option String) (route : Route)
  | array (name : String) (length : UInt32) (width : UInt64) (route : Route)
  | setArrayTable (table : Option String) (route : Route)
  | info (reference : String)
  | same (first second : String)
  | write (reference : String) (position : Nat) (bytes : List UInt8)
  | read (reference : String) (position count : Nat)
  | arrayInfo (reference : String) (route : Route)
  | copy (source : String) (sourceStart : Int) (destination : String) (destinationStart : Int)
      (count : Int) (route : Route)
  | stats
  | vtableLookup (reference : String) (index : Nat) (route : Route)
  | itableLookup (reference : String) (interface : UInt64) (index : Nat) (route : Route)
  | call (reference : String) (interface : Option UInt64) (index : Nat)
  | stress (reference : String) (index threads times : Nat)
  /-- A call of a known receiver; it tells its result when it is announced. -/
  | invoke (receiver : Ref) (interface : Option UInt64) (index : Nat) (announced : Bool)
  | monitor (verb : MonitorVerb) (reference : String) (route : Route) (quiet : Bool)
  /-- Steps of a compiled method on its receiver. -/
  | lock (receiver : Ref)
  | load (receiver : Ref)
  | store (receiver : Ref)
  | unlock (receiver : Ref)
  | tellCall (method : UInt64)
  | throw (reference : String) (route : Route)
  | foreign (message : String)
  | raise (reference : String) (depth : UInt64) (mode : UnwindMode)
  | capture (name reference : String) (depth : UInt64)
  | release (name : String)
  | raiseCaptured (name : String)
  | rethrowLevel (nest : Nat)
  | tellNest (nest : Nat)
  | abstract (route : Route)
  | unimplemented (symbol : String)
  | speak (text : String)
  | state
  | string (name : String) (bytes : Option (List UInt8)) (copied : Bool)
  | println (reference : String)
  | breakOutput
  | registerNatives
  | marshal (name : String) (arguments : List (List UInt8)) (count : Nat)
  | arguments (reference : String)
  | argument (reference : String) (index : Nat) (name : String)
  /-- Starts a program; `body` is what it does in its entry. -/
  | start (arguments : List (List UInt8)) (count : Nat) (name : Option String) (route : Route)
      (body : List (Code Instruction Site))
  | enterProgram (name : Option String)
  | started (route : Route)
  /-- Starts a thread that is maybe asked for its token at once. -/
  | spawn (label : String) (name : Option String) (managed asked : Bool)
  | join (label : String)
  | finish (label : String)
  | joinTimeout (label : String) (milliseconds : Nat)
  /-- Joins by several callers at once, each with the time limit if there is one. -/
  | joinMany (label : String) (threads : Nat) (milliseconds : Option Nat)
  | settle (milliseconds : Nat)
  | tell (verb : String)
  | setName (name : String)
  | getName
  | token
  | configure (settings : Settings)
  | config
  | initLogging
  /-- Gives another thread steps to run and waits for them, at most `patience` milliseconds. -/
  | assign (label verb : String) (patience : Nat) (job : List (Code Instruction Site))
  | await (label : String)
  | awaitFinished (count : Nat)
  | collectFinished
  | still (label : String)
  /-- What a thread does between its jobs and at its end. -/
  | nextJob
  | jobDone
  | leaveThread

abbrev Step := Code Instruction Site

/-- One level of a nest: a region around a frame. Every level but the outermost may throw again
what it caught. -/
def nestLevel (nest : Nat) (again : Bool) (body : List Step) : Step :=
  .protect (.level nest) [.guarded (.levelFrame nest) body []]
    (if again then [.act (.rethrowLevel nest)] else [])

def nestLevels (nest : Nat) (rethrow : Bool) (body : List Step) : Nat → List Step
  | 0 => body
  | levels + 1 => [nestLevel nest rethrow (nestLevels nest rethrow body levels)]

/-- `levels` regions around `body`. -/
def nestSteps (nest : Nat) (rethrow : Bool) (levels : Nat) (body : List Step) : List Step :=
  (match levels with
    | 0 => body
    | levels + 1 => [nestLevel nest false (nestLevels nest rethrow body levels)]) ++
    [.act (.tellNest nest)]

/-- The entry of a program as the outermost frame, and what follows when it returns. -/
def entrySteps (name : Option String) (route : Route) (body : List Step) : List Step :=
  [.outermost .entry (.act (.enterProgram name) :: body), .act (.started route)]

/-- Waits until `count` jobs that were blocked are finished, and a little longer. -/
def awaitAnySteps (count : Nat) : List Step :=
  [.act (.awaitFinished count), .act (.settle 8), .act .collectFinished]

def stillSteps (label : String) : List Step := [.act (.settle 8), .act (.still label)]

mutual

/-- Bounds the instructions a step leads to. -/
def stepWeight : Step → Nat
  | .act instruction => 1 + instructionWeight instruction
  | .block body => 1 + stepsWeight body
  | .protect _ body handler => 1 + stepsWeight body + stepsWeight handler
  | .guarded _ body cleanup => 1 + stepsWeight body + stepsWeight cleanup
  | .intercept _ _ body => 1 + stepsWeight body
  | .outermost _ body => 1 + stepsWeight body

def stepsWeight : List Step → Nat
  | [] => 0
  | step :: rest => stepWeight step + stepsWeight rest

def instructionWeight : Instruction → Nat
  | .assign _ _ _ job => 1 + stepsWeight job
  | .start _ _ _ _ body => 4 + stepsWeight body
  | .stress _ _ threads times => 8 * threads * (times + 1)
  | _ => 1

end

end ManagedRuntime.Scenario
