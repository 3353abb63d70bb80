import ManagedRuntime.Exception.Code
import ManagedRuntime.Machine.State

/-! What the steps of a scenario observe. References and tables are told by the names the scenario
gave them. -/
namespace ManagedRuntime.Scenario
open Exception

/-- A record as far as it does not depend on addresses. -/
structure RecordView where
  throwable : Option String
  frames : Nat
  live : Nat
deriving DecidableEq, Repr

structure TableView where
  name : Option String
  slots : Nat
  interfaces : Nat
deriving DecidableEq, Repr

structure ReferenceView where
  isNull : Bool
  name : Option String
  table : Option TableView
  hashIsAddress : Bool
  /-- Position and alignment of the fields, for objects the scenario made. -/
  fields : Option (Nat × Bool)
deriving DecidableEq, Repr

inductive CallResult
  | nothing
  | number (value : Nat)
  /-- A hash code: whether it is the identity hash, and its remainder by sixteen. -/
  | hash (isIdentity : Bool) (remainder : Nat)
deriving DecidableEq, Repr

inductive Interception
  | nothing
  | foreign (message : String)
  | managed (record : RecordView)
deriving DecidableEq, Repr

inductive Event
  | plain (verb : String)
  | refusedTable (fault : LayoutFault)
  | refused (verb : String) (trap : Trap)
  | refusedSettings (fault : SettingsFault)
  | table (slots interfaces : Nat)
  | monitor (verb : String) (depth : Nat) (held : Bool)
  | arrayTable (table : Option String)
  | reference (view : ReferenceView)
  | same (words hash : Bool)
  | wrote (count : Nat)
  | bytes (bytes : List UInt8)
  | array (length width dataAt : Nat) (table : Option String)
  | stats (objects bytes : Nat)
  | method (verb : String) (method : Option String)
  | called (method : String) (result : CallResult)
  | stress (value depth : Nat)
  | status (status : Nat)
  /-- A catch region ended: with what it caught, if it caught, and the name of that. -/
  | attempt (caught : Option (Option String)) (counts : Counts)
  | cleanup (label : String) (counts : Counts)
  | intercepted (interception : Interception)
  | counters (counts : Counts)
  | outermost (handlers : Nat)
  | nest (caught cleanups : Nat) (counts : Counts)
  /-- A raise returned with its record, which was captured before if `held`. -/
  | endOfStack (held : Bool) (record : RecordView)
  | captured (record : RecordView)
  | recordText (text : String)
  | released (live : Nat)
  | spoken (text : String)
  | state (counts : Counts)
  | string (bytes : List UInt8) (aliases : Bool) (table : Option String)
  | nullString (table : Option String)
  | printed (bytes : List UInt8)
  | arguments (strings : List (List UInt8)) (width : Nat) (table : Option String)
  | argument (table : Option String)
  | entry (threadName : Option String) (handlers : Nat)
  | started (status : Option Nat)
  | labelled (verb label : String)
  | joinTimeout (label : String) (ended : Bool)
  | joinMany (label : String) (ended : Nat)
  | threadName (name : Option String)
  | naming (installed : Bool) (name : Option String)
  | token (stable isNobody otherDiffers otherIsLater : Bool)
  | settings (settings : Settings)
  | log (severity : Severity) (text : String)
  | blocked (verb label : String)
  | died (verb label : String)
  | resumed (label : String)
  | resumedCount (count : Nat)
  | stillBlocked (label : String)

/-- An event and the label of the thread it happened in; the first thread has none. -/
structure Entry where
  thread : Option String
  event : Event

end ManagedRuntime.Scenario
