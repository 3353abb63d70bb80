import ManagedRuntime.Exception.Strand
import ManagedRuntime.Machine.EntryPoints
import ManagedRuntime.Machine.Exceptions
import ManagedRuntime.Scenario.Event
import ManagedRuntime.Scenario.Instruction
import ManagedRuntime.Thread.Completion

/-! Where a scenario stands: the process, its threads, the names given so far and a clock. -/
namespace ManagedRuntime.Scenario
open Exception

/-- Why a thread does not run at the moment. -/
inductive Waiting
  | ready
  /-- Inside a request to a monitor, maybe with a time to give up at. -/
  | inMonitor (object : UInt64) (deadline : Option Nat)
  | inJoin (thread : Nat) (deadline : Option Nat)
  | untilTime (deadline : Nat)
  /-- Until another thread is done with the job it was given. -/
  | forJob (thread : Nat) (deadline : Option Nat)
  | forFinished (count : Nat)
  | forEnd (threads : List Nat) (deadline : Option Nat)
  /-- Between jobs. -/
  | forWork

structure Job where
  verb : String
  finished : Bool := false

structure Thread where
  label : Option String := none
  /-- What it told that nobody has collected yet, last first. -/
  told : List Entry := []
  /-- The name the system knows the thread by. -/
  systemName : Option String := none
  /-- The name it was given from inside; the first one stays. -/
  ownName : Option String := none
  token : Token := nobody
  strand : Strand Instruction Site := { control := .returned }
  waiting : Waiting := .ready
  job : Option Job := none
  /-- Steps the thread has still to pick up. -/
  inbox : Option (List Step) := none
  toldToEnd : Bool := false
  completion : Completion := {}
  /-- The value a compiled method holds between its steps. -/
  scratch : UInt32 := 0
  /-- The argument array of the program that is being started. -/
  arguments : Ref := .null

/-- What the levels of a nest count. -/
structure NestTally where
  caught : Nat := 0
  cleanups : Nat := 0
  last : Ref := .null

structure State where
  machine : Machine
  threads : Array Thread
  clock : Nat := 0
  /-- The thread that runs. -/
  running : Nat := 0
  /-- Where the code of stubs and compiled methods begins. -/
  codeBase : Nat := 0
  /-- Names of references, last one first. -/
  references : List (String × Ref) := []
  tables : List (String × UInt64) := []
  /-- Objects the scenario made itself. -/
  made : List UInt64 := []
  records : List (String × ExceptionRecord) := []
  nests : List (Nat × NestTally) := []

namespace State

def thread (state : State) (index : Nat) : Thread := state.threads.getD index {}

def updateThread (state : State) (index : Nat) (change : Thread → Thread) : State :=
  { state with threads := state.threads.modify index change }

def setWaiting (state : State) (index : Nat) (waiting : Waiting) : State :=
  state.updateThread index fun thread => { thread with waiting }

/-- The latest thread with the label. -/
def indexOf? (state : State) (label : String) : Option Nat :=
  (List.range state.threads.size).reverse.find? fun index =>
    (state.thread index).label == some label

/-- Adds an entry to the thread's account. -/
def tellEntry (state : State) (index : Nat) (entry : Entry) : State :=
  state.updateThread index fun thread => { thread with told := entry :: thread.told }

def logEntry (state : State) (index : Nat) (record : LogRecord) : Entry :=
  ⟨(state.thread index).label, .log record.severity (Console.maskedText record)⟩

/-- Moves what the process logged to the account of the thread that caused it. -/
def flushJournal (state : State) (index : Nat) : State :=
  state.machine.journal.foldl
    (fun told record => told.tellEntry index (state.logEntry index record))
    { state with machine := { state.machine with journal := [] } }

def tell (state : State) (index : Nat) (event : Event) : State :=
  (state.flushJournal index).tellEntry index ⟨(state.thread index).label, event⟩

def setMachine (state : State) (machine : Machine) : State := { state with machine }

/-- The thread's token, drawn now if it has none. -/
def currentToken (state : State) (index : Nat) : Token × State :=
  let (token, machine) := state.machine.currentToken (state.thread index).token
  (token, { state with machine }.updateThread index fun thread => { thread with token })

/-- Asks a thread for its token; the journal names the thread from then on. -/
def askToken (state : State) (index : Nat) (label : String) : State :=
  let (token, state) := state.currentToken index
  state.setMachine (state.machine.addLabel token label)

def reference (state : State) (name : String) : Ref := (state.references.lookup name).getD .null

def bind (state : State) (name : String) (r : Ref) : State :=
  { state with references := (name, r) :: state.references }

/-- The first name a reference was given. -/
def nameOf (state : State) (r : Ref) : Option String :=
  (state.references.reverse.find? (·.2 == r)).map (·.1)

def tableAddress (state : State) : Option String → UInt64
  | none => 0
  | some name => (state.tables.lookup name).getD 0

def tableName (state : State) (address : UInt64) : Option String :=
  if address = 0 then none else (state.tables.reverse.find? (·.2 == address)).map (·.1)

def recordView (state : State) (record : ExceptionRecord) (counts : Counts) : RecordView :=
  ⟨state.nameOf record.throwable, Console.visibleFrames record.backtrace.length, counts.live⟩

/-- The name by which a thread reports: its own, or else the system's. -/
def currentName (state : State) (index : Nat) : Option String :=
  let thread := state.thread index
  thread.ownName.or thread.systemName

/-- The thread's token for the text of a record, drawn only when there is one to word. -/
def tokenToWord (state : State) (index : Nat) (worded : Bool) : Token × State :=
  let cell := (state.thread index).token
  let (token, tokens) :=
    if worded then state.machine.tokens.current cell else (cell, state.machine.tokens)
  (token, { state with machine := { state.machine with tokens } }.updateThread index
    fun thread => { thread with token })

/-- Gives a thread its own name, which the log tells with its token. -/
def nameAs (state : State) (index : Nat) (token : Token) (name : String) : State :=
  (state.updateThread index fun thread => { thread with ownName := some name }).setMachine
    (state.machine.log .trace .thread [.thread token, .text (" named " ++ Text.quoted name)])

/-- Names a thread, unless it has a name of its own, and says whether it had none. -/
def setOwnName (state : State) (index : Nat) (name : String) : Bool × State :=
  match (state.thread index).ownName with
  | some _ => (false, state)
  | none =>
    let (token, state) := state.tokenToWord index (state.machine.wordsRecords .trace)
    (true, state.nameAs index token name)

def tally (state : State) (nest : Nat) : NestTally := (state.nests.lookup nest).getD {}

def updateTally (state : State) (nest : Nat) (change : NestTally → NestTally) : State :=
  { state with nests := (nest, change (state.tally nest)) :: state.nests.filter (·.1 != nest) }

/-- The return addresses on a stack with `height` frames of a scenario. -/
def stackOf (height : Nat) : List UInt64 :=
  (List.range (height + 3)).map fun frame => UInt64.ofNat (0x400000 + 16 * frame)

end State

end ManagedRuntime.Scenario
