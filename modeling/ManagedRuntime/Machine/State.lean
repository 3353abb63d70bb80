import ManagedRuntime.Console
import ManagedRuntime.Exception.Report
import ManagedRuntime.Heap.Array
import ManagedRuntime.Journal.Logger
import ManagedRuntime.Settings.Cell

/-! One running process: its memory, its settings, what it logged and printed, and how it ended. -/
namespace ManagedRuntime

/-- How a process ended before its work was done. -/
inductive Ending
  | exited (status : Nat)
  | aborted
deriving DecidableEq, Repr

/-- Where log records go, and which ones. -/
inductive LogSink
  /-- No logger is installed yet. -/
  | nowhere
  | console (logger : Logger)
  | journal (threshold : Threshold)

/-- Log text with the threads it speaks of left open. -/
inductive LogPiece
  | text (text : String)
  | thread (token : Token)
deriving DecidableEq, Repr

structure Note where
  severity : Severity
  target : String
  pieces : List LogPiece
deriving DecidableEq, Repr

def Note.render (note : Note) (threadName : Token → String) : LogRecord :=
  ⟨note.severity, note.target, String.join (note.pieces.map fun piece =>
    match piece with
    | .text text => text
    | .thread token => "thread " ++ threadName token)⟩

/-- A thread as its token tells it. -/
def numbered (token : Token) : String := toString token.toNat

/-- What goes to the error stream in one go. -/
inductive ErrorText
  /-- A record that a logger was handed; what it writes of it goes to the stream. -/
  | logged (note : Note) (write : LogRecord → String)
  | plain (bytes : List UInt8)

def ErrorText.bytes : ErrorText → List UInt8
  | .logged note write => Exception.utf8 (write (note.render numbered))
  | .plain bytes => bytes

structure Machine where
  environment : Environment := {}
  /-- Where a logger comes from. -/
  backend : LogBackend := .silent
  settings : SettingsCell := {}
  heap : Heap := {}
  tokens : TokenCounter := {}
  /-- The stubs of the class library have been registered. -/
  hasNatives : Bool := false
  sink : LogSink := .nowhere
  /-- How the journal names threads, the latest name first. -/
  labels : List (Token × String) := []
  /-- Records kept by the journal, oldest first. -/
  journal : List LogRecord := []
  /-- What went to the error stream, in order. -/
  written : List ErrorText := []
  /-- Text on the output stream. -/
  output : List UInt8 := []
  outputBroken : Bool := false
  ended : Option Ending := none

namespace Machine

/-- Log targets, one for each part of the runtime. -/
inductive Part
  | abi
  | allocator
  | array
  | config
  | dispatch
  | error
  | monitor
  | natives
  | start
  | thread
  | unwind
deriving DecidableEq, Repr

def Part.target : Part → String
  | .abi => "jrt::abi"
  | .allocator => "jrt::allocator"
  | .array => "jrt::array"
  | .config => "jrt::config"
  | .dispatch => "jrt::dispatch"
  | .error => "jrt::error"
  | .monitor => "jrt::monitor"
  | .natives => "jrt::natives"
  | .start => "jrt::start"
  | .thread => "jrt::thread"
  | .unwind => "jrt::unwind"

/-- Text on the error stream. -/
def errors (machine : Machine) : List UInt8 := machine.written.flatMap ErrorText.bytes

def writeError (machine : Machine) (text : ErrorText) : Machine :=
  { machine with written := machine.written ++ [text] }

def printError (machine : Machine) (text : String) : Machine :=
  machine.writeError (.plain (Exception.utf8 text))

/-- The name of a thread in the journal. -/
def label (machine : Machine) (token : Token) : String :=
  if token = nobody then "nobody" else (machine.labels.lookup token).getD "?"

/-- The journal names a thread from now on. -/
def addLabel (machine : Machine) (token : Token) (label : String) : Machine :=
  { machine with labels := (token, label) :: machine.labels }

/-- Whether a record of the severity is worded at all; a logger may still drop it. -/
def wordsRecords (machine : Machine) (severity : Severity) : Bool :=
  match machine.sink with
  | .nowhere => false
  | .console logger => logger.ceiling.admits severity
  | .journal threshold => threshold.admits severity

/-- Hands a record to the sink. -/
def keepNote (machine : Machine) (note : Note) : Machine :=
  match machine.sink with
  | .nowhere => machine
  | .console logger => machine.writeError (.logged note logger.write)
  | .journal _ => { machine with journal := machine.journal ++ [note.render machine.label] }

def log (machine : Machine) (severity : Severity) (part : Part) (pieces : List LogPiece) :
    Machine :=
  if machine.wordsRecords severity then machine.keepNote ⟨severity, part.target, pieces⟩
  else machine

def logText (machine : Machine) (severity : Severity) (part : Part) (text : String) : Machine :=
  machine.log severity part [.text text]

/-- Installs the logger that the variables ask for. A later call only warns again of the parts it
cannot read. -/
def initLogging (machine : Machine) : Machine :=
  let warned := machine.printError (machine.backend.warning machine.environment)
  match machine.sink with
  | .nowhere => { warned with sink := .console (machine.backend.logger machine.environment) }
  | .console _ | .journal _ => warned

/-- The settings in force; the first reading fixes them, with a warning when it had to fall back
on the defaults. -/
def readSettings (machine : Machine) : Settings × Machine :=
  match machine.settings.read machine.environment.settings with
  | (settings, .rejected fault, cell) =>
    (settings, { machine with settings := cell }.logText .warn .config
      ("ignoring runtime configuration: " ++ fault.message))
  | (settings, _, cell) => (settings, { machine with settings := cell })

def configure (machine : Machine) (settings : Settings) : Except SettingsFault Machine := do
  let cell ← machine.settings.install settings
  pure { machine with settings := cell }

/-- Gives up: the reason goes to the log and the error stream, then the process aborts. -/
def trap (machine : Machine) (reason : Trap) : Machine :=
  let logged := machine.logText .error .error reason.message
  { logged.printError ("fatal runtime error: " ++ reason.message ++ "\n") with
    ended := some .aborted }

def abort (machine : Machine) : Machine := { machine with ended := some .aborted }

def exit (machine : Machine) (status : Nat) : Machine :=
  { machine with ended := some (.exited status) }

/-- The token in `cell`, drawn now if the thread has none. -/
def currentToken (machine : Machine) (cell : Token) : Token × Machine :=
  let (token, tokens) := machine.tokens.current cell
  (token, { machine with tokens })

end Machine

end ManagedRuntime
