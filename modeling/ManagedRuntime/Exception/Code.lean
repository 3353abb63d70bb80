import ManagedRuntime.Exception.Record
import ManagedRuntime.Settings.Basic

/-! Code of one thread as far as exceptions see it: instructions, and the frames around them that
take part in unwinding. -/
namespace ManagedRuntime.Exception

/-- What travels up a stack when it is unwound. -/
inductive Payload
  | managed (record : ExceptionRecord)
  /-- An unwind this runtime did not raise. -/
  | foreign (message : String)
deriving DecidableEq, Repr

/-- `ι` are the instructions, `κ` names the places that own a frame. -/
inductive Code (ι κ : Type)
  | act (instruction : ι)
  | block (body : List (Code ι κ))
  /-- A catch region; the handler runs outside of it. -/
  | protect (site : κ) (body handler : List (Code ι κ))
  /-- A frame whose cleanup runs when the body ends or is unwound. -/
  | guarded (site : κ) (body cleanup : List (Code ι κ))
  /-- A frame that stops every unwind but is no catch region; it may let the unwind go on. -/
  | intercept (site : κ) (resume : Bool) (body : List (Code ι κ))
  /-- The bottom of a managed stack: whatever escapes the body ends the process. -/
  | outermost (site : κ) (body : List (Code ι κ))

/-- The two counters a thread keeps. -/
structure Counts where
  /-- Catch regions and bottoms that are active. -/
  handlers : Nat := 0
  /-- Records captured and not yet released. -/
  live : Nat := 0
deriving DecidableEq, Repr

namespace Counts

def enterRegion (counts : Counts) : Counts := { counts with handlers := counts.handlers + 1 }
def leaveRegion (counts : Counts) : Counts := { counts with handlers := counts.handlers - 1 }
def capture (counts : Counts) : Counts := { counts with live := counts.live + 1 }
def release (counts : Counts) : Counts := { counts with live := counts.live - 1 }

end Counts

/-- What the surroundings are told while a thread runs. -/
inductive Signal (κ : Type)
  | raising (throwable : Ref)
  | caught (throwable : Ref)
  | released (record : ExceptionRecord)
  /-- A catch region ended, and with what it caught. -/
  | regionLeft (site : κ) (caught : Option Ref)
  | cleaning (site : κ)
  | intercepted (site : κ) (payload : Option Payload)
  | interceptLeft (site : κ)
  | outermostLeft (site : κ)
  /-- A raise found no catch region and returned; `held` when its record was captured before. -/
  | endOfStack (held : Bool) (record : ExceptionRecord)
  /-- Nobody takes the exception: its report is due. -/
  | uncaught (record : ExceptionRecord)
  /-- The report was written and its record released: the process is to exit. -/
  | exited
  | foreignAtBottom
  /-- A cleanup that ran for one unwind was left by another. -/
  | cleanupEscaped

/-- How an instruction ended. -/
inductive Reply (ι κ : Type)
  | done
  /-- The thread has to wait; the instruction is tried again later. -/
  | pending
  | halted
  | run (code : List (Code ι κ))
  | throw (mode : UnwindMode) (record : ExceptionRecord)
  | raise (mode : UnwindMode) (record : ExceptionRecord)
  /-- Raises a record that was captured before. -/
  | raiseHeld (mode : UnwindMode) (record : ExceptionRecord)
  | foreign (message : String)

/-- The surroundings of a thread: they carry out instructions and hear signals. -/
structure Host (ι κ σ : Type) where
  /-- Gets the counters and the number of frames above the instruction. -/
  perform : Counts → Nat → ι → σ → Reply ι κ × Counts × σ
  signal : Counts → Signal κ → σ → σ

end ManagedRuntime.Exception
