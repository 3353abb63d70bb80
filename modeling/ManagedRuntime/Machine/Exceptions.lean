import ManagedRuntime.Exception.Code
import ManagedRuntime.Machine.State

/-! What exceptions log, and the report on one that nobody caught. -/
namespace ManagedRuntime.Machine
open Exception

def logRaising (machine : Machine) (throwable : Ref) (handlers : Nat) : Machine :=
  machine.logText .debug .unwind
    ("raising " ++ throwable.inline ++ " through " ++ toString handlers ++ " catch region(s)")

def logCaught (machine : Machine) (throwable : Ref) : Machine :=
  machine.logText .debug .unwind ("caught " ++ throwable.inline)

def logReleased (machine : Machine) (record : ExceptionRecord) : Machine :=
  machine.logText .debug .unwind
    ("released exception record for " ++ record.throwable.inline ++ " (" ++
      toString record.backtrace.length ++ " frames)")

/-- How a reference is thrown by the settings in force, and the record it is thrown with. -/
def throw (machine : Machine) (throwable : Ref) (stack : List UInt64) :
    UnwindMode × ExceptionRecord × Machine :=
  let (settings, machine) := machine.readSettings
  (settings.unwind, .capture throwable settings.backtraceDepth stack, machine)

/-- Behind the slot of an abstract method. -/
def abstractMethodCalled (machine : Machine) : Machine := machine.trap .abstractMethodCalled

/-- Nobody caught the exception: its report is written, as a whole. -/
def reportUncaught (machine : Machine) (threadName : Option String) (record : ExceptionRecord) :
    Machine :=
  let outlet := (report {} threadName record).2
  machine.writeError (.plain outlet.taken)

end ManagedRuntime.Machine
