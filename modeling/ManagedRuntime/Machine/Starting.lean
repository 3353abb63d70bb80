import ManagedRuntime.Machine.State

/-! The start of a program, but for its name and its arguments. -/
namespace ManagedRuntime.Machine

/-- Logging and settings come first. -/
def beginStart (machine : Machine) (count : Nat) : Machine :=
  let (settings, machine) := machine.initLogging.readSettings
  machine.logText .debug .start
    ("starting with " ++ toString count ++ " argument(s), " ++ settings.inline)

/-- The entry has returned; so does the start. -/
def endStart (machine : Machine) : Except Trap Unit × Machine :=
  (.ok (), machine.logText .debug .start "entry point returned")

end ManagedRuntime.Machine
