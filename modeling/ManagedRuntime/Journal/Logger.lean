import ManagedRuntime.Environment
import ManagedRuntime.Journal.Basic

/-! Loggers. A process takes its logger from outside: what one is like, and how the variables of the
process shape it, is left to whoever provides it. -/
namespace ManagedRuntime

/-- An installed logger. Records above its ceiling are not even worded; what it writes of any other,
if anything, is up to it. -/
structure Logger where
  ceiling : Threshold
  write : LogRecord → String

/-- Is handed nothing. -/
def Logger.silent : Logger := ⟨.off, fun _ => ""⟩

/-- Where loggers come from. -/
structure LogBackend where
  logger : Environment → Logger
  /-- What is said of variables that do not ask properly for a logger. -/
  warning : Environment → String

/-- Has nothing but a logger that is handed nothing. -/
def LogBackend.silent : LogBackend := ⟨fun _ => .silent, fun _ => ""⟩

end ManagedRuntime
