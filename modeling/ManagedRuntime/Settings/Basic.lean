/-! What a process can be told about its behaviour, and where it is told. -/
namespace ManagedRuntime

inductive UnwindMode
  /-- A throw looks for a catch region. -/
  | propagate
  /-- A throw is reported where it happens, whatever regions enclose it. -/
  | terminate
deriving DecidableEq, Repr

structure Settings where
  unwind : UnwindMode := .propagate
  /-- Whether monitor misuse ends the process. -/
  strictMonitors : Bool := false
  /-- Most frames a backtrace keeps. -/
  backtraceDepth : UInt64 := 64
deriving DecidableEq, Repr

namespace Settings

def unwindKey : String := "JRT_UNWIND"
def strictMonitorsKey : String := "JRT_STRICT_MONITORS"
def backtraceDepthKey : String := "JRT_BACKTRACE_DEPTH"
def logKey : String := "JRT_LOG"

end Settings

def UnwindMode.typeName : UnwindMode → String
  | .propagate => "Propagate"
  | .terminate => "Terminate"

/-- One line, as the journal shows settings. -/
def Settings.inline (settings : Settings) : String :=
  "RuntimeConfig \x7b unwind: " ++ settings.unwind.typeName ++ ", strict_monitors: " ++
    toString settings.strictMonitors ++ ", backtrace_depth: " ++
    toString settings.backtraceDepth.toNat ++ " \x7d"

/-- One line a field, as the inspector shows settings. -/
def Settings.listing (settings : Settings) : String :=
  "RuntimeConfig \x7b\n    unwind: " ++ settings.unwind.typeName ++ ",\n    strict_monitors: " ++
    toString settings.strictMonitors ++ ",\n    backtrace_depth: " ++
    toString settings.backtraceDepth.toNat ++ ",\n\x7d"

end ManagedRuntime
