import ManagedRuntime.Inspector
import ManagedRuntime.Journal.Filter

/-! The command line of the inspector. -/
open ManagedRuntime

/-- The variables the runtime looks at, as far as they are set. -/
def readEnvironment : IO Environment := do
  let keys := [Settings.unwindKey, Settings.strictMonitorsKey, Settings.backtraceDepthKey,
    Settings.logKey]
  let bindings ← keys.filterMapM fun key => do
    pure ((← IO.getEnv key).map fun value => (key, value.toUTF8.data.toList))
  pure { bindings }

def main (arguments : List String) : IO UInt32 := do
  let outcome := Inspector.run filteredLog
    (arguments.map fun argument => argument.toUTF8.data.toList)
    (← readEnvironment)
  IO.print outcome.output
  IO.eprint outcome.errors
  pure (UInt32.ofNat outcome.exit)
