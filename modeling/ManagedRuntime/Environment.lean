import ManagedRuntime.Settings.Parser

/-! The variables a process is started with. -/
namespace ManagedRuntime

structure Environment where
  bindings : List (String × List UInt8) := []
deriving DecidableEq, Repr

namespace Environment

/-- A variable that is not UTF-8 counts as absent. -/
def lookup (environment : Environment) (key : String) : Option String :=
  (environment.bindings.lookup key).bind fun value => String.fromUTF8? ⟨value.toArray⟩

/-- Whether the variable has any bytes. -/
def isFilled (environment : Environment) (key : String) : Bool :=
  (environment.bindings.lookup key).any (!·.isEmpty)

def settings (environment : Environment) : Except SettingsFault Settings :=
  Settings.ofLookup environment.lookup

end Environment

end ManagedRuntime
