import ManagedRuntime.Fault
import ManagedRuntime.Memory.Word
import ManagedRuntime.Settings.Basic
import ManagedRuntime.Text.Blank
import ManagedRuntime.Text.Case

/-! Settings read from text. Blanks around a value and the case of ASCII letters do not matter;
an absent key keeps its default; the first bad key in the order unwind mode, strictness, depth
is the one reported. -/
namespace ManagedRuntime.Settings
open Text

/-- The value in the form it is compared in. -/
def normalize (value : String) : String := lowerCase (trimmed value)

def unwindMode? (value : String) : Option UnwindMode :=
  match normalize value with
  | "propagate" => some .propagate
  | "terminate" => some .terminate
  | "abort" => some .terminate
  | _ => none

def flag? (value : String) : Option Bool :=
  match normalize value with
  | "1" | "true" | "yes" | "on" => some true
  | "0" | "false" | "no" | "off" | "" => some false
  | _ => none

/-- One more decimal digit behind `value`, refused when the number leaves 64 bits. -/
def appendDigit? (value : UInt64) (c : Char) : Option UInt64 :=
  if c.isDigit then do
    let shifted ← Memory.checkedMul? value 10
    Memory.checkedAdd? shifted (UInt64.ofNat (c.toNat - '0'.toNat))
  else none

/-- An optional plus sign and one or more ASCII digits whose value fits 64 bits. -/
def decimal? : List Char → Option UInt64
  | [] => none
  | ['+'] => none
  | '+' :: digits => digits.foldlM appendDigit? 0
  | digits => digits.foldlM appendDigit? 0

/-- A positive number of frames. -/
def depth? (value : String) : Option UInt64 :=
  (decimal? (trimBlanks value.toList)).filter (0 < ·)

/-- Replaces a default by the value read for `key`, if the key is present. -/
def readKey (lookup : String → Option String) (key : String) (read? : String → Option α)
    (fault : String → String → SettingsFault) (default : α) : Except SettingsFault α :=
  match lookup key with
  | none => .ok default
  | some value =>
    match read? value with
    | some result => .ok result
    | none => .error (fault key value)

def ofLookup (lookup : String → Option String) : Except SettingsFault Settings := do
  let unwind ← readKey lookup unwindKey unwindMode? .unknownUnwindMode .propagate
  let strictMonitors ← readKey lookup strictMonitorsKey flag? .invalidFlag false
  let backtraceDepth ← readKey lookup backtraceDepthKey depth? .invalidDepth 64
  pure { unwind, strictMonitors, backtraceDepth }

end ManagedRuntime.Settings
