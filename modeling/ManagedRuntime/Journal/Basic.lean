import ManagedRuntime.Text.Case

/-! Log records and their severities. -/
namespace ManagedRuntime

inductive Severity
  | error
  | warn
  | info
  | debug
  | trace
deriving DecidableEq, Repr

namespace Severity

def rank : Severity → Nat
  | .error => 1
  | .warn => 2
  | .info => 3
  | .debug => 4
  | .trace => 5

def name : Severity → String
  | .error => "ERROR"
  | .warn => "WARN"
  | .info => "INFO"
  | .debug => "DEBUG"
  | .trace => "TRACE"

/-- The name filled up to five characters. -/
def column (severity : Severity) : String :=
  severity.name ++ String.ofList (List.replicate (5 - severity.name.length) ' ')

end Severity

/-- The least urgent severity that is kept, if any is. -/
structure Threshold where
  least : Option Severity
deriving DecidableEq, Repr

namespace Threshold

/-- Keeps nothing. -/
def off : Threshold := ⟨none⟩

/-- Keeps everything. -/
def all : Threshold := ⟨some .trace⟩

def rank (threshold : Threshold) : Nat := (threshold.least.map (·.rank)).getD 0

def admits (threshold : Threshold) (severity : Severity) : Bool := severity.rank ≤ threshold.rank

/-- A lower threshold keeps less. -/
instance : LE Threshold := ⟨fun lower upper => lower.rank ≤ upper.rank⟩

instance : DecidableLE Threshold := fun lower upper => Nat.decLe lower.rank upper.rank

instance : Max Threshold := maxOfLe

/-- The name of the least severity in any case, or `off`. -/
def ofName? (name : String) : Option Threshold :=
  match Text.lowerCase name with
  | "off" => some off
  | "error" => some ⟨some .error⟩
  | "warn" => some ⟨some .warn⟩
  | "info" => some ⟨some .info⟩
  | "debug" => some ⟨some .debug⟩
  | "trace" => some all
  | _ => none

end Threshold

structure LogRecord where
  severity : Severity
  target : String
  text : String
deriving DecidableEq, Repr

/-- Whether lines of the log carry colours for a terminal. -/
inductive LineStyle
  | plain
  | coloured
deriving DecidableEq, Repr

namespace LineStyle

/-- Switches a terminal to a colour; errors are bold. -/
def severityMark : LineStyle → Severity → String
  | .plain, _ => ""
  | .coloured, .error => "\x1b[1m\x1b[31m"
  | .coloured, .warn => "\x1b[33m"
  | .coloured, .info => "\x1b[32m"
  | .coloured, .debug => "\x1b[34m"
  | .coloured, .trace => "\x1b[36m"

/-- Switches a terminal back. -/
def resetMark : LineStyle → String
  | .plain => ""
  | .coloured => "\x1b[0m"

/-- Brackets are grey. -/
def bracket (style : LineStyle) (text : String) : String :=
  match style with
  | .plain => text
  | .coloured => "\x1b[90m" ++ text ++ style.resetMark

end LineStyle

def LogRecord.line (record : LogRecord) (style : LineStyle) : String :=
  style.bracket "[" ++ style.severityMark record.severity ++ record.severity.column ++
    style.resetMark ++ " " ++ record.target ++ style.bracket "]" ++ " " ++ record.text

end ManagedRuntime
