import ManagedRuntime.Exception.Record

/-! The report on an exception nobody caught: a line that names the thread and a line for every
frame, written piece by piece to a writer that may fail at any of them. -/
namespace ManagedRuntime.Exception

/-- One write takes some of the bytes it is offered, from the first one on, and says how many, or it
fails. Writes that are interrupted are made again and do not show. -/
structure Writer (ω ε : Type) where
  write : ω → List UInt8 → Except ε Nat × ω
  /-- The failure when a write takes no byte. -/
  stuck : ε

namespace Writer
variable (writer : Writer ω ε)

/-- Writes until all bytes are taken or a write fails. -/
def writeAll (place : ω) (bytes : List UInt8) : Except ε Unit × ω :=
  match bytes with
  | [] => (.ok (), place)
  | byte :: rest =>
    match writer.write place (byte :: rest) with
    | (.error fault, place) => (.error fault, place)
    | (.ok 0, place) => (.error writer.stuck, place)
    | (.ok (count + 1), place) => writeAll place ((byte :: rest).drop (count + 1))
termination_by bytes.length
decreasing_by simp only [List.length_drop, List.length_cons]; omega

/-- Writes the pieces in order and stops at the first that fails. -/
def writePieces (place : ω) : List (List UInt8) → Except ε Unit × ω
  | [] => (.ok (), place)
  | piece :: rest =>
    match writer.writeAll place piece with
    | (.ok (), place) => writePieces place rest
    | (.error fault, place) => (.error fault, place)

end Writer

/-- Takes bytes until its room is used up, at most `portion + 1` of them at a time. -/
structure Outlet where
  taken : List UInt8 := []
  room : Option Nat := none
  portion : Nat := 0xFFFF
deriving DecidableEq, Repr

namespace Outlet

/-- How many of `count` bytes one write takes. -/
def accepted (outlet : Outlet) (count : Nat) : Nat :=
  match outlet.room with
  | none => min count (outlet.portion + 1)
  | some room => min (min count (outlet.portion + 1)) room

def take (outlet : Outlet) (bytes : List UInt8) : Outlet :=
  { outlet with taken := outlet.taken ++ bytes, room := outlet.room.map (· - bytes.length) }

def write (outlet : Outlet) (bytes : List UInt8) : Except String Nat × Outlet :=
  if outlet.room = some 0 then (.error "full", outlet)
  else
    let count := outlet.accepted bytes.length
    (.ok count, outlet.take (bytes.take count))

def writer : Writer Outlet String := ⟨write, "failed to write whole buffer"⟩

end Outlet

def utf8 (text : String) : List UInt8 := text.toUTF8.data.toList

/-- The symbols found at an address, each with its name if that is known. -/
abbrev Symbols := UInt64 → List (Option String)

/-- Nothing is known of any address. -/
def noSymbols : Symbols := fun _ => []

def reportHeader : Option String → List String
  | some name => ["Exception in thread \"", name, "\"\n"]
  | none => ["Exception in unknown thread\n"]

/-- A frame is shown by the first name found for it, and by its address. -/
def frameLine (symbols : Symbols) (frame : UInt64) : String :=
  "\tat " ++ ((symbols frame).findSome? id).getD "<unknown>" ++ " [" ++
    Text.hexadecimal frame.toNat ++ "]"

def reportPieces (symbols : Symbols) (threadName : Option String) (record : ExceptionRecord) :
    List String :=
  reportHeader threadName ++ record.backtrace.flatMap fun frame => [frameLine symbols frame, "\n"]

def Writer.report (writer : Writer ω ε) (symbols : Symbols) (threadName : Option String)
    (record : ExceptionRecord) (place : ω) : Except ε Unit × ω :=
  writer.writePieces place ((reportPieces symbols threadName record).map utf8)

/-- Writes the report to an outlet; says whether all of it was taken. -/
def report (outlet : Outlet) (threadName : Option String) (record : ExceptionRecord) :
    Bool × Outlet :=
  let (result, outlet) := Outlet.writer.report noSymbols threadName record outlet
  (result.isOk, outlet)

end ManagedRuntime.Exception
