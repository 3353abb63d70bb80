import ManagedRuntime.Journal.Basic
import ManagedRuntime.Text.Hexadecimal

/-! Digests of what a process wrote to its error stream. Addresses and stack heights differ from
run to run; a digest masks them and drops lines that are not the runtime's own. -/
namespace ManagedRuntime.Console
open Text

/-- Where a scan for addresses stands. -/
inductive Scan
  | outside
  | marker
  | digits
deriving DecidableEq, Repr

/-- Every number behind `0x` becomes a question mark. -/
def maskAddresses : Scan → List Char → List Char
  | _, [] => []
  | .marker, _ :: rest => maskAddresses .digits rest
  | scan, c :: rest =>
    if scan = .digits ∧ isHexDigit c then maskAddresses .digits rest
    else
      match c, rest with
      | '0', 'x' :: digit :: _ =>
        if isHexDigit digit then '0' :: 'x' :: '?' :: maskAddresses .marker rest
        else '0' :: maskAddresses .outside rest
      | c, _ => c :: maskAddresses .outside rest

def decimalValue (digits : List Char) : Nat :=
  digits.foldl (fun value c => value * 10 + (c.toNat - '0'.toNat)) 0

/-- A number of frames above three is given as three. -/
def visibleFrames (count : Nat) : Nat := min count 3

/-- Masks numbers in front of ` frames)`; `digits` are those just read, last one first. -/
def maskFrameCounts : List Char → List Char → List Char
  | digits, [] => digits.reverse
  | digits, c :: rest =>
    if c.isDigit then maskFrameCounts (c :: digits) rest
    else if !digits.isEmpty && " frames)".toList.isPrefixOf (c :: rest) then
      (toString (visibleFrames (decimalValue digits.reverse))).toList ++
        c :: maskFrameCounts [] rest
    else digits.reverse ++ c :: maskFrameCounts [] rest

def mask (text : String) : String :=
  String.ofList (maskFrameCounts [] (maskAddresses .outside text.toList))

/-- The text of a record; only the chatty severities show addresses. -/
def maskedText (record : LogRecord) : String :=
  match record.severity with
  | .debug | .trace => mask record.text
  | .error | .warn | .info => record.text

def maskedLine (line : String) : String :=
  if line.startsWith "[DEBUG" || line.startsWith "[TRACE" then mask line else line

def isFrameLine (line : String) : Bool := line.startsWith "\tat "

def isKept (line : String) : Bool :=
  line.startsWith "fatal runtime error: " || line.startsWith "Exception in " ||
    line.startsWith "invalid configuration: " || line.startsWith "["

def frameEntry (frames : Nat) : List String :=
  if frames = 0 then [] else ["frames " ++ toString (visibleFrames frames)]

/-- A run of frame lines becomes one entry; `frames` counts the run so far. -/
def digestLines : Nat → List String → List String
  | frames, [] => frameEntry frames
  | frames, line :: rest =>
    if isFrameLine line then digestLines (frames + 1) rest
    else if isKept line then frameEntry frames ++ maskedLine line :: digestLines 0 rest
    else frameEntry frames ++ digestLines 0 rest

/-- A carriage return in front of a line feed belongs to the line's end. -/
def endedLine (line : String) : String :=
  if line.endsWith "\r" then (line.dropEnd 1).toString else line

def lines (text : String) : List String :=
  let pieces := text.splitOn "\n"
  pieces.dropLast.map endedLine ++ pieces.getLast?.toList

def digest (text : String) : List String := digestLines 0 (lines text)

end ManagedRuntime.Console
