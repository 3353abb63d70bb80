import ManagedRuntime.Text.Hexadecimal
import ManagedRuntime.Text.Pattern.Basic
import ManagedRuntime.Text.Pattern.Flags

/-! What a backslash makes of the characters behind it. -/
namespace ManagedRuntime.Text.Pattern

inductive Escape
  | char (c : Char)
  | set (set : CharSet)
  | edge (place : Edge)
deriving DecidableEq, Repr

/-! Code points. -/

def hexValue (digits : List Char) : Nat :=
  digits.foldl (fun value c => value * 16 +
    (if c.isDigit then c.toNat - 0x30 else c.toLower.toNat - 0x57)) 0

def codePoint? (digits : List Char) : Option Char :=
  let value := hexValue digits
  if digits.isEmpty || !value.isValidChar then none else some (Char.ofNat value)

/-- Exactly `width` hexadecimal digits. -/
def Flags.takeDigits? (flags : Flags) : Nat → List Char → Option (List Char × List Char)
  | 0, cs => some ([], cs)
  | _ + 1, [] => none
  | width + 1, c :: rest => do
    if !isHexDigit c then none
    let (digits, behind) ← flags.takeDigits? width (flags.skipLayout rest)
    pure (c :: digits, behind)

/-- A code point as `width` digits, or as any number of them in braces. Two digits without braces
are a byte, and a byte of a longer character is refused where only ASCII is meant. -/
def codePointEscape? (flags : Flags) (width : Nat) (cs : List Char) :
    Option (Escape × List Char) := do
  match flags.skipLayout cs with
  | '\x7b' :: rest =>
    match flags.takeWanted isHexDigit (flags.skipLayout rest) with
    | (digits, '\x7d' :: behind) => pure (.char (← codePoint? digits), flags.skipLayout behind)
    | _ => none
  | rest =>
    let (digits, behind) ← flags.takeDigits? width rest
    let c ← codePoint? digits
    if !flags.allScripts && width == 2 && 0x80 ≤ c.toNat then none
    pure (.char c, behind)

/-! Edges of words. -/

def namedEdges : List (String × Edge) :=
  [("start", .wordStart), ("end", .wordEnd), ("start-half", .wordStartHalf),
    ("end-half", .wordEndHalf)]

def Flags.wordEdge (flags : Flags) (place : Edge) : Edge :=
  if flags.allScripts then .scriptEdge else place

/-- The edge may have its name behind it in braces; braces that begin with something else than a
name are left for a repetition. -/
def wordEdgeEscape? (flags : Flags) (cs : List Char) : Option (Escape × List Char) :=
  let plain := some (Escape.edge (flags.wordEdge .wordEdge), cs)
  match cs with
  | '\x7b' :: inside =>
    let isNameChar (c : Char) := c.isAlpha || c == '-'
    match flags.takeWanted isNameChar (flags.skipLayout inside) with
    | ([], rest) => if rest.isEmpty then none else plain
    | (name, '\x7d' :: behind) =>
      (namedEdges.lookup (String.ofList name)).map fun place =>
        (.edge (flags.wordEdge place), behind)
    | _ => none
  | _ => plain

/-! Classes. -/

def digits : CharSet := .range '0' '9'

def blanks : CharSet := .ofRanges [('\t', '\r'), (' ', ' ')]

def wordChars : CharSet := .ofRanges [('0', '9'), ('A', 'Z'), ('_', '_'), ('a', 'z')]

def classEscape? (flags : Flags) (set : CharSet) (rest : List Char) :
    Option (Escape × List Char) :=
  if flags.allScripts then none else some (.set set, rest)

/-- Reads what follows a backslash. Letters and digits without a meaning are refused; all other
characters of ASCII stand for themselves. The complement of a class would take parts of longer
characters, or needs the tables of all scripts, so it has no meaning. -/
def escape? (flags : Flags) : List Char → Option (Escape × List Char)
  | [] => none
  | c :: rest =>
    match c with
    | 'd' => classEscape? flags digits rest
    | 's' => classEscape? flags blanks rest
    | 'w' => classEscape? flags wordChars rest
    | 'n' => some (.char '\n', rest)
    | 't' => some (.char '\t', rest)
    | 'r' => some (.char '\r', rest)
    | 'a' => some (.char '\x07', rest)
    | 'v' => some (.char '\x0b', rest)
    | 'f' => some (.char '\x0c', rest)
    | 'A' => some (.edge .textStart, rest)
    | 'z' => some (.edge .textEnd, rest)
    | 'b' => wordEdgeEscape? flags rest
    | 'B' => some (.edge (flags.wordEdge .noWordEdge), rest)
    | '<' => some (.edge (flags.wordEdge .wordStart), rest)
    | '>' => some (.edge (flags.wordEdge .wordEnd), rest)
    | 'x' => codePointEscape? flags 2 rest
    | 'u' => codePointEscape? flags 4 rest
    | 'U' => codePointEscape? flags 8 rest
    | c => if c.toNat < 0x80 && !c.isAlphanum then some (.char c, rest) else none

end ManagedRuntime.Text.Pattern
