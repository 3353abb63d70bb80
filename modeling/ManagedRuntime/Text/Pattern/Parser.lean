import ManagedRuntime.Text.Letter
import ManagedRuntime.Text.Pattern.Automaton
import ManagedRuntime.Text.Pattern.Class

/-! Patterns read from text, in the notation of regular expressions: classes, groups, flags, edges
and repetitions. Text that does not follow the notation gives no pattern, and neither does one that
is nested too deeply or needs too large an automaton. -/
namespace ManagedRuntime.Text.Pattern

/-- The deepest nesting of groups, classes, repetitions, choices and sequences. -/
def depthLimit : Nat := 250

/-! Groups. -/

inductive Opening
  /-- A group, numbered unless it is there for its flags only. -/
  | group (numbered : Bool) (name : Option (List Char)) (changes : List FlagChange)
  /-- Flags for the rest of the group around. -/
  | flags (changes : List FlagChange)
deriving DecidableEq, Repr

def isGroupName : List Char → Bool
  | [] => false
  | c :: rest => (isLetter c || c == '_') &&
      rest.all fun c => isLetter c || isNumeral c || "_.[]".toList.contains c

def namedGroup? (cs : List Char) : Option (Opening × List Char) :=
  let name := cs.takeWhile (· != '>')
  match cs.dropWhile (· != '>') with
  | [] => none
  | _ :: behind => if isGroupName name then some (.group true (some name) [], behind) else none

/-- What follows an opening parenthesis. -/
def opening? : List Char → Option (Opening × List Char)
  | '?' :: 'P' :: '<' :: rest => namedGroup? rest
  | '?' :: '<' :: rest => namedGroup? rest
  | '?' :: rest =>
    let isEnd (c : Char) := c == ':' || c == ')'
    let letters := rest.takeWhile (!isEnd ·)
    match rest.dropWhile (!isEnd ·) with
    | ':' :: behind =>
      (flagChanges? letters).map fun changes => (.group false none changes, behind)
    | ')' :: behind =>
      if letters.isEmpty then none
      else (flagChanges? letters).map fun changes => (.flags changes, behind)
    | _ => none
  | rest => some (.group true none [], rest)

/-! Repetitions. -/

structure Limits where
  least : Nat
  most : Option Nat
deriving DecidableEq, Repr

def count? (flags : Flags) (cs : List Char) : Option (Nat × List Char) :=
  match flags.takeWanted Char.isDigit (cs.dropWhile isBlank) with
  | ([], _) => none
  | (digits, rest) =>
    let value := digits.foldl (fun value c => value * 10 + (c.toNat - 0x30)) 0
    if value < UInt32.size then some (value, rest.dropWhile isBlank) else none

/-- The limits of a repetition behind its opening brace. -/
def limits? (flags : Flags) (cs : List Char) : Option (Limits × List Char) := do
  let (least, rest) ← count? flags (flags.skipLayout cs)
  match rest with
  | '\x7d' :: rest => pure (⟨least, some least⟩, flags.skipLayout rest)
  | ',' :: rest =>
    match flags.skipLayout rest with
    | '\x7d' :: rest => pure (⟨least, none⟩, flags.skipLayout rest)
    | rest =>
      match ← count? flags rest with
      | (most, '\x7d' :: rest) =>
        if least ≤ most then pure (⟨least, some most⟩, flags.skipLayout rest) else none
      | _ => none
  | _ => none

/-! Pieces. -/

/-- A part of the text that has been read. -/
structure Piece where
  pattern : Pattern
  /-- How deep the notation is nested in it. -/
  depth : Nat := 0
  /-- Whether it only sets flags; then it cannot be repeated. -/
  setsFlags : Bool := false

/-- A group that is being read: the alternatives before the last bar and the pieces behind it,
last ones first. -/
structure Level where
  flags : Flags := {}
  /-- The number of the group, if it has one. -/
  number : Option Nat := none
  alternatives : List Piece := []
  pieces : List Piece := []

namespace Level

def add (level : Level) (piece : Piece) : Level := { level with pieces := piece :: level.pieces }

/-- The pieces behind the last bar; several ones are a level of nesting. -/
def alternative (level : Level) : Piece :=
  match level.pieces with
  | [piece] => { pattern := piece.pattern, depth := piece.depth }
  | pieces =>
    { pattern := .ofSequence (pieces.reverse.map (·.pattern))
      depth := (pieces.map (·.depth + 1)).foldl max 0 }

def nextAlternative (level : Level) : Level :=
  { level with alternatives := level.alternative :: level.alternatives, pieces := [] }

/-- All that was read; alternatives are a level of nesting. -/
def whole (level : Level) : Piece :=
  match level.alternatives with
  | [] => level.alternative
  | earlier =>
    let alternatives := level.alternative :: earlier
    { pattern := .ofChoice (alternatives.reverse.map (·.pattern))
      depth := (alternatives.map (·.depth + 1)).foldl max 0 }

/-- The group as a piece of the one around it. -/
def asPiece (level : Level) : Piece :=
  let whole := level.whole
  { pattern := match level.number with
      | some number => .group number whole.pattern
      | none => whole.pattern
    depth := whole.depth + 1 }

/-- Repeats the last piece. -/
def repeatLast? (level : Level) (limits : Limits) (greedy : Bool) : Option Level :=
  match level.pieces with
  | [] => none
  | last :: pieces =>
    if last.setsFlags then none
    else
      some { level with pieces :=
        { pattern := .ofRepetition last.pattern limits.least limits.most
            (greedy != level.flags.swapGreed)
          depth := last.depth + 1 } :: pieces }

end Level

/-- What has been read of a text: the present group, those around it, and the groups so far. -/
structure Reading where
  level : Level := {}
  outer : List Level := []
  numbered : Nat := 0
  names : List (List Char) := []

namespace Reading

def add (reading : Reading) (piece : Piece) : Reading :=
  { reading with level := reading.level.add piece }

/-- A name may be given once. -/
def open? (reading : Reading) : Opening → Option Reading
  | .flags changes =>
      some { reading with
        level := { reading.level.add { pattern := .empty, setsFlags := true } with
          flags := reading.level.flags.change changes } }
  | .group numbered name changes =>
    if name.any reading.names.contains then none
    else
      let count := if numbered then reading.numbered + 1 else reading.numbered
      some { level :=
              { flags := reading.level.flags.change changes
                number := if numbered then some count else none }
             outer := reading.level :: reading.outer
             numbered := count
             names := name.toList ++ reading.names }

def close? (reading : Reading) : Option Reading :=
  match reading.outer with
  | [] => none
  | around :: outer =>
      some { reading with level := around.add reading.level.asPiece, outer }

/-- A question mark behind a repetition changes which matches it prefers. -/
def repeat? (reading : Reading) (limits : Limits) (rest : List Char) :
    Option (Reading × List Char) := do
  let (greedy, rest) := match rest with
    | '?' :: rest => (false, rest)
    | _ => (true, rest)
  pure ({ reading with level := ← reading.level.repeatLast? limits greedy }, rest)

end Reading

/-- A character; a letter of ASCII stands for both cases if case does not count. -/
def charPattern? (flags : Flags) (c : Char) : Option Pattern :=
  (if c.toNat < 0x80 then flags.foldCase? (.single c)
    else if flags.ignoreCase && flags.allScripts then none else some (.single c)).map .ofSet

def escapePattern? (flags : Flags) : Escape → Option Pattern
  | .char c => charPattern? flags c
  | .set set => some (.ofSet set)
  | .edge place => some (.edge place)

/-- Any character, or any that does not end a line; where only ASCII is meant it would match parts
of longer characters. -/
def dotPattern? (flags : Flags) : Option Pattern :=
  let lineEnds : CharSet :=
    if flags.dotAll then .empty
    else if flags.carriageReturns then .ofRanges [('\n', '\n'), ('\r', '\r')]
    else .single '\n'
  if flags.allScripts then some (.oneOf lineEnds.complement) else none

def firstEdge (flags : Flags) : Edge :=
  if !flags.multiLine then .textStart
  else if flags.carriageReturns then .returnedLineStart
  else .lineStart

def lastEdge (flags : Flags) : Edge :=
  if !flags.multiLine then .textEnd
  else if flags.carriageReturns then .returnedLineEnd
  else .lineEnd

/-- Reads on from a character. -/
def step? (reading : Reading) (c : Char) (rest : List Char) : Option (Reading × List Char) :=
  let flags := reading.level.flags
  let piece (pattern : Pattern) (rest : List Char) := (reading.add { pattern }, rest)
  match c with
  | '|' => some ({ reading with level := reading.level.nextAlternative }, rest)
  | '(' => do
    let (opening, rest) ← opening? (flags.skipLayout rest)
    pure (← reading.open? opening, rest)
  | ')' => do pure (← reading.close?, rest)
  | '*' => reading.repeat? ⟨0, none⟩ rest
  | '+' => reading.repeat? ⟨1, none⟩ rest
  | '?' => reading.repeat? ⟨0, some 1⟩ rest
  | '\x7b' => do
    let (limits, rest) ← limits? flags rest
    reading.repeat? limits rest
  | '[' => do
    let (set, depth, rest) ← class? flags rest
    pure (reading.add { pattern := .ofSet set, depth }, rest)
  | '.' => (dotPattern? flags).map (piece · rest)
  | '^' => some (piece (.edge (firstEdge flags)) rest)
  | '$' => some (piece (.edge (lastEdge flags)) rest)
  | '\\' => do
    let (escape, rest) ← escape? flags rest
    pure (piece (← escapePattern? flags escape) rest)
  | c => (charPattern? flags c).map (piece · rest)

/-- Each step takes a character at least, so `fuel` is enough when it is above the length. -/
def read? : Nat → Reading → List Char → Option Piece
  | 0, _, _ => none
  | fuel + 1, reading, cs =>
    match reading.level.flags.skipLayout cs with
    | [] => if reading.outer.isEmpty then some reading.level.whole else none
    | c :: rest => do
      let (reading, rest) ← step? reading c rest
      read? fuel reading rest

def ofText? (text : String) : Option Pattern := do
  let cs := text.toList
  let whole ← read? (cs.length + 1) {} cs
  if whole.depth ≤ depthLimit && !whole.pattern.mentions .scriptEdge && whole.pattern.fits then
    pure whole.pattern
  else none

end ManagedRuntime.Text.Pattern
