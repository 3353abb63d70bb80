import ManagedRuntime.Text.Pattern.Basic
import ManagedRuntime.Text.Utf8

/-! The room that an automaton for a pattern takes. The automaton reads bytes, and repetitions are
written out in it, so a short pattern can need a large one; patterns that need too much room are
refused. Two automata count: one that reads forward and notes the ends of groups, and one that
reads backward and does not. -/
namespace ManagedRuntime.Text

namespace Automaton

/-- Room of a state, of a byte range that leads out of it, and of a branch without reading. -/
def stateRoom : Nat := 32
def rangeRoom : Nat := 8
def branchRoom : Nat := 4

def totalRoom (rooms : List Nat) : Nat := rooms.foldl (· + ·) 0

/-- The most room an automaton may take. -/
def roomLimit : Nat := 10 * (1 <<< 20)

/-! Sets. -/

/-- Sequences next to each other that begin alike, put together by what they begin with. -/
def groupByFirst [BEq α] : List (List α) → List (α × List (List α))
  | [] => []
  | [] :: rest => groupByFirst rest
  | (first :: behind) :: rest =>
    match groupByFirst rest with
    | (other, others) :: groups =>
      if first == other then (first, behind :: others) :: groups
      else (first, [behind]) :: (other, others) :: groups
    | [] => [(first, [behind])]

/-- The states that read the sequences forward, level by level. Each is known by what is left to
read, so equal ends share their states; where nothing is left it is the common end. -/
def forwardStates : Nat → List (List ByteRanges) → List (List ByteRanges)
  | 0, _ => []
  | fuel + 1, level =>
    let further := level.flatMap fun state => (groupByFirst state).map (·.2)
    level ++ forwardStates fuel (further.filter (· != [[]]))

/-- All beginnings of a sequence but the empty one. -/
def beginnings : List α → List (List α)
  | [] => []
  | first :: rest => [first] :: (beginnings rest).map (first :: ·)

/-- A set of ASCII is one state and its end. Other sets forward share equal ends of sequences, and
backward, where a sequence is read from its last byte, equal beginnings. -/
def setRoom (backward : Bool) (set : CharSet) : Nat :=
  if set.isAscii then 2 * stateRoom + rangeRoom * set.ranges.length
  else
    let sequences := set.ranges.flatMap fun range => byteRanges range.1 range.2
    if backward then
      2 * stateRoom + branchRoom * sequences.length +
        stateRoom * (sequences.flatMap beginnings).eraseDups.length
    else
      stateRoom + totalRoom ((forwardStates 5 [sequences]).eraseDups.map fun state =>
        stateRoom + rangeRoom * (groupByFirst state).length)

/-! Choices between literals. -/

/-- The words between those that end at once. Where no word goes on, a second end is none. -/
def chunks (words : List (List Nat)) : List (List (List Nat)) :=
  let (done, current) := words.foldl (fun (done, current) word =>
    if word.isEmpty then
      if current.isEmpty && !done.isEmpty && done.all (·.isEmpty) then (done, current)
      else (done ++ [current], [])
    else (done, current ++ [word])) (([] : List (List (List Nat))), [])
  done ++ [current]

/-- What is left of the words behind each byte that some of them begin with. -/
def tails (words : List (List Nat)) : List (List (List Nat)) :=
  (words.filterMap (·.head?)).eraseDups.map fun byte =>
    words.filterMap fun word =>
      match word with
      | first :: rest => if first = byte then some rest else none
      | [] => none

/-- Room of the tree that tells the words apart, without its end: a branching for each inner node,
with a branch for each chunk of words and for each end between chunks. The length of the longest
word is `fuel` enough. -/
def treeRoom : Nat → List (List Nat) → Nat
  | 0, _ => 0
  | fuel + 1, words =>
    let chunks := chunks words
    let filled := chunks.filter (!·.isEmpty)
    stateRoom + branchRoom * (chunks.length - 1 + filled.length) +
      totalRoom (filled.map fun chunk =>
        let tails := tails chunk
        stateRoom + (if tails.length = 1 then 0 else rangeRoom * tails.length) +
          totalRoom ((tails.filter (·.any (!·.isEmpty))).map (treeRoom fuel)))

def wordsRoom (backward : Bool) (words : List (List Nat)) : Nat :=
  let words := if backward then words.map List.reverse else words
  let longest := (words.map List.length).foldl max 0
  stateRoom + treeRoom longest words

/-- What a pattern takes. A choice is counted by its branches, and one between literals has its
words too. -/
structure Room where
  parts : Nat
  isChoice : Bool := false
  words : Option (List (List Nat)) := none

namespace Room

/-- Room as a whole: a tree tells literals apart, other branches have a fork and a common end. -/
def whole (backward : Bool) (room : Room) : Nat :=
  if !room.isChoice then room.parts
  else
    match room.words with
    | some words => wordsRoom backward words
    | none => 2 * stateRoom + room.parts

/-- Room as the rest of a choice. -/
def asBranches (room : Room) : Nat :=
  if room.isChoice then room.parts else branchRoom + room.parts

end Room

end Automaton

namespace Pattern
open Automaton

def literalBytes (chars : List Char) : List Nat := chars.flatMap fun c => utf8Bytes c.toNat

/-- Room of a repetition whose body takes `body`. -/
def repetitionRoom (body least : Nat) (most : Option Nat) (takesMore : Bool) : Nat :=
  let loop := stateRoom + 2 * branchRoom
  match least, most with
  | 0, some 1 => loop + stateRoom + body
  | 0, none => if takesMore then loop + body else 3 * stateRoom + 4 * branchRoom + body
  | least, none => least * body + loop
  | least, some most =>
    if least = most then least * body
    else
      (if least = 0 then stateRoom else least * body) + stateRoom + (most - least) * (loop + body)

def room (backward : Bool) : Pattern → Room
  | .empty => { parts := stateRoom }
  | .literal chars =>
    let bytes := literalBytes chars
    { parts := stateRoom * bytes.length, words := some [bytes] }
  | .oneOf set => { parts := setRoom backward set }
  | .edge _ => { parts := stateRoom }
  | .group _ body =>
      { parts := (if backward then 0 else 2 * stateRoom) + (body.room backward).whole backward }
  | .sequence first rest =>
      { parts := (first.room backward).whole backward + (rest.room backward).whole backward }
  | .either first rest =>
    let first := first.room backward
    let rest := rest.room backward
    { parts := branchRoom + first.whole backward + rest.asBranches
      isChoice := true
      words := do pure ((← first.words) ++ (← rest.words)) }
  | .repeated body least most _ =>
      { parts := repetitionRoom ((body.room backward).whole backward) least most
          (body.shortest?.any (0 < ·)) }

/-- Whether every match starts at the text's start. -/
def isAtStart : Pattern → Bool
  | .edge place => place == .textStart
  | .group _ body => body.isAtStart
  | .sequence first rest => first.isAtStart || (first.isWidthless && rest.isAtStart)
  | .either first rest => first.isAtStart && rest.isAtStart
  | .repeated body least _ _ => 0 < least && body.isAtStart
  | _ => false

/-- Whether every match ends at the text's end. -/
def isAtEnd : Pattern → Bool
  | .edge place => place == .textEnd
  | .group _ body => body.isAtEnd
  | .sequence first rest => rest.isAtEnd || (rest.isWidthless && first.isAtEnd)
  | .either first rest => first.isAtEnd && rest.isAtEnd
  | .repeated body least _ _ => 0 < least && body.isAtEnd
  | _ => false

/-- Room of a whole automaton: a loop that skips what stands in front, unless a match can stand in
one place only, then the pattern, as a group of its own when read forward, and a final state. -/
def automatonRoom (pattern : Pattern) (backward : Bool) : Nat :=
  let fixed := if backward then pattern.isAtEnd else pattern.isAtStart
  let skip := if fixed then stateRoom else 3 * stateRoom + rangeRoom + 2 * branchRoom
  skip + ((Pattern.group 0 pattern).room backward).whole backward + stateRoom

def fits (pattern : Pattern) : Bool :=
  pattern.automatonRoom true ≤ roomLimit && pattern.automatonRoom false ≤ roomLimit

end Pattern

end ManagedRuntime.Text
