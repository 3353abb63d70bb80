import ManagedRuntime.Text.Pattern.Basic

/-! The search for a pattern in a text. Every pattern is turned into the spans of its matches: for
each position, the end of the text included, the lengths of the matches that start there. Larger
patterns put together the spans of smaller ones, so no part of a pattern is looked at twice. -/
namespace ManagedRuntime.Text

/-- For each position a set of lengths as bits: bit `n` is set when a match of length `n` starts
there. -/
abbrev Spans := List Nat

namespace Spans

/-- The match of no characters, everywhere. -/
def nothing (text : List Char) : Spans := List.replicate (text.length + 1) 1

def ofSet (set : CharSet) : List Char → Spans
  | [] => [0]
  | c :: rest => (if set.contains c then 2 else 0) :: ofSet set rest

def ofLiteral (chars : List Char) : List Char → Spans
  | [] => [if chars.isEmpty then 1 else 0]
  | c :: rest =>
      (if chars.isPrefixOf (c :: rest) then 1 <<< chars.length else 0) :: ofLiteral chars rest

def ofEdge (edge : Edge) (before : Option Char) : List Char → Spans
  | [] => [if edge.holds before none then 1 else 0]
  | c :: rest => (if edge.holds before (some c) then 1 else 0) :: ofEdge edge (some c) rest

/-- The lengths of a match followed by another one: `lengths` are those of the first, and the spans
of the second start where the first does. -/
def prolong : Nat → Spans → Nat
  | _, [] => 0
  | lengths, behind :: rest =>
    if lengths = 0 then 0
    else (if lengths % 2 = 1 then behind else 0) ||| prolong (lengths / 2) rest <<< 1

def compose : Spans → Spans → Spans
  | a :: as, b :: bs => prolong a (b :: bs) :: compose as bs
  | _, _ => []

def either (a b : Spans) : Spans := List.zipWith (· ||| ·) a b

/-- Any number of rounds. A round of no characters leads nowhere new. -/
def closure : Spans → Spans
  | [] => []
  | round :: rest =>
    let behind := closure rest
    (1 ||| prolong (round / 2) behind <<< 1) :: behind

/-- Exactly `count` rounds, in front of `behind`. -/
def power (round : Spans) : Nat → Spans → Spans
  | 0, behind => behind
  | count + 1, behind => power round count (compose round behind)

/-- At least `least` rounds and at most `most`, if that is given. As many rounds as the text has
positions stand for any larger number: in a longer run some round stays where it is. -/
def repeated (text : List Char) (round : Spans) (least : Nat) (most : Option Nat) : Spans :=
  let enough := text.length + 1
  let further :=
    match most with
    | none => closure round
    | some most =>
      if enough ≤ most - least then closure round
      else power (either (nothing text) round) (most - least) (nothing text)
  power round (min least enough) further

end Spans

namespace Pattern

def spans (text : List Char) : Pattern → Spans
  | .empty => .nothing text
  | .literal chars => .ofLiteral chars text
  | .oneOf set => .ofSet set text
  | .edge place => .ofEdge place none text
  | .group _ body => body.spans text
  | .sequence first rest => .compose (first.spans text) (rest.spans text)
  | .either first rest => .either (first.spans text) (rest.spans text)
  | .repeated body least most _ => .repeated text (body.spans text) least most

/-- Whether some part of the text matches. -/
def isIn (pattern : Pattern) (text : String) : Bool :=
  (pattern.spans text.toList).any (· != 0)

end Pattern

namespace Spans

end Spans

end ManagedRuntime.Text
