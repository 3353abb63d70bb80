import ManagedRuntime.Text.Pattern.CharSet

/-! Patterns that describe parts of a text. They are built by functions that keep them in a simple
form: a sequence has no sequence and no empty pattern as a part and no two literals side by side,
a choice has no choice as a branch, and a set has not exactly one member. -/
namespace ManagedRuntime.Text

/-- A condition on a position between characters. -/
inductive Edge
  | textStart
  | textEnd
  | lineStart
  | lineEnd
  /-- Edges of lines that end with a line feed, a carriage return, or both in this order. -/
  | returnedLineStart
  | returnedLineEnd
  | wordStart
  | wordEnd
  /-- Either end of a word. -/
  | wordEdge
  | noWordEdge
  /-- No word in front. -/
  | wordStartHalf
  /-- No word behind. -/
  | wordEndHalf
  /-- An edge of words in any script, which is left undecided here. -/
  | scriptEdge
deriving DecidableEq, Repr

namespace Edge

/-- Words are made of letters and digits of ASCII and underscores. -/
def isWordChar (c : Char) : Bool := c.isAlphanum || c == '_'

/-- Whether the position has the edge, given the characters on both of its sides. -/
def holds (edge : Edge) (before behind : Option Char) : Bool :=
  let wordBefore := before.any isWordChar
  let wordBehind := behind.any isWordChar
  match edge with
  | .textStart => before.isNone
  | .textEnd => behind.isNone
  | .lineStart => before.all (· == '\n')
  | .lineEnd => behind.all (· == '\n')
  | .returnedLineStart => before.all fun c => c == '\n' || (c == '\r' && behind != some '\n')
  | .returnedLineEnd => behind.all fun c => c == '\r' || (c == '\n' && before != some '\r')
  | .wordStart => !wordBefore && wordBehind
  | .wordEnd => wordBefore && !wordBehind
  | .wordEdge => wordBefore != wordBehind
  | .noWordEdge => wordBefore == wordBehind
  | .wordStartHalf => !wordBefore
  | .wordEndHalf => !wordBehind
  | .scriptEdge => false

end Edge

inductive Pattern
  | empty
  | literal (chars : List Char)
  | oneOf (set : CharSet)
  | edge (place : Edge)
  /-- A numbered group. -/
  | group (number : Nat) (body : Pattern)
  | sequence (first rest : Pattern)
  | either (first rest : Pattern)
  /-- At least `least` times, and at most `most` times if that is given. A greedy repetition prefers
  long matches; this does not change where there are matches. -/
  | repeated (body : Pattern) (least : Nat) (most : Option Nat) (greedy : Bool)
deriving DecidableEq, Repr

namespace Pattern

/-- The length of the shortest texts that match. A set without members, which matches nothing, has
no shortest one, and neither has a pattern that is put together with it. -/
def shortest? : Pattern → Option Nat
  | .empty => some 0
  | .literal chars => some chars.length
  | .oneOf set => if set.isEmpty then none else some 1
  | .edge _ => some 0
  | .group _ body => body.shortest?
  | .sequence first rest => do pure ((← first.shortest?) + (← rest.shortest?))
  | .either first rest => do pure (min (← first.shortest?) (← rest.shortest?))
  | .repeated body least _ _ => body.shortest?.map (least * ·)

/-- Whether the pattern never takes a character. -/
def isWidthless : Pattern → Bool
  | .empty => true
  | .literal chars => chars.isEmpty
  | .oneOf _ => false
  | .edge _ => true
  | .group _ body => body.isWidthless
  | .sequence first rest => first.isWidthless && rest.isWidthless
  | .either first rest => first.isWidthless && rest.isWidthless
  | .repeated body _ most _ => most.isSome && body.isWidthless

/-- Whether the pattern needs the given edge somewhere. -/
def mentions (wanted : Edge) : Pattern → Bool
  | .empty | .literal _ | .oneOf _ => false
  | .edge place => place == wanted
  | .group _ body => body.mentions wanted
  | .sequence first rest => first.mentions wanted || rest.mentions wanted
  | .either first rest => first.mentions wanted || rest.mentions wanted
  | .repeated body _ _ _ => body.mentions wanted

/-- The number of nodes. -/
def size : Pattern → Nat
  | .empty | .literal _ | .oneOf _ | .edge _ => 1
  | .group _ body => body.size + 1
  | .sequence first rest => first.size + rest.size + 1
  | .either first rest => first.size + rest.size + 1
  | .repeated body _ _ _ => body.size + 1

def ofSet (set : CharSet) : Pattern :=
  match set.onlyMember? with
  | some c => .literal [c]
  | none => .oneOf set

/-- The parts of a sequence, or the pattern itself. -/
def parts : Pattern → List Pattern
  | .empty => []
  | .sequence first rest => first :: rest.parts
  | whole => [whole]

/-- Makes one literal of literals side by side. -/
def joinLiterals : List Pattern → List Pattern
  | [] => []
  | .literal chars :: rest =>
    match joinLiterals rest with
    | .literal more :: behind => .literal (chars ++ more) :: behind
    | joined => .literal chars :: joined
  | part :: rest => part :: joinLiterals rest

def ofParts : List Pattern → Pattern
  | [] => .empty
  | [part] => part
  | part :: rest => .sequence part (ofParts rest)

def ofSequence (patterns : List Pattern) : Pattern :=
  ofParts (joinLiterals (patterns.flatMap parts))

/-- The branches of a choice, or the pattern itself. -/
def branches : Pattern → List Pattern
  | .either first rest => first :: rest.branches
  | whole => [whole]

def ofBranches : List Pattern → Pattern
  | [] => .oneOf .empty
  | [branch] => branch
  | branch :: rest => .either branch (ofBranches rest)

/-- The only character that the pattern matches, if it is a literal of one. -/
def character? : Pattern → Option Char
  | .literal [c] => some c
  | _ => none

def set? : Pattern → Option CharSet
  | .oneOf set => some set
  | _ => none

/-- One set in place of a choice between characters, or between sets. -/
def mergedSet? (patterns : List Pattern) : Option CharSet :=
  match patterns.mapM character? with
  | some chars => some (chars.foldl (fun set c => set.union (.single c)) .empty)
  | none => (patterns.mapM set?).map fun sets => sets.foldl (·.union ·) .empty

def commonBeginning : List Pattern → List Pattern → List Pattern
  | a :: as, b :: bs => if a = b then a :: commonBeginning as bs else []
  | _, _ => []

/-- The parts that all branches begin with; branches of a single part share none. -/
def sharedParts (branches : List (List Pattern)) : List Pattern :=
  match branches with
  | [] => []
  | first :: rest =>
    if branches.any fun parts => parts.length < 2 then [] else rest.foldl commonBeginning first

/-- A choice, with shared beginnings of its branches in front of it. Each one in front makes the
branches smaller, so their size is `fuel` enough. -/
def choice : Nat → List Pattern → Pattern
  | 0, patterns => ofBranches patterns
  | fuel + 1, patterns =>
    let patterns := patterns.flatMap branches
    match patterns with
    | [] | [_] => ofBranches patterns
    | _ =>
      match mergedSet? patterns with
      | some set => ofSet set
      | none =>
        let parts := patterns.map parts
        let shared := sharedParts parts
        if shared.isEmpty then ofBranches patterns
        else
          ofSequence (shared ++
            [choice fuel (parts.map fun parts => ofSequence (parts.drop shared.length))])

def ofChoice (patterns : List Pattern) : Pattern :=
  choice (patterns.foldl (fun fuel pattern => fuel + pattern.size) 1) patterns

/-- A repetition. More than one round of a pattern that takes no character changes nothing. -/
def ofRepetition (body : Pattern) (least : Nat) (most : Option Nat) (greedy : Bool) : Pattern :=
  let (least, most) :=
    if body.isWidthless then (min least 1, some (min (most.getD 1) 1)) else (least, most)
  if least = 0 ∧ most = some 0 then .empty
  else if least = 1 ∧ most = some 1 then body
  else .repeated body least most greedy

end Pattern

end ManagedRuntime.Text
