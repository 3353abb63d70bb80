/-! Sets of characters as ranges of code points. The ranges rise and leave a gap between each two,
so that a set has one form only. -/
namespace ManagedRuntime.Text

structure CharSet where
  ranges : List (Nat × Nat)
deriving DecidableEq, Repr

namespace CharSet

def lastPoint : Nat := 0x10FFFF

def empty : CharSet := ⟨[]⟩

/-- Ranges that the new one meets or touches become one with it. -/
def insertRange (first last : Nat) : List (Nat × Nat) → List (Nat × Nat)
  | [] => [(first, last)]
  | (a, b) :: rest =>
    if last + 1 < a then (first, last) :: (a, b) :: rest
    else if b + 1 < first then (a, b) :: insertRange first last rest
    else insertRange (min first a) (max last b) rest

def addRange (set : CharSet) (first last : Nat) : CharSet := ⟨insertRange first last set.ranges⟩

def range (first last : Char) : CharSet := ⟨[(first.toNat, last.toNat)]⟩

def single (c : Char) : CharSet := range c c

def union (a b : CharSet) : CharSet :=
  b.ranges.foldl (fun set range => set.addRange range.1 range.2) a

def ofRanges (ranges : List (Char × Char)) : CharSet :=
  ranges.foldl (fun set ends => set.union (range ends.1 ends.2)) empty

/-- What lies between the ranges, from `next` on. -/
def gaps (next : Nat) : List (Nat × Nat) → List (Nat × Nat)
  | [] => if next ≤ lastPoint then [(next, lastPoint)] else []
  | (a, b) :: rest => if next < a then (next, a - 1) :: gaps (b + 1) rest else gaps (b + 1) rest

/-- All other characters. Surrogates are no characters and are in no complement. -/
def complement (set : CharSet) : CharSet := ⟨gaps 0 (set.addRange 0xD800 0xDFFF).ranges⟩

def intersection (a b : CharSet) : CharSet := (a.complement.union b.complement).complement

def difference (a b : CharSet) : CharSet := a.intersection b.complement

def symmetricDifference (a b : CharSet) : CharSet := (a.difference b).union (b.difference a)

def isEmpty (set : CharSet) : Bool := set.ranges.isEmpty

def isAscii (set : CharSet) : Bool := set.ranges.all fun range => range.2 < 0x80

def contains (set : CharSet) (c : Char) : Bool :=
  set.ranges.any fun range => range.1 ≤ c.toNat && c.toNat ≤ range.2

/-- The only member of a set of one. -/
def onlyMember? (set : CharSet) : Option Char :=
  match set.ranges with
  | [(a, b)] => if a = b then some (Char.ofNat a) else none
  | _ => none

/-- The set with the members between `first` and `last` added once more, moved by `move`. -/
def addMoved (set : CharSet) (first last : Nat) (move : Nat → Nat) : CharSet :=
  set.ranges.foldl (fun moved range =>
    let lower := max range.1 first
    let upper := min range.2 last
    if lower ≤ upper then moved.addRange (move lower) (move upper) else moved) set

/-- With each letter of ASCII its other case. -/
def withBothCases (set : CharSet) : CharSet :=
  (set.addMoved 0x61 0x7A (· - 0x20)).addMoved 0x41 0x5A (· + 0x20)

end CharSet

end ManagedRuntime.Text
