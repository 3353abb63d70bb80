/-! The bytes of UTF-8, and ranges of code points as sequences of byte ranges. -/
namespace ManagedRuntime.Text

/-- The bytes that stand for a code point. -/
def utf8Bytes (point : Nat) : List Nat :=
  let continuation (shift : Nat) := 0x80 + point >>> shift % 0x40
  if point < 0x80 then [point]
  else if point < 0x800 then [0xC0 + point >>> 6, continuation 0]
  else if point < 0x10000 then [0xE0 + point >>> 12, continuation 6, continuation 0]
  else [0xF0 + point >>> 18, continuation 12, continuation 6, continuation 0]

/-- Byte ranges in a row. -/
abbrev ByteRanges := List (Nat × Nat)

/-- Points after which a range has to be cut whatever it is: the bounds of the surrogates and the
last points of one, two and three bytes. -/
def fixedCuts : List Nat := [0xD7FF, 0xDFFF, 0x7F, 0x7FF, 0xFFFF]

/-- Where a range has to be cut because it is in several blocks of the given size but begins or
ends within a block. -/
def blockCut? (first last block : Nat) : Option Nat :=
  if first / block = last / block then none
  else if first % block ≠ 0 then some (first / block * block + block - 1)
  else if last % block ≠ block - 1 then some (last / block * block - 1)
  else none

/-- The first point after which the range is cut. -/
def cut? (first last : Nat) : Option Nat :=
  let aligned :=
    if last < 0x80 then [] else [0x40, 0x1000, 0x40000].filterMap (blockCut? first last)
  (fixedCuts ++ aligned).find? fun point => first ≤ point && point < last

theorem cut?_bounds {first last point : Nat} (found : cut? first last = some point) :
    first ≤ point ∧ point < last := by
  have inside := List.find?_some found
  simpa using inside

/-- The range as sequences of byte ranges, in rising order; surrogates have none. -/
def byteRanges (first last : Nat) : List ByteRanges :=
  match _ : cut? first last with
  | some point => byteRanges first point ++ byteRanges (point + 1) last
  | none =>
    if 0xD800 ≤ first ∧ first ≤ 0xDFFF ∨ last < first then []
    else [(utf8Bytes first).zip (utf8Bytes last)]
termination_by last - first
decreasing_by
  all_goals
    have bounds := cut?_bounds (by assumption)
    omega

end ManagedRuntime.Text
