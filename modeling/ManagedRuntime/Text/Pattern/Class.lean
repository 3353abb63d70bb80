import ManagedRuntime.Text.Pattern.Escape

/-! Classes: characters between brackets. A class has items, which may be classes themselves, and
operators between runs of items. Besides its set each reading gives how deep the class is nested. -/
namespace ManagedRuntime.Text.Pattern

def namedClasses : List (String × List (Char × Char)) := [
  ("alnum", [('0', '9'), ('A', 'Z'), ('a', 'z')]), ("alpha", [('A', 'Z'), ('a', 'z')]),
  ("ascii", [('\x00', '\x7f')]), ("blank", [('\t', '\t'), (' ', ' ')]),
  ("cntrl", [('\x00', '\x1f'), ('\x7f', '\x7f')]), ("digit", [('0', '9')]),
  ("graph", [('!', '~')]), ("lower", [('a', 'z')]), ("print", [(' ', '~')]),
  ("punct", [('!', '/'), (':', '@'), ('[', '\x60'), ('\x7b', '~')]),
  ("space", [('\t', '\r'), (' ', ' ')]), ("upper", [('A', 'Z')]),
  ("word", [('0', '9'), ('A', 'Z'), ('_', '_'), ('a', 'z')]),
  ("xdigit", [('0', '9'), ('A', 'F'), ('a', 'f')])]

/-- The name of a class behind its opening bracket, such as `:alpha:]`, and whether a caret negates
it, as in `:^alpha:]`. -/
def className? : List Char → Option (Bool × List (Char × Char) × List Char)
  | ':' :: rest =>
    let (negated, rest) := match rest with
      | '^' :: rest => (true, rest)
      | _ => (false, rest)
    match rest.dropWhile Char.isAlphanum with
    | ':' :: ']' :: behind =>
      (namedClasses.lookup (String.ofList (rest.takeWhile Char.isAlphanum))).map fun ranges =>
        (negated, ranges, behind)
    | _ => none
  | _ => none

/-- A character or a set, as it stands in a class. Only ASCII may stand in one when only ASCII is
meant. -/
def classMember? (flags : Flags) : List Char → Option ((Char ⊕ CharSet) × List Char)
  | [] => none
  | '\\' :: rest =>
    match escape? flags rest with
    | some (.char c, rest) => ofChar c rest
    | some (.set set, rest) => some (.inr set, rest)
    | some (.edge _, _) | none => none
  | c :: rest => ofChar c rest
where
  ofChar (c : Char) (rest : List Char) :=
    if flags.allScripts || c.toNat < 0x80 then some (.inl c, rest) else none

def memberSet : Char ⊕ CharSet → CharSet
  | .inl c => .single c
  | .inr set => set

/-- What stands behind a dash and decides what it means. Of a comment only the hash sign and the
blanks behind it are passed over. -/
def behindDash? (flags : Flags) (cs : List Char) : Option Char :=
  if !flags.verbose then cs.head?
  else
    match cs.dropWhile isBlank with
    | '#' :: rest => (rest.dropWhile isBlank).head?
    | rest => rest.head?

/-- A member of a class or a range of characters. A dash is a character of its own in front of the
closing bracket, and two dashes are an operator. -/
def classItem? (flags : Flags) (cs : List Char) : Option (CharSet × List Char) := do
  let (member, rest) ← classMember? flags cs
  match flags.skipLayout rest with
  | [] => none
  | '-' :: behind =>
    let next := behindDash? flags behind
    if next = some ']' ∨ next = some '-' then pure (memberSet member, '-' :: behind)
    else
      match member, ← classMember? flags (flags.skipLayout behind) with
      | .inl first, (.inl last, rest) =>
        if first ≤ last then pure (.range first last, rest) else none
      | _, _ => none
  | rest => pure (memberSet member, rest)

inductive SetOperator
  | intersection
  | difference
  | symmetricDifference
deriving DecidableEq, Repr

def SetOperator.apply (a b : CharSet) : SetOperator → CharSet
  | .intersection => a.intersection b
  | .difference => a.difference b
  | .symmetricDifference => a.symmetricDifference b

/-- The items read since the last operator: their union, their number, and the deepest of them. -/
structure ClassItems where
  set : CharSet := .empty
  count : Nat := 0
  deepest : Nat := 0

namespace ClassItems

def add (items : ClassItems) (set : CharSet) (depth : Nat) : ClassItems :=
  { set := items.set.union set, count := items.count + 1, deepest := max items.deepest depth }

/-- Several items are a level of their own. -/
def depth (items : ClassItems) : Nat := items.deepest + (if items.count < 2 then 0 else 1)

end ClassItems

/-- What stands in front of the last operator. -/
structure Operand where
  set : CharSet
  depth : Nat
  operator : SetOperator

/-- The items together with what stands in front of them. -/
def joinItems? (flags : Flags) (items : ClassItems) : Option Operand → Option (CharSet × Nat)
  | none => some (items.set, items.depth)
  | some before => do
    let left ← flags.foldCase? before.set
    let right ← flags.foldCase? items.set
    pure (before.operator.apply left right, max before.depth items.depth + 1)

/-- The beginning of a class: a caret negates, leading dashes are characters, and so is a bracket
that would close the class at once. -/
def classHead (flags : Flags) (cs : List Char) : Bool × ClassItems × List Char :=
  let (negated, cs) := match flags.skipLayout cs with
    | '^' :: rest => (true, flags.skipLayout rest)
    | cs => (false, cs)
  match flags.takeWanted (· == '-') cs with
  | ([], ']' :: rest) => (negated, ClassItems.add {} (.single ']') 0, rest)
  | (dashes, rest) =>
    (negated, dashes.foldl (fun items dash => items.add (.single dash) 0) {}, rest)

/-- The rest of a class; each step takes a character at least, so `fuel` is enough when it is above
the length. -/
def classRest? (flags : Flags) (negated : Bool) (before : Option Operand) (items : ClassItems)
    (cs : List Char) : Nat → Option (CharSet × Nat × List Char)
  | 0 => none
  | fuel + 1 =>
    let item (set : CharSet) (depth : Nat) (rest : List Char) :=
      classRest? flags negated before (items.add set depth) rest fuel
    let operator (operator : SetOperator) (rest : List Char) := do
      let (set, depth) ← joinItems? flags items before
      classRest? flags negated (some ⟨set, depth, operator⟩) {} rest fuel
    match flags.skipLayout cs with
    | [] => none
    | ']' :: rest => do
      let (set, depth) ← joinItems? flags items before
      pure (← flags.classSet? negated set, depth + 1, rest)
    | '&' :: '&' :: rest => operator .intersection rest
    | '-' :: '-' :: rest => operator .difference rest
    | '~' :: '~' :: rest => operator .symmetricDifference rest
    | '[' :: rest =>
      match className? rest with
      | some (negated, ranges, rest) => do
        item (← flags.classSet? negated (.ofRanges ranges)) 0 rest
      | none => do
        let (innerNegated, head, rest) := classHead flags rest
        let (set, depth, rest) ← classRest? flags innerNegated none head rest fuel
        item set depth rest
    | cs => do
      let (set, rest) ← classItem? flags cs
      item set 0 rest

/-- A class behind its opening bracket, with its depth. -/
def class? (flags : Flags) (cs : List Char) : Option (CharSet × Nat × List Char) :=
  let (negated, head, rest) := classHead flags cs
  classRest? flags negated none head rest (cs.length + 1)

end ManagedRuntime.Text.Pattern
