import ManagedRuntime.Text.Blank
import ManagedRuntime.Text.Pattern.CharSet

/-! Flags that say how the notation of patterns is read: what they make of layout and of sets. -/
namespace ManagedRuntime.Text.Pattern

structure Flags where
  ignoreCase : Bool := false
  /-- Whether a caret and a dollar sign stand for the ends of lines. -/
  multiLine : Bool := false
  /-- Whether a dot stands for the ends of lines too. -/
  dotAll : Bool := false
  /-- Whether carriage returns end lines as well as line feeds do. -/
  carriageReturns : Bool := false
  /-- Whether repetitions prefer short matches unless a question mark follows. -/
  swapGreed : Bool := false
  /-- Whether classes, word edges and letters in another case are those of all scripts. There are no
  tables of them here, so patterns that need one are refused. Without the flag those of ASCII are
  meant, and what could match a part of a longer character is refused. -/
  allScripts : Bool := true
  /-- Whether layout counts for nothing: blanks, and comments from a hash sign to the line's end. -/
  verbose : Bool := false
deriving DecidableEq, Repr

/-- A switched flag. -/
abbrev FlagChange := Char × Bool

def Flags.change (flags : Flags) (changes : List FlagChange) : Flags :=
  changes.foldl (fun flags (letter, on) =>
    match letter with
    | 'i' => { flags with ignoreCase := on }
    | 'm' => { flags with multiLine := on }
    | 's' => { flags with dotAll := on }
    | 'R' => { flags with carriageReturns := on }
    | 'U' => { flags with swapGreed := on }
    | 'u' => { flags with allScripts := on }
    | 'x' => { flags with verbose := on }
    | _ => flags) flags

/-- Letters switch on; those behind a dash switch off. No letter may stand twice. -/
def flagChanges? (cs : List Char) : Option (List FlagChange) :=
  let on := cs.takeWhile (· != '-')
  let off := (cs.dropWhile (· != '-')).drop 1
  let letters := on ++ off
  if letters.all "imsRUux".toList.contains && letters.eraseDups.length == letters.length &&
      (off != [] || !cs.contains '-') then
    some (on.map (·, true) ++ off.map (·, false))
  else none

/-! Layout. -/

/-- What follows blanks and comments. -/
def behindLayout : (inComment : Bool) → List Char → List Char
  | _, [] => []
  | true, c :: rest => behindLayout (c != '\n') rest
  | false, c :: rest =>
    if isBlank c then behindLayout false rest
    else if c = '#' then behindLayout true rest
    else c :: rest

theorem length_behindLayout_le (inComment : Bool) (cs : List Char) :
    (behindLayout inComment cs).length ≤ cs.length := by
  induction cs generalizing inComment with
  | nil => cases inComment <;> simp [behindLayout]
  | cons c rest ih =>
    cases inComment with
    | true => exact Nat.le_succ_of_le (ih _)
    | false =>
      unfold behindLayout
      split
      · exact Nat.le_succ_of_le (ih _)
      · split
        · exact Nat.le_succ_of_le (ih _)
        · exact Nat.le_refl _

def Flags.skipLayout (flags : Flags) (cs : List Char) : List Char :=
  if flags.verbose then behindLayout false cs else cs

theorem Flags.length_skipLayout_le (flags : Flags) (cs : List Char) :
    (flags.skipLayout cs).length ≤ cs.length := by
  unfold skipLayout
  split
  · exact length_behindLayout_le false cs
  · exact Nat.le_refl _

/-- The leading characters that are `wanted`, without the layout behind each, and what follows. -/
def Flags.takeWanted (flags : Flags) (wanted : Char → Bool) :
    List Char → List Char × List Char
  | [] => ([], [])
  | c :: rest =>
    if wanted c then
      let (taken, behind) := flags.takeWanted wanted (flags.skipLayout rest)
      (c :: taken, behind)
    else ([], c :: rest)
termination_by cs => cs.length
decreasing_by exact Nat.lt_succ_of_le (flags.length_skipLayout_le rest)

/-! Sets. -/

/-- The set without regard to case, if the flags ask for that. -/
def Flags.foldCase? (flags : Flags) (set : CharSet) : Option CharSet :=
  if !flags.ignoreCase then some set
  else if !flags.allScripts then some set.withBothCases
  else if set.isEmpty then some set
  else none

/-- The set that a class stands for: `set` holds what is written in it. -/
def Flags.classSet? (flags : Flags) (negated : Bool) (set : CharSet) : Option CharSet := do
  let folded ← flags.foldCase? set
  let meant := if negated then folded.complement else folded
  if flags.allScripts || meant.isAscii then pure meant else none

end ManagedRuntime.Text.Pattern
