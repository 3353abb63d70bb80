import Mathlib.Data.List.DropRight
import ManagedRuntime.Text.Blank
import ManagedRuntime.Text.Case

/-! What trimming leaves of a text, and what is the same but for the case of ASCII letters. -/
namespace ManagedRuntime.Text

/-- The code points with the property `White_Space`. -/
def whiteSpace : List Nat :=
  [0x09, 0x0A, 0x0B, 0x0C, 0x0D, 0x20, 0x85, 0xA0, 0x1680, 0x2000, 0x2001, 0x2002, 0x2003, 0x2004,
    0x2005, 0x2006, 0x2007, 0x2008, 0x2009, 0x200A, 0x2028, 0x2029, 0x202F, 0x205F, 0x3000]

theorem isBlank_iff {c : Char} : isBlank c = true ↔ c.toNat ∈ whiteSpace := by
  simp only [isBlank, whiteSpace, Bool.or_eq_true, Bool.and_eq_true, decide_eq_true_eq,
    beq_iff_eq, List.mem_cons, List.not_mem_nil, or_false]
  omega

/-- The core is the text without the white space around it. -/
structure Trims (text core : List Char) : Prop where
  around : ∃ before after, text = before ++ core ++ after ∧
    (∀ c ∈ before, c.toNat ∈ whiteSpace) ∧ ∀ c ∈ after, c.toNat ∈ whiteSpace
  first : ∀ c ∈ core.head?, c.toNat ∉ whiteSpace
  last : ∀ c ∈ core.getLast?, c.toNat ∉ whiteSpace

/-- A text that lost the blanks in front of it begins with something else. -/
theorem head?_dropWhile_isBlank {text : List Char} {c : Char}
    (head : c ∈ (text.dropWhile isBlank).head?) : c.toNat ∉ whiteSpace := by
  have solid := text.head?_dropWhile_not isBlank
  rw [Option.mem_def.mp head] at solid
  exact fun white => absurd (isBlank_iff.mpr white) (Bool.eq_false_iff.mp solid)

theorem trims_trimBlanks (text : List Char) : Trims text (trimBlanks text) := by
  let rest := text.dropWhile isBlank
  have front : text.takeWhile isBlank ++ rest = text := List.takeWhile_append_dropWhile
  have back : trimBlanks text ++ rest.rtakeWhile isBlank = rest :=
    List.rdropWhile_append_rtakeWhile
  refine ⟨⟨text.takeWhile isBlank, rest.rtakeWhile isBlank, ?_, ?_, ?_⟩, ?_, ?_⟩
  · rw [List.append_assoc, back, front]
  · exact fun c member => isBlank_iff.mp (List.mem_takeWhile_imp member)
  · exact fun c member => isBlank_iff.mp (List.mem_rtakeWhile_imp member)
  · intro c head
    have begins : c ∈ rest.head? := by
      rw [← back, List.head?_append, Option.mem_def.mp head]
      rfl
    exact head?_dropWhile_isBlank begins
  · intro c last
    rw [trimBlanks, List.getLast?_reverse] at last
    exact head?_dropWhile_isBlank last

/-- Nothing else is a core. -/
theorem Trims.eq {text core : List Char} (trims : Trims text core) : core = trimBlanks text := by
  obtain ⟨⟨before, after, rfl, early, late⟩, first, last⟩ := trims
  have blank (c : Char) (member : c ∈ before) : isBlank c := isBlank_iff.mpr (early c member)
  have behind (c : Char) (member : c ∈ after.reverse) : isBlank c :=
    isBlank_iff.mpr (late c (List.mem_reverse.mp member))
  have solid : (core ++ after).dropWhile isBlank = core ++ after ∨ core = [] := by
    cases core with
    | nil => exact .inr rfl
    | cons c rest =>
      have stays : ¬isBlank c := fun white => first c rfl (isBlank_iff.mp white)
      exact .inl (List.dropWhile_cons_of_neg stays)
  rw [trimBlanks, List.append_assoc, List.dropWhile_append_of_pos blank]
  rcases solid with stays | rfl
  · have kept : core.reverse.dropWhile isBlank = core.reverse := by
      refine List.dropWhile_eq_self_iff.mpr fun inside white => ?_
      have ends : core.reverse[0] ∈ core.getLast? := by
        rw [← List.head?_reverse, List.head?_eq_getElem?, List.getElem?_eq_getElem inside]
        rfl
      exact last _ ends (isBlank_iff.mp white)
    rw [stays, List.reverse_append, List.dropWhile_append_of_pos behind, kept,
      List.reverse_reverse]
  · have none : after.dropWhile isBlank = [] := by
      refine List.dropWhile_eq_nil_iff.mpr fun c member => ?_
      exact isBlank_iff.mpr (late c member)
    rw [List.nil_append, none]
    rfl

theorem trims_iff {text core : List Char} : Trims text core ↔ core = trimBlanks text :=
  ⟨Trims.eq, fun same => same ▸ trims_trimBlanks text⟩

/-- Only the capital letters of ASCII have another lower case, and it lies behind all of them. -/
theorem toNat_toLower (c : Char) : c.toLower.toNat =
    if 65 ≤ c.toNat ∧ c.toNat ≤ 90 then c.toNat + 32 else c.toNat := by
  have first : c.val ≥ 'A'.val ↔ 65 ≤ c.toNat := UInt32.le_iff_toNat_le
  have last : c.val ≤ 'Z'.val ↔ c.toNat ≤ 90 := UInt32.le_iff_toNat_le
  unfold Char.toLower
  simp only [first, last]
  split
  case isTrue capital =>
    have small : c.val.toNat + (32 : UInt32).toNat < 2 ^ 32 := by
      have bound := capital.2
      simp only [Char.toNat_val, UInt32.reduceToNat]
      omega
    exact (UInt32.toNat_add _ _).trans (Nat.mod_eq_of_lt small)
  case isFalse => rfl

theorem eq_of_toLower {c d : Char} (plain : c.toNat < 65) (same : c.toLower = d.toLower) :
    c = d := by
  have numbers := congrArg Char.toNat same
  rw [toNat_toLower, toNat_toLower] at numbers
  refine Char.toNat_inj.mp ?_
  split at numbers <;> split at numbers <;> omega

/-- What has no letters stays apart from all else when case is given up. -/
theorem eq_of_map_toLower {core twin : List Char} (plain : ∀ c ∈ core, c.toNat < 65)
    (same : core.map Char.toLower = twin.map Char.toLower) : core = twin := by
  induction core generalizing twin with
  | nil => exact (List.map_eq_nil_iff.mp same.symm).symm
  | cons c rest ih =>
    cases twin with
    | nil => contradiction
    | cons d others =>
      obtain ⟨head, tail⟩ := List.cons.inj same
      obtain ⟨first, behind⟩ := List.forall_mem_cons.mp plain
      rw [eq_of_toLower first head, ih behind tail]

end ManagedRuntime.Text
