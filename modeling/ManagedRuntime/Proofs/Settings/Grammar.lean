import Mathlib.Data.Nat.Digits.Defs
import ManagedRuntime.Proofs.Memory.Layout
import ManagedRuntime.Proofs.Text.Trimming
import ManagedRuntime.Settings.Parser

/-! The texts that settings are read from: which values a key takes, what each stands for, and which
key is at fault where one is. -/
namespace ManagedRuntime.Settings
open Text

def modeWords : UnwindMode → List String
  | .propagate => ["propagate"]
  | .terminate => ["terminate", "abort"]

def flagWords : Bool → List String
  | true => ["1", "true", "yes", "on"]
  | false => ["0", "false", "no", "off", ""]

/-- The value is the word, in letters of either case and with white space around it. -/
def Names (value word : String) : Prop :=
  ∃ core, Trims value.toList core ∧ core.map Char.toLower = word.toList

def DenotesMode (value : String) (mode : UnwindMode) : Prop :=
  ∃ word ∈ modeWords mode, Names value word

def DenotesFlag (value : String) (flag : Bool) : Prop :=
  ∃ word ∈ flagWords flag, Names value word

/-- The number that decimal digits write, the last one counting ones. -/
def decimalValue (digits : List Char) : Nat :=
  Nat.ofDigits 10 (digits.reverse.map fun c => c.toNat - '0'.toNat)

/-- A sign or none, then digits, as many as there are, of a number that is not zero. -/
def DenotesDepth (value : String) (depth : UInt64) : Prop :=
  ∃ sign digits, Trims value.toList (sign ++ digits) ∧ (sign = [] ∨ sign = ['+']) ∧
    digits ≠ [] ∧ (∀ c ∈ digits, c.isDigit) ∧ decimalValue digits = depth.toNat ∧ 0 < depth.toNat

theorem names_iff {value word : String} : Names value word ↔ normalize value = word := by
  have lowered : normalize value =
      String.ofList ((trimBlanks value.toList).map Char.toLower) := by
    rw [normalize, lowerCase, trimmed, String.toList_ofList]
  rw [lowered, ← String.toList_inj, String.toList_ofList]
  constructor
  · rintro ⟨core, trims, same⟩
    rw [← trims.eq, same]
  · exact fun same => ⟨_, trims_trimBlanks _, same⟩

theorem unwindMode?_eq_some_iff {value : String} {mode : UnwindMode} :
    unwindMode? value = some mode ↔ DenotesMode value mode := by
  simp only [DenotesMode, names_iff, exists_eq_right', unwindMode?]
  generalize normalize value = word
  split <;> cases mode <;> simp_all [modeWords]

theorem flag?_eq_some_iff {value : String} {flag : Bool} :
    flag? value = some flag ↔ DenotesFlag value flag := by
  simp only [DenotesFlag, names_iff, exists_eq_right', flag?]
  generalize normalize value = word
  split <;> cases flag <;> simp_all [flagWords]

theorem isDigit_iff {c : Char} : c.isDigit ↔ 48 ≤ c.toNat ∧ c.toNat ≤ 57 := by
  simp [Char.isDigit, UInt32.le_iff_toNat_le]

theorem decimalValue_cons (c : Char) (rest : List Char) :
    decimalValue (c :: rest) =
      (c.toNat - '0'.toNat) * 10 ^ rest.length + decimalValue rest := by
  simp only [decimalValue, List.reverse_cons, List.map_append, List.map_singleton,
    Nat.ofDigits_append, Nat.ofDigits_singleton, List.length_map, List.length_reverse]
  rw [Nat.add_comm, Nat.mul_comm]

theorem appendDigit?_eq_some_iff {value result : UInt64} {c : Char} :
    appendDigit? value c = some result ↔
      c.isDigit ∧ result.toNat = value.toNat * 10 + (c.toNat - '0'.toNat) := by
  have ten : (10 : UInt64).toNat = 10 := rfl
  rw [appendDigit?]
  split
  case isTrue digit =>
    have small : c.toNat - '0'.toNat < UInt64.size :=
      Nat.lt_of_le_of_lt (Nat.le_trans (Nat.sub_le _ _) (isDigit_iff.mp digit).2) (by decide)
    have ones : (UInt64.ofNat (c.toNat - '0'.toNat)).toNat = c.toNat - '0'.toNat :=
      UInt64.toNat_ofNat_of_lt' small
    simp only [Option.bind_eq_bind, Option.bind_eq_some_iff, Memory.checkedMul?_eq_some_iff,
      Memory.checkedAdd?_eq_some_iff, ones, ten]
    constructor
    · rintro ⟨shifted, product, sum⟩
      exact ⟨digit, product ▸ sum⟩
    · rintro ⟨-, exact⟩
      have bound := result.toNat_lt
      obtain ⟨shifted, product⟩ := Memory.exists_word (by omega : value.toNat * 10 < 2 ^ 64)
      exact ⟨shifted, product, product ▸ exact⟩
  case isFalse other => simp [other]

/-- A number that fits a word at its end has fitted it at every digit. -/
theorem foldlM_appendDigit?_eq_some_iff {digits : List Char} {value result : UInt64} :
    digits.foldlM appendDigit? value = some result ↔
      (∀ c ∈ digits, c.isDigit) ∧
        result.toNat = value.toNat * 10 ^ digits.length + decimalValue digits := by
  induction digits generalizing value with
  | nil =>
    have nothing : decimalValue [] = 0 := rfl
    simp only [List.foldlM_nil, Option.pure_def, Option.some.injEq, List.not_mem_nil,
      false_implies, implies_true, true_and, List.length_nil, Nat.pow_zero, Nat.mul_one, nothing,
      Nat.add_zero, UInt64.toNat_inj, eq_comm]
  | cons c rest ih =>
    have whole (ones : Nat) : (value.toNat * 10 + ones) * 10 ^ rest.length + decimalValue rest =
        value.toNat * 10 ^ (rest.length + 1) + (ones * 10 ^ rest.length + decimalValue rest) := by
      ring
    simp only [List.foldlM_cons, Option.bind_eq_bind, Option.bind_eq_some_iff,
      appendDigit?_eq_some_iff, ih, List.forall_mem_cons, List.length_cons, decimalValue_cons]
    constructor
    · rintro ⟨next, ⟨digit, exact⟩, digits, stop⟩
      exact ⟨⟨digit, digits⟩, by rw [stop, exact, whole]⟩
    · rintro ⟨⟨digit, digits⟩, stop⟩
      rw [← whole] at stop
      have grows := Nat.le_mul_of_pos_right (value.toNat * 10 + (c.toNat - '0'.toNat))
        (Nat.pow_pos (by decide : 0 < 10) : 0 < 10 ^ rest.length)
      have bound := result.toNat_lt
      obtain ⟨next, exact⟩ := Memory.exists_word
        (by omega : value.toNat * 10 + (c.toNat - '0'.toNat) < 2 ^ 64)
      exact ⟨next, ⟨digit, exact⟩, digits, by rw [stop, exact]⟩

theorem foldlM_appendDigit?_zero {digits : List Char} {number : UInt64} :
    digits.foldlM appendDigit? 0 = some number ↔
      (∀ c ∈ digits, c.isDigit) ∧ decimalValue digits = number.toNat := by
  rw [foldlM_appendDigit?_eq_some_iff, UInt64.toNat_zero, Nat.zero_mul, Nat.zero_add, eq_comm]

/-- Digits alone, or behind one plus sign. -/
theorem decimal?_eq_some_iff {core : List Char} {number : UInt64} :
    decimal? core = some number ↔ ∃ sign digits, core = sign ++ digits ∧
      (sign = [] ∨ sign = ['+']) ∧ digits ≠ [] ∧ (∀ c ∈ digits, c.isDigit) ∧
        decimalValue digits = number.toNat := by
  constructor
  · intro found
    unfold decimal? at found
    split at found
    case h_1 | h_2 => contradiction
    case h_3 digits filled =>
      exact ⟨['+'], digits, rfl, .inr rfl, filled, foldlM_appendDigit?_zero.mp found⟩
    case h_4 filled _ _ =>
      exact ⟨[], core, rfl, .inl rfl, filled, foldlM_appendDigit?_zero.mp found⟩
  · rintro ⟨sign, digits, rfl, signed, filled, each, worth⟩
    have found := foldlM_appendDigit?_zero.mpr ⟨each, worth⟩
    obtain ⟨c, rest, rfl⟩ := List.exists_cons_of_ne_nil filled
    rcases signed with rfl | rfl
    · have unsigned : c ≠ '+' := by
        rintro rfl
        exact absurd (each '+' List.mem_cons_self) (by decide)
      unfold decimal?
      split <;> simp_all
    · exact found

theorem depth?_eq_some_iff {value : String} {depth : UInt64} :
    depth? value = some depth ↔ DenotesDepth value depth := by
  have positive : 0 < depth ↔ 0 < depth.toNat := UInt64.lt_iff_toNat_lt
  simp only [depth?, Option.filter_eq_some_iff, decimal?_eq_some_iff, decide_eq_true_eq, positive,
    DenotesDepth, trims_iff]
  constructor
  · rintro ⟨⟨sign, digits, whole, signed, filled, each, worth⟩, positive⟩
    exact ⟨sign, digits, whole.symm, signed, filled, each, worth, positive⟩
  · rintro ⟨sign, digits, whole, signed, filled, each, worth, positive⟩
    exact ⟨⟨sign, digits, whole.symm, signed, filled, each, worth⟩, positive⟩

section
variable {α : Type} {lookup : String → Option String} {key : String} {read? : String → Option α}
  {Denotes : String → α → Prop}

/-- What a key stands for: its default if it is absent, else what its value denotes. -/
def Stands (lookup : String → Option String) (key : String) (Denotes : String → α → Prop)
    (default : α) (result : α) : Prop :=
  match lookup key with
  | none => result = default
  | some value => Denotes value result

/-- The key has this value, and it denotes nothing. -/
def Invalid (lookup : String → Option String) (key : String) (Denotes : String → α → Prop)
    (value : String) : Prop :=
  lookup key = some value ∧ ∀ result, ¬Denotes value result

/-- The key is absent, or its value denotes something. -/
def Valid (lookup : String → Option String) (key : String) (Denotes : String → α → Prop) : Prop :=
  ∀ value, lookup key = some value → ∃ result, Denotes value result

variable (exact : ∀ value result, read? value = some result ↔ Denotes value result)
  {fault : String → String → SettingsFault} {default : α}
include exact

theorem readKey_eq_ok_iff {result : α} :
    readKey lookup key read? fault default = .ok result ↔
      Stands lookup key Denotes default result := by
  unfold readKey Stands
  cases lookup key with
  | none => simp [eq_comm]
  | some value =>
    simp only [← exact]
    cases read? value with
    | none => simp
    | some other => simp

theorem readKey_eq_error_iff {reason : SettingsFault} :
    readKey lookup key read? fault default = .error reason ↔
      ∃ value, Invalid lookup key Denotes value ∧ reason = fault key value := by
  unfold readKey Invalid
  cases lookup key with
  | none => simp
  | some value =>
    simp only [← exact]
    cases found : read? value with
    | none => simp [found, eq_comm]
    | some other => simp [found]

end

/-- The first key at fault in the order unwind mode, strictness, depth, with its value as it came.
The keys behind it may have any values. -/
inductive FirstInvalid (lookup : String → Option String) : SettingsFault → Prop
  | unwind {value : String} (invalid : Invalid lookup unwindKey DenotesMode value) :
      FirstInvalid lookup (.unknownUnwindMode unwindKey value)
  | strictMonitors {value : String} (unwind : Valid lookup unwindKey DenotesMode)
      (invalid : Invalid lookup strictMonitorsKey DenotesFlag value) :
      FirstInvalid lookup (.invalidFlag strictMonitorsKey value)
  | backtraceDepth {value : String} (unwind : Valid lookup unwindKey DenotesMode)
      (strictMonitors : Valid lookup strictMonitorsKey DenotesFlag)
      (invalid : Invalid lookup backtraceDepthKey DenotesDepth value) :
      FirstInvalid lookup (.invalidDepth backtraceDepthKey value)

theorem exists_stands_iff {α : Type} {lookup : String → Option String} {key : String}
    {Denotes : String → α → Prop} (default : α) :
    (∃ result, Stands lookup key Denotes default result) ↔ Valid lookup key Denotes := by
  unfold Stands Valid
  cases lookup key with
  | none => simp
  | some value => simp

section
variable {α β : Type} {first : Except SettingsFault α} {next : α → Except SettingsFault β}

theorem bind_eq_ok_iff {result : β} :
    first >>= next = .ok result ↔ ∃ value, first = .ok value ∧ next value = .ok result := by
  cases first with
  | error reason => simp [bind, Except.bind]
  | ok value => simp [bind, Except.bind]

theorem bind_eq_error_iff {fault : SettingsFault} : first >>= next = .error fault ↔
    first = .error fault ∨ ∃ value, first = .ok value ∧ next value = .error fault := by
  cases first with
  | error reason => simp [bind, Except.bind]
  | ok value => simp [bind, Except.bind]

end

section
variable {lookup : String → Option String}

theorem ofLookup_eq_ok_iff {settings : Settings} : ofLookup lookup = .ok settings ↔
    Stands lookup unwindKey DenotesMode .propagate settings.unwind ∧
      Stands lookup strictMonitorsKey DenotesFlag false settings.strictMonitors ∧
      Stands lookup backtraceDepthKey DenotesDepth 64 settings.backtraceDepth := by
  simp only [ofLookup, bind_eq_ok_iff, readKey_eq_ok_iff fun _ _ => unwindMode?_eq_some_iff,
    readKey_eq_ok_iff fun _ _ => flag?_eq_some_iff,
    readKey_eq_ok_iff fun _ _ => depth?_eq_some_iff]
  constructor
  · rintro ⟨unwind, mode, strictMonitors, flag, backtraceDepth, depth, made⟩
    cases made
    exact ⟨mode, flag, depth⟩
  · rintro ⟨mode, flag, depth⟩
    exact ⟨_, mode, _, flag, _, depth, rfl⟩

theorem ofLookup_eq_error_iff {fault : SettingsFault} :
    ofLookup lookup = .error fault ↔ FirstInvalid lookup fault := by
  simp only [ofLookup, bind_eq_error_iff,
    readKey_eq_ok_iff fun _ _ => unwindMode?_eq_some_iff,
    readKey_eq_ok_iff fun _ _ => flag?_eq_some_iff,
    readKey_eq_error_iff fun _ _ => unwindMode?_eq_some_iff,
    readKey_eq_error_iff fun _ _ => flag?_eq_some_iff,
    readKey_eq_error_iff fun _ _ => depth?_eq_some_iff]
  constructor
  · rintro (⟨value, invalid, rfl⟩ | ⟨unwind, mode, ⟨value, invalid, rfl⟩ |
      ⟨strictMonitors, flag, ⟨value, invalid, rfl⟩ | ⟨_, _, made⟩⟩⟩)
    · exact .unwind invalid
    · exact .strictMonitors ((exists_stands_iff _).mp ⟨unwind, mode⟩) invalid
    · exact .backtraceDepth ((exists_stands_iff _).mp ⟨unwind, mode⟩)
        ((exists_stands_iff _).mp ⟨strictMonitors, flag⟩) invalid
    · contradiction
  · intro faulty
    cases faulty with
    | unwind invalid => exact .inl ⟨_, invalid, rfl⟩
    | strictMonitors unwind invalid =>
      obtain ⟨mode, unwinds⟩ := (exists_stands_iff .propagate).mpr unwind
      exact .inr ⟨mode, unwinds, .inl ⟨_, invalid, rfl⟩⟩
    | backtraceDepth unwind strictMonitors invalid =>
      obtain ⟨mode, unwinds⟩ := (exists_stands_iff .propagate).mpr unwind
      obtain ⟨flag, strict⟩ := (exists_stands_iff false).mpr strictMonitors
      exact .inr ⟨mode, unwinds, .inr ⟨flag, strict, .inl ⟨_, invalid, rfl⟩⟩⟩

end

/-- The values are the same but for white space around them and the case of their letters. -/
def Resembles (value other : String) : Prop :=
  ∃ core twin, Trims value.toList core ∧ Trims other.toList twin ∧
    core.map Char.toLower = twin.map Char.toLower

namespace Resembles
variable {value other : String} (alike : Resembles value other)
include alike

theorem symm : Resembles other value := by
  obtain ⟨core, twin, trims, trimmed, same⟩ := alike
  exact ⟨twin, core, trimmed, trims, same.symm⟩

theorem names {word : String} (names : Names value word) : Names other word := by
  obtain ⟨core, twin, trims, trimmed, same⟩ := alike
  obtain ⟨kept, again, spelled⟩ := names
  obtain rfl : kept = core := again.eq.trans trims.eq.symm
  exact ⟨twin, trimmed, same.symm.trans spelled⟩

theorem denotesMode {mode : UnwindMode} (denotes : DenotesMode value mode) :
    DenotesMode other mode := by
  obtain ⟨word, listed, names⟩ := denotes
  exact ⟨word, listed, alike.names names⟩

theorem denotesFlag {flag : Bool} (denotes : DenotesFlag value flag) : DenotesFlag other flag := by
  obtain ⟨word, listed, names⟩ := denotes
  exact ⟨word, listed, alike.names names⟩

/-- A number has no letters, so its digits are the same. -/
theorem denotesDepth {depth : UInt64} (denotes : DenotesDepth value depth) :
    DenotesDepth other depth := by
  obtain ⟨core, twin, trims, trimmed, same⟩ := alike
  obtain ⟨sign, digits, number, signed, filled, each, worth, positive⟩ := denotes
  obtain rfl : core = sign ++ digits := trims.eq.trans number.eq.symm
  have plain : ∀ c ∈ sign ++ digits, c.toNat < 65 := by
    intro c member
    rcases List.mem_append.mp member with front | behind
    · rcases signed with rfl | rfl
      · contradiction
      · obtain rfl := List.mem_singleton.mp front
        decide
    · exact Nat.lt_of_le_of_lt (isDigit_iff.mp (each c behind)).2 (by decide)
  obtain rfl := eq_of_map_toLower plain same
  exact ⟨sign, digits, trimmed, signed, filled, each, worth, positive⟩

end Resembles

theorem stands_congr {α : Type} {lookup other : String → Option String} {key : String}
    {Denotes : String → α → Prop} {default result : α}
    (kept : ∀ {value twin : String}, Resembles value twin → Denotes value result →
      Denotes twin result)
    (alike : Option.Rel Resembles (lookup key) (other key)) :
    Stands lookup key Denotes default result ↔ Stands other key Denotes default result := by
  unfold Stands
  generalize lookup key = here, other key = there at alike
  cases alike with
  | none => rfl
  | some same => exact ⟨kept same, kept same.symm⟩

/-- What a key stands for is decided by its own value. -/
theorem stands_agree {α : Type} {lookup other : String → Option String} {key : String}
    {read? : String → Option α} {Denotes : String → α → Prop} {default first second : α}
    (exact : ∀ value result, read? value = some result ↔ Denotes value result)
    (one : Stands lookup key Denotes default first)
    (two : Stands other key Denotes default second) (same : lookup key = other key) :
    first = second := by
  unfold Stands at one two
  rw [same] at one
  generalize other key = held at one two
  cases held with
  | none => exact one.trans two.symm
  | some value =>
    have read := (exact value first).mpr one
    exact Option.some.inj (read.symm.trans ((exact value second).mpr two))

/-- Whatever the surroundings say, settings are accepted exactly if every key that is present has a
value of its own grammar, and they are what these values denote; else the first key at fault is
told with its value as it came. White space around a value and the case of its letters decide
nothing, and no key decides what another stands for. -/
theorem settings_grammar (lookup : String → Option String) :
    (∀ settings, ofLookup lookup = .ok settings ↔
      Stands lookup unwindKey DenotesMode .propagate settings.unwind ∧
        Stands lookup strictMonitorsKey DenotesFlag false settings.strictMonitors ∧
        Stands lookup backtraceDepthKey DenotesDepth 64 settings.backtraceDepth) ∧
    ((∃ settings, ofLookup lookup = .ok settings) ↔
      Valid lookup unwindKey DenotesMode ∧ Valid lookup strictMonitorsKey DenotesFlag ∧
        Valid lookup backtraceDepthKey DenotesDepth) ∧
    (∀ fault, ofLookup lookup = .error fault ↔ FirstInvalid lookup fault) ∧
    (∀ other : String → Option String,
      (∀ key ∈ [unwindKey, strictMonitorsKey, backtraceDepthKey],
        Option.Rel Resembles (lookup key) (other key)) →
      ∀ settings, ofLookup lookup = .ok settings ↔ ofLookup other = .ok settings) ∧
    ∀ other settings changed, ofLookup lookup = .ok settings → ofLookup other = .ok changed →
      (lookup unwindKey = other unwindKey → settings.unwind = changed.unwind) ∧
      (lookup strictMonitorsKey = other strictMonitorsKey →
        settings.strictMonitors = changed.strictMonitors) ∧
      (lookup backtraceDepthKey = other backtraceDepthKey →
        settings.backtraceDepth = changed.backtraceDepth) := by
  refine ⟨fun settings => ofLookup_eq_ok_iff, ?_, fun fault => ofLookup_eq_error_iff, ?_, ?_⟩
  · simp only [ofLookup_eq_ok_iff]
    rw [← exists_stands_iff UnwindMode.propagate, ← exists_stands_iff false,
      ← exists_stands_iff (64 : UInt64)]
    constructor
    · rintro ⟨settings, mode, flag, depth⟩
      exact ⟨⟨_, mode⟩, ⟨_, flag⟩, ⟨_, depth⟩⟩
    · rintro ⟨⟨unwind, mode⟩, ⟨strictMonitors, flag⟩, ⟨backtraceDepth, depth⟩⟩
      exact ⟨{ unwind, strictMonitors, backtraceDepth }, mode, flag, depth⟩
  · intro other alike settings
    have unwind := alike unwindKey (by simp)
    have strictMonitors := alike strictMonitorsKey (by simp)
    have backtraceDepth := alike backtraceDepthKey (by simp)
    rw [ofLookup_eq_ok_iff, ofLookup_eq_ok_iff,
      stands_congr (fun twin => twin.denotesMode) unwind,
      stands_congr (fun twin => twin.denotesFlag) strictMonitors,
      stands_congr (fun twin => twin.denotesDepth) backtraceDepth]
  · intro other settings changed accepted others
    obtain ⟨mode, flag, depth⟩ := ofLookup_eq_ok_iff.mp accepted
    obtain ⟨another, sign, number⟩ := ofLookup_eq_ok_iff.mp others
    exact ⟨stands_agree (fun _ _ => unwindMode?_eq_some_iff) mode another,
      stands_agree (fun _ _ => flag?_eq_some_iff) flag sign,
      stands_agree (fun _ _ => depth?_eq_some_iff) depth number⟩

/-- The largest number behind zeros, a mode behind wide white space, a flag of white space only; and
the number after the largest beside a mode that is none. -/
theorem settings_grammar_edges :
    ofLookup (List.lookup · [(unwindKey, "\u3000AbOrT\t"), (strictMonitorsKey, "\u2003"),
        (backtraceDepthKey, " +0018446744073709551615")]) =
      .ok ⟨.terminate, false, 18446744073709551615⟩ ∧
    ofLookup (List.lookup · [(backtraceDepthKey, " 18446744073709551616")]) =
      .error (.invalidDepth backtraceDepthKey " 18446744073709551616") ∧
    ofLookup (List.lookup ·
      [(backtraceDepthKey, "18446744073709551616"), (unwindKey, " sometimes")]) =
      .error (.unknownUnwindMode unwindKey " sometimes") := by
  have refused {value : String} (unread : depth? value = none) (depth : UInt64) :
      ¬DenotesDepth value depth := by
    rw [← depth?_eq_some_iff, unread]
    exact nofun
  have unknown (mode : UnwindMode) : ¬DenotesMode " sometimes" mode := by
    have unread : unwindMode? " sometimes" = none := by decide
    rw [← unwindMode?_eq_some_iff, unread]
    exact nofun
  refine ⟨((settings_grammar _).1 _).mpr ⟨?_, ?_, ?_⟩, ((settings_grammar _).2.2.1 _).mpr ?_,
    ((settings_grammar _).2.2.1 _).mpr (.unwind ⟨rfl, unknown⟩)⟩
  · exact unwindMode?_eq_some_iff.mp (by decide)
  · exact flag?_eq_some_iff.mp (by decide)
  · exact depth?_eq_some_iff.mp (by decide)
  · exact .backtraceDepth nofun nofun ⟨rfl, refused (by decide)⟩

end ManagedRuntime.Settings
