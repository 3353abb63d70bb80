import ManagedRuntime.Proofs.Runs
import ManagedRuntime.Settings.Cell
import ManagedRuntime.Settings.Parser

/-! Calls that concern the settings of a process, whoever makes them. The first one decides: what it
installs or takes from its surroundings stays in force, and every later one only finds that out. -/
namespace ManagedRuntime

namespace Settings

/-- The key has a value that cannot be read. -/
def Rejects (lookup : String → Option String) (key : String) (read? : String → Option α) : Prop :=
  ∃ value, lookup key = some value ∧ read? value = none

variable {lookup : String → Option String}

theorem readKey_error_iff {key : String} {read? : String → Option α}
    {fault : String → String → SettingsFault} {default : α} :
    (∃ reason, readKey lookup key read? fault default = .error reason) ↔
      Rejects lookup key read? := by
  cases found : lookup key with
  | none => simp [readKey, Rejects, found]
  | some value => cases result : read? value <;> simp [readKey, Rejects, found, result]

/-- One value that cannot be read spoils all of them. -/
theorem ofLookup_error_iff : (∃ reason, ofLookup lookup = .error reason) ↔
    Rejects lookup unwindKey unwindMode? ∨ Rejects lookup strictMonitorsKey flag? ∨
      Rejects lookup backtraceDepthKey depth? := by
  rw [← @readKey_error_iff _ _ _ _ .unknownUnwindMode .propagate,
    ← @readKey_error_iff _ _ _ _ .invalidFlag false,
    ← @readKey_error_iff _ _ _ _ .invalidDepth 64]
  unfold ofLookup
  cases readKey lookup unwindKey unwindMode? .unknownUnwindMode .propagate with
  | error reason => simp [bind, Except.bind]
  | ok unwind =>
    cases readKey lookup strictMonitorsKey flag? .invalidFlag false with
    | error reason => simp [bind, Except.bind]
    | ok strict =>
      cases readKey lookup backtraceDepthKey depth? .invalidDepth 64 <;>
        simp [bind, Except.bind, pure, Except.pure]

end Settings

/-- A call that concerns the settings, and what came of it. -/
inductive Consultation
  | configured (settings : Settings) (accepted : Bool)
  /-- The settings were read. Only the first reading looks at its surroundings, and it warns when
  they are faulty. -/
  | read (surroundings : Except SettingsFault Settings) (settings : Settings) (warned : Bool)

namespace Consultation

def isAccepted : Consultation → Bool
  | .configured _ accepted => accepted
  | .read _ _ _ => false

/-- The settings that were read. -/
def read? : Consultation → Option Settings
  | .configured _ _ => none
  | .read _ settings _ => some settings

def warns : Consultation → Bool
  | .configured _ _ => false
  | .read _ _ warned => warned

/-- What the first reading takes from its surroundings: all of it, or the defaults and none of
it. -/
def taken : Except SettingsFault Settings → Settings
  | .ok settings => settings
  | .error _ => {}

def isFaulty : Except SettingsFault Settings → Bool
  | .ok _ => false
  | .error _ => true

/-- The call puts settings in force. -/
inductive Decides : Consultation → Settings → Prop
  | configured (settings : Settings) : Decides (.configured settings true) settings
  | read (surroundings : Except SettingsFault Settings) :
      Decides (.read surroundings (taken surroundings) (isFaulty surroundings)) (taken surroundings)

/-- The call finds out that settings are in force. -/
inductive FindsOut (settings : Settings) : Consultation → Prop
  | refused (other : Settings) : FindsOut settings (.configured other false)
  | read (surroundings : Except SettingsFault Settings) :
      FindsOut settings (.read surroundings settings false)

end Consultation

open Consultation (Decides FindsOut taken isFaulty)

namespace SettingsCell

def configuring (cell : SettingsCell) (settings : Settings) : Consultation × SettingsCell :=
  match cell.install settings with
  | .ok installed => (.configured settings true, installed)
  | .error _ => (.configured settings false, cell)

def reading (cell : SettingsCell) (surroundings : Except SettingsFault Settings) :
    Consultation × SettingsCell :=
  match cell.read surroundings with
  | (settings, .rejected _, fixed) => (.read surroundings settings true, fixed)
  | (settings, .known, fixed) | (settings, .fresh, fixed) =>
    (.read surroundings settings false, fixed)

/-- Calls are made one after the other; what they find around them may change in between. -/
inductive Consults : SettingsCell → List Consultation → SettingsCell → Prop
  | configure (cell : SettingsCell) (settings : Settings) :
      Consults cell [(cell.configuring settings).1] (cell.configuring settings).2
  | read (cell : SettingsCell) (surroundings : Except SettingsFault Settings) :
      Consults cell [(cell.reading surroundings).1] (cell.reading surroundings).2

section
variable {cell : SettingsCell}

theorem configuring_blank (blank : cell.installed = none) (settings : Settings) :
    cell.configuring settings = (.configured settings true, ⟨some settings⟩) := by
  simp only [configuring, install, blank]

theorem configuring_held (held : cell.installed = some settings) (other : Settings) :
    cell.configuring other = (.configured other false, cell) := by
  simp only [configuring, install, held]

theorem reading_blank (blank : cell.installed = none)
    (surroundings : Except SettingsFault Settings) :
    cell.reading surroundings =
      (.read surroundings (taken surroundings) (isFaulty surroundings),
        ⟨some (taken surroundings)⟩) := by
  cases surroundings <;> simp only [reading, read, blank, taken, isFaulty]

theorem reading_held (held : cell.installed = some settings)
    (surroundings : Except SettingsFault Settings) :
    cell.reading surroundings = (.read surroundings settings false, cell) := by
  simp only [reading, read, held]

theorem decides_of_blank (blank : cell.installed = none) (consults : Consults cell now after) :
    ∃ settings call, now = [call] ∧ Decides call settings ∧ after.installed = some settings := by
  cases consults with
  | configure settings =>
    rw [configuring_blank blank]
    exact ⟨settings, _, rfl, .configured settings, rfl⟩
  | read surroundings =>
    rw [reading_blank blank]
    exact ⟨taken surroundings, _, rfl, .read surroundings, rfl⟩

theorem findsOut_of_held (held : cell.installed = some settings)
    (consults : Consults cell now after) :
    after = cell ∧ ∃ call, now = [call] ∧ FindsOut settings call := by
  cases consults with
  | configure other =>
    rw [configuring_held held]
    exact ⟨rfl, _, rfl, .refused other⟩
  | read surroundings =>
    rw [reading_held held]
    exact ⟨rfl, _, rfl, .read surroundings⟩

/-- The first call decides, and all others find that out. -/
theorem history_cases (blank : cell.installed = none) (run : Runs Consults cell history after) :
    (history = [] ∧ after = cell) ∨
      ∃ settings first rest, history = first :: rest ∧ Decides first settings ∧
        (∀ call ∈ rest, FindsOut settings call) ∧ after.installed = some settings := by
  induction run with
  | start => exact .inl ⟨rfl, rfl⟩
  | next _ consults ih =>
    obtain ⟨rfl, rfl⟩ | ⟨settings, first, rest, rfl, decides, finds, held⟩ := ih
    · obtain ⟨settings, call, rfl, decides, held⟩ := decides_of_blank blank consults
      exact .inr ⟨settings, call, [], rfl, decides, nofun, held⟩
    · obtain ⟨rfl, call, rfl, late⟩ := findsOut_of_held held consults
      refine .inr ⟨settings, first, rest ++ [call], rfl, decides, ?_, held⟩
      rw [List.forall_mem_append]
      exact ⟨finds, fun other member => List.mem_singleton.mp member ▸ late⟩

end
end SettingsCell

/-- Everybody is told the same, and who decided it. -/
structure OneConfiguration (history : List Consultation) : Prop where
  /-- All readings return the same settings. -/
  agree : ∀ first ∈ history.filterMap Consultation.read?,
    ∀ second ∈ history.filterMap Consultation.read?, first = second
  once : history.countP Consultation.isAccepted ≤ 1
  /-- Settings are accepted if and only if nobody installed or read any before. -/
  accepted_iff : ∀ early settings accepted late,
    history = early ++ .configured settings accepted :: late →
      (accepted = true ↔ ∀ call ∈ early, call.isAccepted = false ∧ call.read? = none)
  /-- Settings that were accepted are those that everybody reads, and nobody is warned. -/
  installed : ∀ settings, .configured settings true ∈ history →
    (∀ other ∈ history.filterMap Consultation.read?, other = settings) ∧
      history.countP Consultation.warns = 0
  /-- Otherwise the first reading takes them from its surroundings, or all the defaults with the
  only warning. -/
  surroundings : (∀ call ∈ history, call.isAccepted = false) →
    ∀ early surroundings settings warned late,
      history = early ++ .read surroundings settings warned :: late →
      (∀ call ∈ early, call.read? = none) →
      (∀ found, surroundings = .ok found →
        settings = found ∧ history.countP Consultation.warns = 0) ∧
      ∀ fault, surroundings = .error fault →
        settings = ({} : Settings) ∧ history.countP Consultation.warns = 1

section
variable {settings : Settings} {rest : List Consultation}
  (finds : ∀ call ∈ rest, FindsOut settings call)
include finds

theorem read_of_findsOut : ∀ other ∈ rest.filterMap Consultation.read?, other = settings := by
  intro other member
  obtain ⟨call, among, read⟩ := List.mem_filterMap.mp member
  cases finds call among with
  | refused => cases read
  | read => exact (Option.some.inj read).symm

theorem silent_of_findsOut : rest.countP Consultation.isAccepted = 0 ∧
    rest.countP Consultation.warns = 0 := by
  simp only [List.countP_eq_zero]
  refine ⟨fun call member => ?_, fun call member => ?_⟩ <;>
    cases finds call member <;> nofun

variable {first : Consultation} (decides : Decides first settings)
include decides

/-- What was decided is what everybody reads. -/
theorem read_of_decides :
    ∀ other ∈ (first :: rest).filterMap Consultation.read?, other = settings := by
  intro other member
  obtain ⟨call, among, read⟩ := List.mem_filterMap.mp member
  cases among with
  | head =>
    cases decides with
    | configured => cases read
    | read => exact (Option.some.inj read).symm
  | tail _ later => exact read_of_findsOut finds other (List.mem_filterMap.mpr ⟨call, later, read⟩)

/-- Nothing else was accepted. -/
theorem accepted_of_decides (accepted : .configured other true ∈ first :: rest) :
    other = settings := by
  cases accepted with
  | head =>
    cases decides
    rfl
  | tail _ later => cases finds _ later

/-- A history in which the first call decides and all others find that out. -/
theorem oneConfiguration_of_decides : OneConfiguration (first :: rest) := by
  obtain ⟨refused, silent⟩ := silent_of_findsOut finds
  have told := read_of_decides finds decides
  constructor
  · intro one isOne another isAnother
    exact (told one isOne).trans (told another isAnother).symm
  · rw [List.countP_cons, refused]
    split <;> decide
  · intro early other accepted late shape
    obtain ⟨rfl, same⟩ | ⟨others, rfl, among⟩ := List.cons_eq_append_iff.mp shape
    · obtain ⟨rfl, rfl⟩ := List.cons.inj same
      cases decides
      exact ⟨fun _ => nofun, fun _ => rfl⟩
    · have member : .configured other accepted ∈ rest := by
        rw [among]
        exact List.mem_append_right _ List.mem_cons_self
      cases finds _ member
      refine iff_of_false nofun fun before => ?_
      obtain ⟨unaccepted, unread⟩ := before first List.mem_cons_self
      cases decides with
      | configured => cases unaccepted
      | read => cases unread
  · intro other member
    cases member with
    | head =>
      cases decides
      refine ⟨told, ?_⟩
      rw [List.countP_cons, silent]
      rfl
    | tail _ later => cases finds _ later
  · intro unaccepted early surroundings other warned late shape unread
    obtain ⟨rfl, same⟩ | ⟨others, rfl, among⟩ := List.cons_eq_append_iff.mp shape
    · obtain ⟨rfl, rfl⟩ := List.cons.inj same
      cases decides
      rw [List.countP_cons, silent]
      refine ⟨?_, ?_⟩
      · rintro found rfl
        exact ⟨rfl, rfl⟩
      · rintro fault rfl
        exact ⟨rfl, rfl⟩
    · cases decides with
      | configured => cases unaccepted _ List.mem_cons_self
      | read => cases unread _ List.mem_cons_self

end

theorem oneConfiguration_of_runs {cell after : SettingsCell} (blank : cell.installed = none)
    (run : Runs SettingsCell.Consults cell history after) : OneConfiguration history := by
  obtain ⟨rfl, -⟩ | ⟨settings, first, rest, rfl, decides, finds, -⟩ :=
    SettingsCell.history_cases blank run
  · constructor <;> simp
  · exact oneConfiguration_of_decides finds decides

end ManagedRuntime
