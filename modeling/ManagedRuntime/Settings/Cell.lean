import ManagedRuntime.Fault
import ManagedRuntime.Settings.Basic

/-! The settings of a process are fixed once, by the first installation or the first reading. -/
namespace ManagedRuntime

structure SettingsCell where
  installed : Option Settings := none
deriving DecidableEq, Repr

namespace SettingsCell

/-- Refused once any settings are in force. -/
def install (cell : SettingsCell) (settings : Settings) : Except SettingsFault SettingsCell :=
  match cell.installed with
  | none => .ok ⟨some settings⟩
  | some _ => .error .alreadyInstalled

/-- What the first reading found in the surroundings, when it was this one. -/
inductive Reading
  | known
  | fresh
  | rejected (fault : SettingsFault)
deriving DecidableEq, Repr

/-- The settings in force. The first reading takes `surroundings`, or the defaults when they are
faulty, and fixes what it took. -/
def read (cell : SettingsCell) (surroundings : Except SettingsFault Settings) :
    Settings × Reading × SettingsCell :=
  match cell.installed with
  | some settings => (settings, .known, cell)
  | none =>
    match surroundings with
    | .ok settings => (settings, .fresh, ⟨some settings⟩)
    | .error fault => ({}, .rejected fault, ⟨some {}⟩)

theorem read_read (cell : SettingsCell) (first second : Except SettingsFault Settings) :
    ((cell.read first).2.2.read second).1 = (cell.read first).1 := by
  cases held : cell.installed <;> cases first <;> simp [read, held]

end SettingsCell

end ManagedRuntime
