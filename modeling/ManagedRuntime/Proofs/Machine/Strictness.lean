import ManagedRuntime.Proofs.Machine.Requests

/-! Whether monitors are strict is settled by the first reading of the settings. Logging, the
monitors and the end of the process leave it as it is. -/
namespace ManagedRuntime.Machine

/-- Misuse of a monitor ends the process. -/
def isStrict (machine : Machine) : Bool := machine.readSettings.1.strictMonitors

section
variable (machine : Machine)

/-- The settings in force depend on the cell and the variables alone. -/
theorem readSettings_fst : machine.readSettings.1 =
    (machine.settings.read machine.environment.settings).1 := by
  simp only [readSettings]
  split <;> simp_all

theorem settings_log (severity : Severity) (part : Part) (pieces : List LogPiece) :
    (machine.log severity part pieces).settings = machine.settings ∧
      (machine.log severity part pieces).environment = machine.environment := by
  obtain ⟨kept, written, same⟩ := log_eq machine severity part pieces
  rw [same]
  exact ⟨rfl, rfl⟩

theorem settings_initLogging : machine.initLogging.settings = machine.settings ∧
    machine.initLogging.environment = machine.environment := by
  unfold initLogging
  dsimp only
  split <;> exact ⟨rfl, rfl⟩

theorem settings_readSettings : machine.readSettings.2.settings =
      (machine.settings.read machine.environment.settings).2.2 ∧
    machine.readSettings.2.environment = machine.environment := by
  simp only [readSettings]
  split
  · next found =>
    rw [found]
    exact settings_log ..
  · next found =>
    rw [found]
    exact ⟨rfl, rfl⟩

theorem isStrict_congr {machine other : Machine} (settings : other.settings = machine.settings)
    (environment : other.environment = machine.environment) :
    other.isStrict = machine.isStrict := by
  simp only [isStrict, readSettings_fst, settings, environment]

@[simp] theorem isStrict_log (severity : Severity) (part : Part) (pieces : List LogPiece) :
    (machine.log severity part pieces).isStrict = machine.isStrict :=
  isStrict_congr (settings_log ..).1 (settings_log ..).2

@[simp] theorem isStrict_readSettings : machine.readSettings.2.isStrict = machine.isStrict := by
  obtain ⟨settings, environment⟩ := settings_readSettings machine
  simp only [isStrict, readSettings_fst, settings, environment, SettingsCell.read_read]

@[simp] theorem isStrict_trap (reason : Trap) :
    (machine.trap reason).isStrict = machine.isStrict := by
  obtain ⟨settings, environment⟩ := settings_log machine .error .error [.text reason.message]
  exact isStrict_congr settings environment

@[simp] theorem isStrict_heed (me : Token) (object : UInt64) (note : MonitorNote) :
    (machine.heed me object note).isStrict = machine.isStrict := by
  cases note with
  | entered | released => exact isStrict_log ..
  | misuse operation owner =>
    simp only [heed]
    split <;> simp
  | overflow => exact isStrict_trap ..

end

section
variable {machine after : Machine}

theorem isStrict_stepMonitor (shown : machine.stepMonitor me object = some after) :
    after.isStrict = machine.isStrict := by
  simp only [stepMonitor, Option.map_eq_some_iff] at shown
  obtain ⟨⟨note, monitor⟩, -, rfl⟩ := shown
  cases note with
  | none => exact isStrict_congr rfl rfl
  | some note => exact (isStrict_heed _ me object note).trans (isStrict_congr rfl rfl)

/-- Misuse ends a strict process. -/
theorem trapped_of_misuse (strict : machine.isStrict = true)
    (stepped : (machine.heap.monitor object).step me =
      some (some (.misuse operation owner), monitor))
    (shown : machine.stepMonitor me object = some after) :
    ∃ stopped : Machine, after = stopped.trap (.monitorNotOwned operation) := by
  simp only [stepMonitor, stepped, Option.map_some, Option.some.injEq] at shown
  have reads : ({ machine with
      heap := machine.heap.setMonitor object monitor } : Machine).isStrict = machine.isStrict :=
    isStrict_congr rfl rfl
  rw [strict, isStrict] at reads
  simp only [heed, reads, if_true] at shown
  exact ⟨_, shown.symm⟩

/-- Short of misuse, a step ends the process when it overflows and otherwise never. -/
theorem ended_stepMonitor
    (stepped : (machine.heap.monitor object).step me = some (note, monitor))
    (proper : ∀ operation owner, note ≠ some (.misuse operation owner))
    (shown : machine.stepMonitor me object = some after) :
    after.ended = if note = some .overflow then some .aborted else machine.ended := by
  simp only [stepMonitor, stepped, Option.map_some, Option.some.injEq] at shown
  subst shown
  cases note with
  | none => rfl
  | some note =>
    cases note with
    | entered | released => exact (alike_log _ _ _ _).ended
    | misuse operation owner => exact absurd rfl (proper operation owner)
    | overflow => rfl

end
end ManagedRuntime.Machine
