import ManagedRuntime.Proofs.Machine.Guise
import ManagedRuntime.Proofs.Settings.Consultations

/-! What a process asks of its settings. Each time a monitor is misused or notified the settings are
read; once they are in force, whatever asks for them is told the same. -/
namespace ManagedRuntime.Machine
open SettingsCell (Consults)

/-- What it comes to when the settings are read now. -/
def reading (machine : Machine) : Consultation :=
  (machine.settings.reading machine.environment.settings).1

/-- Misuse of a monitor reads the settings, to know what to make of it. -/
def heedConsultations (machine : Machine) : MonitorNote → List Consultation
  | .misuse _ _ => [machine.reading]
  | .entered | .released | .overflow => []

/-- Calls that a request makes while its thread goes on with it. -/
def monitorConsultations (machine : Machine) (me : Token) (object : UInt64) :
    Nat → List Consultation
  | 0 => []
  | fuel + 1 =>
    if machine.ended.isSome then []
    else
      match (machine.heap.monitor object).step me, machine.stepMonitor me object with
      | some (note, _), some stepped =>
        note.elim [] machine.heedConsultations ++ stepped.monitorConsultations me object fuel
      | _, _ => []

def requestConsultations (machine : Machine) (me : Token) (object : UInt64)
    (request : MonitorRequest) : List Consultation :=
  (machine.call me object request).monitorConsultations me object 8

/-- A notifier reads the settings before it looks at the monitor. -/
def notifyConsultations (machine : Machine) (me : Token) (r : Ref) (all : Bool) :
    List Consultation :=
  machine.reading :: machine.readSettings.2.requestConsultations me r.object
    (.notify all machine.readSettings.1.strictMonitors)

/-- Whoever misuses or notifies a monitor now goes by `settings`, and leaves the process `fixed`
before anything else. -/
structure GoesBy (machine : Machine) (settings : Settings) (fixed : Machine) : Prop where
  misuse : ∀ me object operation owner, machine.heed me object (.misuse operation owner) =
    if settings.strictMonitors then fixed.trap (.monitorNotOwned operation)
    else fixed.log .warn .monitor
      [.text ("monitor " ++ operation ++ " by "), .thread me, .text " while owned by ",
        .thread owner]
  notify : ∀ me r all,
    machine.notify me r all = fixed.request me r.object (.notify all settings.strictMonitors)

theorem configure_of_blank {machine : Machine} (blank : machine.settings.installed = none)
    (settings : Settings) :
    machine.configure settings = .ok { machine with settings := ⟨some settings⟩ } := by
  simp only [configure, SettingsCell.install, blank]
  rfl

/-- Settings that are in force are not replaced. -/
theorem configure_of_installed {machine : Machine} {settings : Settings}
    (installed : machine.settings.installed = some settings) (other : Settings) :
    machine.configure other = .error .alreadyInstalled := by
  simp only [configure, SettingsCell.install, installed]
  rfl

section
variable (machine : Machine)

theorem reading_eq : machine.reading =
    .read machine.environment.settings machine.readSettings.1 machine.reading.warns := by
  rw [readSettings_fst]
  simp only [reading, SettingsCell.reading]
  split <;> simp_all [Consultation.warns]

/-- A reading that warns does so in the log. -/
theorem readSettings_warns : machine.readSettings.2 =
    let fixed := { machine with settings := machine.readSettings.2.settings }
    match machine.environment.settings with
    | .ok _ => fixed
    | .error fault =>
      if machine.reading.warns then
        fixed.logText .warn .config ("ignoring runtime configuration: " ++ fault.message)
      else fixed := by
  rw [(settings_readSettings machine).1]
  cases held : machine.settings.installed <;> cases found : machine.environment.settings <;>
    simp [readSettings, reading, SettingsCell.reading, SettingsCell.read, held, found,
      Consultation.warns]

theorem goesBy_readSettings : machine.GoesBy machine.readSettings.1 machine.readSettings.2 :=
  ⟨fun _ _ _ _ => rfl, fun _ _ _ => rfl⟩

theorem consults_readSettings :
    Consults machine.settings [machine.reading] machine.readSettings.2.settings := by
  have fixed : (machine.settings.reading machine.environment.settings).2 =
      machine.readSettings.2.settings := by
    rw [(settings_readSettings machine).1]
    simp only [SettingsCell.reading]
    split <;> simp_all
  exact fixed ▸ .read machine.settings machine.environment.settings

theorem settings_trap (reason : Trap) : (machine.trap reason).settings = machine.settings :=
  (settings_log machine ..).1

theorem runs_heed (me : Token) (object : UInt64) (note : MonitorNote) :
    Runs Consults machine.settings (machine.heedConsultations note)
      (machine.heed me object note).settings := by
  have still {after : SettingsCell} (same : after = machine.settings) :
      Runs Consults machine.settings [] after := same ▸ .start _
  cases note with
  | entered | released => exact still (settings_log ..).1
  | overflow => exact still (settings_trap ..)
  | misuse operation owner =>
    have kept : (machine.heed me object (.misuse operation owner)).settings =
        machine.readSettings.2.settings := by
      simp only [heed]
      split
      · exact settings_trap ..
      · exact (settings_log ..).1
    exact kept ▸ Runs.one machine.consults_readSettings

theorem runs_monitor (me : Token) (object : UInt64) (fuel : Nat) :
    Runs Consults machine.settings (machine.monitorConsultations me object fuel)
      (machine.runMonitor me object fuel).settings := by
  induction fuel generalizing machine with
  | zero => exact .start _
  | succ fuel ih =>
    unfold monitorConsultations runMonitor
    split
    · exact .start _
    · cases stepped : (machine.heap.monitor object).step me with
      | none =>
        simp only [stepMonitor, stepped, Option.map_none]
        exact .start _
      | some outcome =>
        obtain ⟨note, monitor⟩ := outcome
        simp only [stepMonitor, stepped, Option.map_some]
        refine Runs.append ?_ (ih _)
        cases note with
        | none => exact .start _
        | some note =>
          exact runs_heed { machine with heap := machine.heap.setMonitor object monitor } me object
            note

theorem runs_request (me : Token) (object : UInt64) (request : MonitorRequest) :
    Runs Consults machine.settings (machine.requestConsultations me object request)
      (machine.request me object request).settings :=
  runs_monitor (machine.call me object request) me object 8

theorem runs_notify (me : Token) (r : Ref) (all : Bool) :
    Runs Consults machine.settings (machine.notifyConsultations me r all)
      (machine.notify me r all).settings :=
  (Runs.one machine.consults_readSettings).append (runs_request ..)

end
end ManagedRuntime.Machine
