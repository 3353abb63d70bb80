import ManagedRuntime.Proofs.Machine.Consultations
import ManagedRuntime.Proofs.Machine.Tables
import ManagedRuntime.Proofs.Scenario.Degraded
import ManagedRuntime.Proofs.Scenario.Outlook

/-! What the threads of a process ask of its settings. Some operations read them only in passing: a
throw, a notification, misuse of a monitor and the start of a program. Whichever comes first, all
threads go by the same settings from then on. -/
namespace ManagedRuntime

namespace Exception

def Reply.isThrow : Reply ι κ → Bool
  | .throw _ _ => true
  | _ => false

theorem Reply.isThrow_iff {reply : Reply ι κ} :
    reply.isThrow = true ↔ ∃ mode record, reply = .throw mode record := by
  cases reply <;> simp [isThrow]

end Exception

theorem Machine.settings_allocated (machine : Machine) (size : UInt64)
    (outcome : Except AllocationFault (Ref × Heap)) :
    (machine.allocated size outcome).2.settings = machine.settings := by
  cases outcome with
  | ok made => exact (settings_log ..).1
  | error fault =>
    cases fault with
    | refused reason => rfl
    | exhausted bytes => exact (settings_log ..).1

theorem Machine.settings_marshalArguments (machine : Machine) (arguments : List UInt64) :
    (machine.marshalArguments arguments).2.settings = machine.settings := by
  have asked := congrArg Machine.settings (rest_arrayTable machine)
  unfold marshalArguments withArrayTable
  split
  · next there =>
    rw [there] at asked
    exact (settings_allocated ..).trans asked
  · next ended =>
    rw [ended] at asked
    exact asked

namespace Scenario
open Exception

namespace State

def verbConsultations (machine : Machine) (token : Token) (r : Ref) :
    MonitorVerb → List Consultation
  | .enter => machine.requestConsultations token r.object .enter
  | .exit => machine.requestConsultations token r.object .exit
  | .wait _ => machine.requestConsultations token r.object .wait
  | .notify => machine.notifyConsultations token r false
  | .notifyAll => machine.notifyConsultations token r true
  | .look => []

/-- Calls of a thread that makes a request or goes on with one. -/
def useConsultations (state : State) (me : Nat) (r : Ref) (verb : MonitorVerb) :
    List Consultation :=
  let (token, drawn) := state.currentToken me
  match (state.thread me).waiting with
  | .inMonitor object deadline =>
    if state.isPast deadline then (drawn.machine.timeOut token object).monitorConsultations token
      object 8
    else drawn.machine.monitorConsultations token object 8
  | _ => verbConsultations drawn.machine token r verb

/-- Calls that an instruction makes. Of those that use no monitor and are not about settings, the
ones that throw read them. -/
def consultationsOf (state : State) (me : Nat) (counts : Counts) (height : Nat)
    (instruction : Instruction) : List Consultation :=
  match instruction.asks state with
  | some (r, verb) => state.useConsultations me r verb
  | none =>
    match instruction with
    | .configure settings => [(state.machine.settings.configuring settings).1]
    | .config | .start _ _ _ _ _ => [state.machine.reading]
    | _ =>
      if ((host me).perform counts height instruction state).1.isThrow then [state.machine.reading]
      else []

/-- Calls that the thread makes in its next turn. -/
def consultations (state : State) (me : Nat) : List Consultation :=
  (state.strand me).upcoming.elim []
    (state.consultationsOf me (state.strand me).counts (state.strand me).frames.length)

/-- Threads take turns in any order, whatever time it is and whatever the variables are. -/
inductive Consults : State → List Consultation → State → Prop
  | turn (state : State) (me : Nat) :
      Consults state (state.consultations me) (state.stepThread me)
  | elapse (state : State) (clock : Nat) : Consults state [] { state with clock }
  | switch (state : State) (running : Nat) : Consults state [] { state with running }
  | surround (state : State) (environment : Environment) :
      Consults state [] (state.setMachine { state.machine with environment })

/-! What becomes of the settings. -/

section
variable (state : State) (me : Nat)

theorem settings_flushJournal :
    (state.flushJournal me).machine.settings = state.machine.settings := by
  rw [machine_flushJournal]

theorem settings_tell (event : Event) :
    (state.tell me event).machine.settings = state.machine.settings :=
  settings_flushJournal state me

theorem settings_done (counts : Counts) :
    (done me counts state).2.2.machine.settings = state.machine.settings :=
  settings_flushJournal state me

/-! Monitors. -/

theorem runs_beginMonitor (machine : Machine) (token : Token) (r : Ref) (verb : MonitorVerb)
    (route : Route) :
    Runs SettingsCell.Consults machine.settings (verbConsultations machine token r verb)
      (beginMonitor machine token r verb route).2.settings := by
  cases verb with
  | enter | exit | wait => cases route <;> exact machine.runs_request ..
  | notify | notifyAll => cases route <;> exact machine.runs_notify ..
  | look => cases route <;> exact .start _

theorem settings_settleMonitor (object : UInt64) (token : Token) (deadline : Option Nat)
    (counts : Counts) {finish : State → State}
    (keeps : ∀ state, (finish state).machine.settings = state.machine.settings) :
    (state.settleMonitor me object token deadline counts finish).2.2.machine.settings =
      state.machine.settings := by
  unfold settleMonitor
  split
  · exact settings_flushJournal ..
  · split
    · exact (settings_flushJournal ..).trans (keeps _)
    · exact settings_flushJournal ..
    · exact settings_flushJournal ..

theorem runs_useMonitor (r : Ref) (verb : MonitorVerb) (route : Route) (counts : Counts)
    {finish : Token → State → State}
    (keeps : ∀ token state, (finish token state).machine.settings = state.machine.settings) :
    Runs SettingsCell.Consults state.machine.settings (state.useConsultations me r verb)
      (state.useMonitor me r verb route counts finish).2.2.machine.settings := by
  have settles (machine : Machine) (object : UInt64) (deadline : Option Nat) :=
    settings_settleMonitor ((state.currentToken me).2.setMachine machine) me object
      (state.currentToken me).1 deadline counts (keeps (state.currentToken me).1)
  have resumes (machine : Machine) (object : UInt64) (deadline : Option Nat) :
      Runs SettingsCell.Consults machine.settings
        (machine.monitorConsultations (state.currentToken me).1 object 8) _ :=
    (settles (machine.advance _ object) object deadline).symm ▸ machine.runs_monitor _ object 8
  have kept := waiting_currentToken state me me
  cases waits : (state.thread me).waiting with
  | inMonitor object deadline =>
    rw [waits] at kept
    simp only [useConsultations, useMonitor, useMonitorAs, waits, kept, resumeMonitor]
    cases deadline with
    | none => exact resumes (state.currentToken me).2.machine object none
    | some time =>
      have clock : (state.currentToken me).2.clock = state.clock := rfl
      by_cases past : time ≤ state.clock
      · simp only [isPast, Option.any_some, past, decide_true, if_true, clock]
        exact resumes ((state.currentToken me).2.machine.timeOut _ object) object _
      · simp only [isPast, Option.any_some, past, decide_false, if_false, clock]
        exact resumes (state.currentToken me).2.machine object _
  | _ =>
    rw [waits] at kept
    simp only [useConsultations, useMonitor, useMonitorAs, waits, kept]
    rw [settles]
    exact runs_beginMonitor (state.currentToken me).2.machine _ r verb route

end

/-! Throws. -/

/-- What is thrown, and how, goes by these settings. -/
structure ThrownBy (settings : Settings) (height : Nat) (mode : UnwindMode)
    (record : ExceptionRecord) : Prop where
  mode : mode = settings.unwind
  record : record = .capture record.throwable settings.backtraceDepth (stackOf height)

theorem throw_reads {state : State} {me : Nat} {counts : Counts} {height : Nat}
    {instruction : Instruction} {mode : UnwindMode} {record : ExceptionRecord}
    (thrown : ((host me).perform counts height instruction state).1 = .throw mode record) :
    ThrownBy state.machine.readSettings.1 height mode record ∧
      ((host me).perform counts height instruction state).2.2.machine.settings =
        state.machine.readSettings.2.settings := by
  obtain ⟨r, route, machine, answer, settings, environment, -, -⟩ := perform_throws thrown
  have answer := answer {}
  rw [under_plain, under_plain, throwReply_eq] at answer
  have same : machine.readSettings.1 = state.machine.readSettings.1 := by
    rw [Machine.readSettings_fst, Machine.readSettings_fst, settings, environment]
  have cell : machine.readSettings.2.settings = state.machine.readSettings.2.settings := by
    rw [(Machine.settings_readSettings machine).1, (Machine.settings_readSettings state.machine).1,
      settings, environment]
  rw [answer] at thrown ⊢
  obtain ⟨rfl, rfl⟩ := Reply.throw.inj thrown
  refine ⟨⟨congrArg Settings.unwind same, ?_⟩, ?_⟩
  · rw [← same]
    rfl
  · rw [← cell]
    exact settings_flushJournal ((state.setMachine machine).setMachine machine.readSettings.2) me

/-! Whole turns. -/

section
variable {state : State} (me : Nat)

/-- With its own settings forced upon it a process is what it is. -/
theorem under_own (state : State) :
    state.under { machine := { settings := some state.machine.settings } } = state := by
  rw [state.under_of_plain rfl rfl rfl, Machine.under_of_plain ⟨rfl, rfl, rfl⟩ (.inl rfl)]
  rfl

theorem settings_hear (counts : Counts) (signal : Signal Site) (state : State) :
    ((host me).signal counts signal state).machine.settings = state.machine.settings := by
  let guise : Guise := { machine := { settings := some state.machine.settings } }
  have heard := @hear_faithful guise ⟨rfl, fun _ => rfl, fun _ => rfl⟩ state me counts signal
  rw [under_own] at heard
  exact congrArg (·.machine.settings) heard

/-- Whatever is not about settings or monitors and does not throw leaves the settings alone. -/
theorem settings_perform {counts : Counts} {height : Nat} {instruction : Instruction}
    (aloof : instruction.consults = false)
    (calm : ((host me).perform counts height instruction state).1.isThrow = false) :
    ((host me).perform counts height instruction state).2.2.machine.settings =
      state.machine.settings := by
  let guise : Guise := { machine := { settings := some state.machine.settings } }
  have allows : guise.Allows state me counts height instruction :=
    { calm := .inr fun mode record thrown => by
        rw [thrown] at calm
        cases calm
      fits := fun consults => by
        rw [aloof] at consults
        cases consults
      unseen := fun shown => by
        cases instruction with
        | config | start => cases aloof
        | _ => cases shown
      logs := fun _ => ⟨fun _ => ⟨rfl, (Logger.limited_all _).symm⟩, rfl⟩
      tokens := fun _ => ⟨rfl, rfl, rfl⟩
      known := fun _ => .inl rfl }
  have performed := perform_faithful ⟨rfl, fun _ => rfl, fun _ => rfl⟩ allows
  rw [under_own] at performed
  exact congrArg (·.2.2.machine.settings) performed

theorem settings_setOwnName (state : State) (me : Nat) (name : String) :
    (state.setOwnName me name).2.machine.settings = state.machine.settings := by
  unfold setOwnName
  split
  · rfl
  · exact (Machine.settings_log ..).1

theorem settings_marshalled (state : State) (arguments : List (List UInt8)) (count : Nat) :
    (state.marshalled arguments count).2.settings = state.machine.settings :=
  Machine.settings_marshalArguments ..

theorem settings_startUp (state : State) (arguments : List (List UInt8)) (count : Nat) :
    (state.startUp me arguments count).2.machine.settings =
      state.machine.readSettings.2.settings := by
  obtain ⟨settings, environment⟩ := Machine.settings_initLogging state.machine
  have read : state.machine.initLogging.readSettings.2.settings =
      state.machine.readSettings.2.settings := by
    rw [(Machine.settings_readSettings _).1, (Machine.settings_readSettings _).1, settings,
      environment]
  let noted := state.machine.beginStart count
  let named := state.namedMain me count
  obtain ⟨r, -, taken⟩ := named.takeArguments_eq me arguments count
  rw [startUp_snd, taken, settings_flushJournal]
  calc (named.marshalled arguments count).2.settings
    _ = named.machine.settings := settings_marshalled ..
    _ = noted.settings := settings_setOwnName (state.setMachine noted) me "main"
    _ = state.machine.initLogging.readSettings.2.settings := (Machine.settings_log ..).1
    _ = state.machine.readSettings.2.settings := read

theorem settings_setConfig (state : State) (settings : Settings) :
    (state.setConfig me settings).machine.settings =
      (state.machine.settings.configuring settings).2 := by
  simp only [setConfig, Machine.configure, SettingsCell.configuring]
  cases state.machine.settings.install settings with
  | ok installed => exact settings_tell ..
  | error fault => exact settings_tell ..

theorem runs_perform (state : State) (counts : Counts) (height : Nat)
    (instruction : Instruction) :
    Runs SettingsCell.Consults state.machine.settings
      (state.consultationsOf me counts height instruction)
      ((host me).perform counts height instruction state).2.2.machine.settings := by
  have read {after : State} (same : after.machine.settings =
      state.machine.readSettings.2.settings) :
      Runs SettingsCell.Consults state.machine.settings [state.machine.reading]
        after.machine.settings :=
    same ▸ .one state.machine.consults_readSettings
  cases instruction with
  | lock receiver =>
    simp only [host, perform]
    exact runs_useMonitor state me receiver .enter .entryPoint counts fun _ _ => rfl
  | unlock receiver =>
    simp only [host, perform]
    exact runs_useMonitor state me receiver .exit .entryPoint counts fun _ _ => rfl
  | monitor verb name route quiet =>
    simp only [host, perform, monitorStep]
    exact runs_useMonitor state me _ verb route counts fun _ _ => settings_tell ..
  | configure settings =>
    have same : ((host me).perform counts height (.configure settings) state).2.2.machine.settings =
        (state.machine.settings.configuring settings).2 :=
      (settings_done ..).trans (settings_setConfig ..)
    exact same ▸ .one (.configure ..)
  | config =>
    exact read ((settings_done ..).trans
      (settings_tell (state.setMachine state.machine.readSettings.2) me _))
  | start arguments count =>
    refine read ?_
    simp only [host, perform, startProgram_eq]
    exact settings_startUp ..
  | _ =>
    simp only [consultationsOf, Instruction.asks]
    split
    · next thrown =>
      obtain ⟨mode, record, thrown⟩ := Reply.isThrow_iff.mp thrown
      exact read (throw_reads thrown).2
    · next calm =>
      rw [settings_perform me rfl (Bool.eq_false_iff.mpr calm)]
      exact .start _

theorem runs_stepThread (state : State) :
    Runs SettingsCell.Consults state.machine.settings (state.consultations me)
      (state.stepThread me).machine.settings := by
  have heard := (state.strand me).step_hears
    (fun before after : State => after.machine.settings = before.machine.settings)
    (fun _ => rfl) (fun early late => late.trans early) (settings_hear me) state
  rw [machine_stepThread]
  refine heard.symm ▸ ?_
  unfold Strand.performed consultations
  cases (state.strand me).upcoming with
  | none => exact .start _
  | some instruction => exact runs_perform me state _ _ instruction

end

/-- What a run asks of the settings of its process are calls one after the other. -/
theorem runs_settings {first last : State} (run : Runs Consults first history last) :
    Runs SettingsCell.Consults first.machine.settings history last.machine.settings := by
  induction run with
  | start => exact .start _
  | next _ step ih =>
    cases step with
    | turn me => exact ih.append (runs_stepThread me _)
    | elapse | switch | surround =>
      rw [List.append_nil]
      exact ih

/-- The scheduler of a scenario is one way to take turns. -/
theorem run_consults (state : State) (fuel : Nat) :
    ∃ history, Runs Consults state history (state.run fuel) :=
  runs_run (fun _ index _ => ⟨_, .turn _ index⟩) (fun _ clock _ => ⟨_, .elapse _ clock⟩)
    (fun _ running _ => ⟨_, .switch _ running⟩) state fuel

/-- Whatever asks for the settings now is told these, and leaves the process `fixed` before it does
anything with them. -/
structure GoesBy (state : State) (settings : Settings) (fixed : Machine) : Prop where
  reads : state.machine.readSettings = (settings, fixed)
  reading : state.machine.reading =
    .read state.machine.environment.settings settings state.machine.reading.warns
  /-- A reading that warns does so in the log. -/
  warns : fixed =
    let settled := { state.machine with settings := fixed.settings }
    match state.machine.environment.settings with
    | .ok _ => settled
    | .error fault =>
      if state.machine.reading.warns then
        settled.logText .warn .config ("ignoring runtime configuration: " ++ fault.message)
      else settled
  monitors : state.machine.GoesBy settings fixed
  tells : ∀ me, state.tellConfig me = (state.setMachine fixed).tell me (.settings settings)
  throws : ∀ me counts height instruction mode record,
    ((host me).perform counts height instruction state).1 = .throw mode record →
      ThrownBy settings height mode record ∧
        state.consultationsOf me counts height instruction = [state.machine.reading]

theorem consultationsOf_of_thrown {state : State} {me : Nat} {counts : Counts} {height : Nat}
    {instruction : Instruction} {mode : UnwindMode} {record : ExceptionRecord}
    (thrown : ((host me).perform counts height instruction state).1 = .throw mode record) :
    state.consultationsOf me counts height instruction = [state.machine.reading] := by
  have throws : ((host me).perform counts height instruction state).1.isThrow = true :=
    Reply.isThrow_iff.mpr ⟨mode, record, thrown⟩
  have busy (idle : ((host me).perform counts height instruction state).1.isIdle = true) :
      False := by
    rw [thrown] at idle
    cases idle
  cases instruction with
  | lock | unlock | monitor | configure | config =>
    exact (busy (idle_perform state me counts height rfl)).elim
  | start =>
    simp only [host, perform, startProgram_eq] at thrown
    split at thrown <;> cases thrown
  | _ => simp only [consultationsOf, Instruction.asks, throws, if_true]

theorem goesBy_readSettings (state : State) :
    state.GoesBy state.machine.readSettings.1 state.machine.readSettings.2 where
  reads := rfl
  reading := state.machine.reading_eq
  warns := state.machine.readSettings_warns
  monitors := state.machine.goesBy_readSettings
  tells _ := rfl
  throws _ _ _ _ _ _ thrown := ⟨(throw_reads thrown).1, consultationsOf_of_thrown thrown⟩

/-- A process has one configuration, whoever asks for it, in passing or not. The first call decides:
settings that are installed before anybody reads any are those that everybody reads, and otherwise
the first reading takes them from the variables that it finds. Whatever the scheduler of the
scenario does is among what is said here. -/
theorem one_configuration (first : State) (blank : first.machine.settings.installed = none) :
    (∀ calls after, Runs SettingsCell.Consults first.machine.settings calls after →
      OneConfiguration calls) ∧
    (∀ environment : Environment, (∃ fault, environment.settings = .error fault) ↔
      Settings.Rejects environment.lookup Settings.unwindKey Settings.unwindMode? ∨
      Settings.Rejects environment.lookup Settings.strictMonitorsKey Settings.flag? ∨
      Settings.Rejects environment.lookup Settings.backtraceDepthKey Settings.depth?) ∧
    (∀ history last, Runs Consults first history last →
      OneConfiguration history ∧
      ∃ settings fixed, last.GoesBy settings fixed ∧
        (history = [] → ∀ other, last.machine.configure other =
          .ok { last.machine with settings := ⟨some other⟩ }) ∧
        (history ≠ [] → fixed = last.machine ∧
          (∀ told ∈ history.filterMap Consultation.read?, told = settings) ∧
          (∀ accepted, .configured accepted true ∈ history → accepted = settings) ∧
          (∀ other, last.machine.configure other = .error .alreadyInstalled) ∧
          ∀ me other,
            last.setConfig me other = last.tell me (.refusedSettings .alreadyInstalled))) ∧
    ∀ fuel, ∃ history, Runs Consults first history (first.run fuel) := by
  refine ⟨fun calls after => oneConfiguration_of_runs blank,
    fun environment => Settings.ofLookup_error_iff, fun history last run => ?_, run_consults first⟩
  have calls := runs_settings run
  refine ⟨oneConfiguration_of_runs blank calls, _, _, last.goesBy_readSettings, ?_⟩
  obtain ⟨rfl, still⟩ | ⟨settings, decider, rest, rfl, decides, finds, installed⟩ :=
    SettingsCell.history_cases blank calls
  · exact ⟨fun _ => Machine.configure_of_blank (still ▸ blank), fun none => absurd rfl none⟩
  · have refuses := Machine.configure_of_installed installed
    rw [Machine.readSettings_of_installed installed]
    refine ⟨nofun, fun _ => ⟨rfl, read_of_decides finds decides,
      fun accepted => accepted_of_decides finds decides, refuses, fun me other => ?_⟩⟩
    simp only [setConfig, refuses]

/-- One thread throws inside of a region, the other one installs settings and reads them. One of the
variables asks for throws that end the process, another one cannot be read. -/
def unsettled : State where
  machine :=
    { environment := ⟨[(Settings.unwindKey, utf8 "terminate"),
        (Settings.strictMonitorsKey, utf8 "maybe")]⟩ }
  threads :=
    #[{ strand := { control := .run [.protect (.attempt .direct none false)
        [.act (.throw "$null" .direct)] []] } },
      { strand := { control := .run [.act (.configure { strictMonitors := true }),
        .act .config] } }]

/-- The throw comes first: it warns, and everybody is left with the defaults. -/
theorem one_configuration_unsettled :
    let unreadable := .error (.invalidFlag Settings.strictMonitorsKey "maybe")
    let history := [.read unreadable {} true, .configured { strictMonitors := true } false,
      .read unreadable {} false]
    let last := (((unsettled.stepThread 0).stepThread 0).stepThread 1).stepThread 1
    Runs Consults unsettled history last ∧ OneConfiguration history ∧
      last.GoesBy {} last.machine := by
  intro unreadable history last
  have early : Runs Consults unsettled [.read unreadable {} true]
      ((unsettled.stepThread 0).stepThread 0) :=
    (Runs.one (Consults.turn unsettled 0)).next (.turn _ 0)
  have run : Runs Consults unsettled history last :=
    (early.next (Consults.turn _ 1)).next (.turn _ 1)
  obtain ⟨one, settings, fixed, goesBy, -, decided⟩ :=
    (one_configuration unsettled rfl).2.2.1 history last run
  obtain ⟨rfl, told, -⟩ := decided nofun
  obtain rfl : ({} : Settings) = settings := told {} List.mem_cons_self
  exact ⟨run, one, goesBy⟩

end State
end Scenario
end ManagedRuntime
