import Mathlib.Logic.Function.Basic
import ManagedRuntime.Proofs.Machine.Requests
import ManagedRuntime.Proofs.Scenario.Turns

/-! What threads that share an object see of a scenario: the memory and where each of them stands.
What a thread tells and what goes to the log is left out. -/
namespace ManagedRuntime.Scenario
open Exception

/-- What a thread has at hand when its turn comes. -/
structure Stance where
  token : Token
  strand : Strand Instruction Site
  waiting : Waiting
  scratch : UInt32

/-- The object whose monitor the thread has made a request to. -/
def Stance.awaits (stance : Stance) : Option UInt64 :=
  match stance.waiting with
  | .inMonitor object _ => some object
  | _ => none

structure Outlook where
  heap : Heap
  ended : Option Ending
  tokens : TokenCounter
  codeBase : Nat
  references : List (String × Ref)
  /-- Number of threads; a number beyond stands for one that has returned. -/
  size : Nat
  stance : Nat → Stance

def Outlook.setStance (outlook : Outlook) (me : Nat) (stance : Stance) : Outlook :=
  { outlook with stance := Function.update outlook.stance me stance }

def Thread.stance (thread : Thread) : Stance :=
  ⟨thread.token, thread.strand, thread.waiting, thread.scratch⟩

namespace Outlook
variable (outlook : Outlook) (me : Nat) (stance : Stance)

@[simp] theorem stance_setStance_self : (outlook.setStance me stance).stance me = stance :=
  Function.update_self ..

theorem stance_setStance_of_ne {other : Nat} (different : other ≠ me) :
    (outlook.setStance me stance).stance other = outlook.stance other :=
  Function.update_of_ne different ..

@[simp] theorem setStance_setStance (before : Stance) :
    (outlook.setStance me before).setStance me stance = outlook.setStance me stance := by
  simp [setStance]

theorem setStance_self : outlook.setStance me (outlook.stance me) = outlook := by
  simp [setStance]

end Outlook

namespace State

def outlook (state : State) : Outlook where
  heap := state.machine.heap
  ended := state.machine.ended
  tokens := state.machine.tokens
  codeBase := state.codeBase
  references := state.references
  size := state.threads.size
  stance index := (state.thread index).stance

section
variable (state : State) (me : Nat)

theorem outlook_updateThread {change : Thread → Thread} (alter : Stance → Stance)
    (changes : ∀ thread, (change thread).stance = alter thread.stance)
    (known : me < state.threads.size) :
    (state.updateThread me change).outlook =
      state.outlook.setStance me (alter (state.outlook.stance me)) := by
  have stances : (state.updateThread me change).outlook.stance =
      Function.update state.outlook.stance me (alter (state.outlook.stance me)) := by
    funext index
    simp only [outlook, thread_updateThread state change known, Function.update_apply]
    split
    · exact changes _
    · rfl
  have size : (state.updateThread me change).outlook.size = state.outlook.size :=
    Array.size_modify
  simp only [Outlook.setStance, ← stances, ← size]
  rfl

theorem outlook_updateThread_of_same {change : Thread → Thread}
    (same : ∀ thread, (change thread).stance = thread.stance) :
    (state.updateThread me change).outlook = state.outlook := by
  by_cases known : me < state.threads.size
  · rw [outlook_updateThread state me id same known]
    exact Outlook.setStance_self ..
  · rw [updateThread_of_unknown state change known]

@[simp] theorem outlook_tellEntry (entry : Entry) :
    (state.tellEntry me entry).outlook = state.outlook :=
  outlook_updateThread_of_same state me fun _ => rfl

@[simp] theorem outlook_flushJournal : (state.flushJournal me).outlook = state.outlook := by
  have told (records : List LogRecord) (early : State) :
      (records.foldl (fun told record => told.tellEntry me (state.logEntry me record))
        early).outlook = early.outlook := by
    induction records generalizing early with
    | nil => rfl
    | cons record rest ih => exact (ih _).trans (outlook_tellEntry ..)
  exact told state.machine.journal _

@[simp] theorem outlook_tell (event : Event) : (state.tell me event).outlook = state.outlook := by
  rw [tell, outlook_tellEntry, outlook_flushJournal]

@[simp] theorem outlook_leaveThread : (state.leaveThread me).outlook = state.outlook :=
  outlook_updateThread_of_same state me fun _ => rfl

@[simp] theorem outlook_buryThread : (state.buryThread me).outlook = state.outlook := by
  unfold buryThread
  split
  · exact outlook_leaveThread ..
  · rfl

theorem outlook_setMachine (machine : Machine) :
    (state.setMachine machine).outlook =
      { state.outlook with
        heap := machine.heap, ended := machine.ended, tokens := machine.tokens } := rfl

theorem outlook_setWaiting (known : me < state.threads.size) (waiting : Waiting) :
    (state.setWaiting me waiting).outlook =
      state.outlook.setStance me { state.outlook.stance me with waiting } :=
  outlook_updateThread state me (fun stance => { stance with waiting }) (fun _ => rfl) known

theorem currentToken_fst :
    (state.currentToken me).1 =
      (state.outlook.tokens.current (state.outlook.stance me).token).1 := rfl

/-- A thread without a token draws one. -/
theorem outlook_currentToken (known : me < state.threads.size) :
    (state.currentToken me).2.outlook =
      { state.outlook with
        tokens := (state.outlook.tokens.current (state.outlook.stance me).token).2 }.setStance me
          { state.outlook.stance me with token := (state.currentToken me).1 } :=
  outlook_updateThread
    { state with machine := (state.machine.currentToken (state.thread me).token).2 } me
    (fun stance => { stance with token := _ }) (fun _ => rfl) known

/-- A turn is the step of the thread in its surroundings. -/
theorem outlook_stepThread {moved : Strand Instruction Site} {later : State}
    (stepped : (state.strand me).step (host me) state = (moved, later))
    (known : me < later.threads.size) :
    (state.stepThread me).outlook =
      later.outlook.setStance me { later.outlook.stance me with strand := moved } := by
  have turn : state.stepThread me =
      (later.updateThread me fun thread => { thread with strand := moved }).buryThread me := by
    simp only [strand] at stepped
    simp only [stepThread, stepped]
  rw [turn, outlook_buryThread]
  exact outlook_updateThread later me (fun stance => { stance with strand := moved })
    (fun _ => rfl) known

end

/-- How a request to a monitor leaves its thread: it died with the process, it is through, or it
sleeps. -/
inductive Settles (state : State) (me : Nat) (object : UInt64) (token : Token) :
    Reply Instruction Site → State → Prop
  | halted (stopped : state.machine.ended ≠ none) (same : later.outlook = state.outlook) :
      Settles state me object token .halted later
  | done (alive : state.machine.ended = none)
      (idle : state.machine.monitorPhase token object = .idle)
      (settled : later.outlook =
        state.outlook.setStance me { state.outlook.stance me with waiting := .ready }) :
      Settles state me object token .done later
  | pending (alive : state.machine.ended = none)
      (busy : state.machine.monitorPhase token object ≠ .idle) (deadline : Option Nat)
      (settled : later.outlook = state.outlook.setStance me
        { state.outlook.stance me with waiting := .inMonitor object deadline }) :
      Settles state me object token .pending later

theorem settleMonitor_settles (state : State) {me : Nat} (known : me < state.threads.size)
    (object : UInt64) (token : Token) (deadline : Option Nat) (counts : Counts)
    {finish : State → State} (keeps : ∀ state, (finish state).outlook = state.outlook) :
    ∃ reply later, state.settleMonitor me object token deadline counts finish =
      (reply, counts, later) ∧ Settles state me object token reply later := by
  unfold settleMonitor
  split
  · next stopped =>
    refine ⟨_, _, rfl, .halted ?_ (outlook_flushJournal ..)⟩
    exact Option.isSome_iff_ne_none.mp stopped
  · next running =>
    have alive : state.machine.ended = none := by simpa using running
    have waits := outlook_setWaiting state me known
    split
    · next idle =>
      refine ⟨_, _, rfl, .done alive idle ?_⟩
      rw [outlook_flushJournal, keeps, waits]
    · next parked =>
      refine ⟨_, _, rfl, .pending alive (by simp [parked]) deadline ?_⟩
      rw [outlook_flushJournal, waits]
    · next busy _ =>
      refine ⟨_, _, rfl, .pending alive busy none ?_⟩
      rw [outlook_flushJournal, waits]

end State

/-- What a verb asks of a monitor, strictly or not; a look asks nothing. -/
def MonitorVerb.request? (strict : Bool) : MonitorVerb → Option MonitorRequest
  | .enter => some .enter
  | .exit => some .exit
  | .wait _ => some .wait
  | .notify => some (.notify false strict)
  | .notifyAll => some (.notify true strict)
  | .look => none

/-- What an instruction asks of which object's monitor. -/
def Instruction.asks (state : State) : Instruction → Option (Ref × MonitorVerb)
  | .lock r => some (r, .enter)
  | .unlock r => some (r, .exit)
  | .monitor verb name _ _ => some (state.reference name, verb)
  | _ => none

namespace State

/-- What happens when a thread makes a request. -/
def verbLog (machine : Machine) (token : Token) (r : Ref) : MonitorVerb → Machine.Log
  | .enter => machine.requestLog token r.object .enter
  | .exit => machine.requestLog token r.object .exit
  | .wait _ => machine.requestLog token r.object .wait
  | .notify =>
    let (settings, machine) := machine.readSettings
    machine.requestLog token r.object (.notify false settings.strictMonitors)
  | .notifyAll =>
    let (settings, machine) := machine.readSettings
    machine.requestLog token r.object (.notify true settings.strictMonitors)
  | .look => []

/-- What happens when a thread makes a request or goes on with one. -/
def useLog (state : State) (me : Nat) (r : Ref) (verb : MonitorVerb) : Machine.Log :=
  let (token, drawn) := state.currentToken me
  match (state.thread me).waiting with
  | .inMonitor object deadline =>
    if state.isPast deadline then drawn.machine.timeOutLog token object
    else drawn.machine.monitorLog token object 8
  | _ => verbLog drawn.machine token r verb

/-- What happens at monitors in a turn of a thread. -/
def happened (state : State) (me : Nat) : Machine.Log :=
  match (state.strand me).upcoming.bind (Instruction.asks state) with
  | some (r, verb) => state.useLog me r verb
  | none => []

/-- What the process does for a thread that makes a request, or goes on with one that it waits
for. -/
inductive Serves (machine : Machine) (token : Token) (r : Ref) :
    MonitorVerb → Option UInt64 → UInt64 → Machine.Log → Machine → Prop
  | resume (object : UInt64) :
      Serves machine token r verb (some object) object (machine.monitorLog token object 8)
        (machine.advance token object)
  | timeOut (object : UInt64) :
      Serves machine token r verb (some object) object (machine.timeOutLog token object)
        ((machine.timeOut token object).advance token object)
  | request (strict : Bool) (asked : verb.request? strict = some request)
      (alike : Machine.Alike machine prepared) :
      Serves machine token r verb none r.object (prepared.requestLog token r.object request)
        (prepared.request token r.object request)
  | look : Serves machine token r .look none r.object [] machine

theorem beginMonitor_serves (machine : Machine) (token : Token) (r : Ref) (verb : MonitorVerb)
    (route : Route) :
    Serves machine token r verb none r.object (verbLog machine token r verb)
      (beginMonitor machine token r verb route).2 := by
  have same : Machine.Alike machine machine := ⟨rfl, rfl, rfl⟩
  have read := Machine.alike_readSettings machine
  cases verb with
  | enter => cases route <;> exact .request true rfl same
  | exit => cases route <;> exact .request true rfl same
  | wait milliseconds => cases route <;> exact .request true rfl same
  | notify => cases route <;> exact .request machine.readSettings.1.strictMonitors rfl read
  | notifyAll => cases route <;> exact .request machine.readSettings.1.strictMonitors rfl read
  | look => cases route <;> exact .look

theorem useMonitor_settles (state : State) {me : Nat} (known : me < state.threads.size) (r : Ref)
    (verb : MonitorVerb) (route : Route) (counts : Counts) {finish : Token → State → State}
    (keeps : ∀ token state, (finish token state).outlook = state.outlook) :
    ∃ object machine reply later,
      Serves (state.currentToken me).2.machine (state.currentToken me).1 r verb
        (state.outlook.stance me).awaits object (state.useLog me r verb) machine ∧
      state.useMonitor me r verb route counts finish = (reply, counts, later) ∧
      Settles ((state.currentToken me).2.setMachine machine) me object (state.currentToken me).1
        reply later := by
  have size : (state.currentToken me).2.threads.size = state.threads.size := Array.size_modify
  have settles (object : UInt64) (machine : Machine) (deadline : Option Nat) :=
    settleMonitor_settles ((state.currentToken me).2.setMachine machine) (size.symm ▸ known) object
      (state.currentToken me).1 deadline counts (keeps (state.currentToken me).1)
  have awaits : (state.outlook.stance me).awaits = match (state.thread me).waiting with
      | .inMonitor object _ => some object
      | _ => none := rfl
  have kept := waiting_currentToken state me me
  cases waits : (state.thread me).waiting with
  | inMonitor object deadline =>
    rw [waits] at awaits kept
    simp only [awaits, useMonitor, useMonitorAs, useLog, waits, kept]
    have resumed (machine : Machine) := settles object
      (machine.advance (state.currentToken me).1 object)
      deadline
    unfold resumeMonitor
    cases deadline with
    | none => exact ⟨object, _, _, _, .resume object, (resumed _).choose_spec.choose_spec⟩
    | some time =>
      have clock : (state.currentToken me).2.clock = state.clock := rfl
      by_cases past : time ≤ state.clock
      · simp only [isPast, Option.any_some, past, decide_true, if_true, clock]
        exact ⟨object, _, _, _, .timeOut object, (resumed _).choose_spec.choose_spec⟩
      · simp only [isPast, Option.any_some, past, decide_false, if_false, clock]
        exact ⟨object, _, _, _, .resume object, (resumed _).choose_spec.choose_spec⟩
  | _ =>
    rw [waits] at awaits kept
    simp only [awaits, useMonitor, useMonitorAs, useLog, waits, kept]
    exact ⟨r.object, _, _, _, beginMonitor_serves .., (settles ..).choose_spec.choose_spec⟩

theorem perform_asks {state : State} {me : Nat} (known : me < state.threads.size)
    {instruction : Instruction} (asks : instruction.asks state = some (r, verb)) (counts : Counts)
    (height : Nat) :
    ∃ object machine reply later,
      Serves (state.currentToken me).2.machine (state.currentToken me).1 r verb
        (state.outlook.stance me).awaits object (state.useLog me r verb) machine ∧
      perform me counts height instruction state = (reply, counts, later) ∧
      Settles ((state.currentToken me).2.setMachine machine) me object (state.currentToken me).1
        reply later := by
  cases instruction with
  | lock receiver =>
    cases asks
    simp only [perform]
    exact useMonitor_settles state known _ .enter .entryPoint counts fun _ _ => rfl
  | unlock receiver =>
    cases asks
    simp only [perform]
    exact useMonitor_settles state known _ .exit .entryPoint counts fun _ _ => rfl
  | monitor verb name route quiet =>
    cases asks
    simp only [perform, monitorStep]
    exact useMonitor_settles state known _ verb route counts fun _ _ => outlook_tell ..
  | _ => cases asks

end State
end ManagedRuntime.Scenario
