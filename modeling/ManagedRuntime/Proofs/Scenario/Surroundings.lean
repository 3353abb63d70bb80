import ManagedRuntime.Proofs.Exception.Counters
import ManagedRuntime.Proofs.Machine.EntryPoints
import ManagedRuntime.Scenario.Host

/-! What a scenario, as the surroundings of its threads, does with the counters of exceptions:
instructions capture and release records, and never enter or leave a region. -/
namespace ManagedRuntime.Scenario
open Exception

/-- Names under which an instruction keeps a record or takes one. -/
def Instruction.touches : Instruction → List String
  | .capture name _ _ | .release name | .raiseCaptured name => [name]
  | _ => []

namespace State

theorem machine_flushJournal (state : State) (me : Nat) :
    (state.flushJournal me).machine = { state.machine with journal := [] } := by
  have kept (records : List LogRecord) (told : State) : (records.foldl
      (fun told record => told.tellEntry me (state.logEntry me record)) told).machine =
        told.machine := by
    induction records generalizing told with
    | nil => rfl
    | cons record rest ih => rw [List.foldl_cons, ih]; rfl
  exact kept _ _

/-! The start of a program. -/

/-- First the log is started, the settings are read and the thread is named. -/
def namedMain (state : State) (me : Nat) (count : Nat) : State :=
  ((state.setMachine (state.machine.beginStart count)).setOwnName me "main").2

/-- Then the thread is handed the arguments of the program. -/
def takeArguments (state : State) (me : Nat) (arguments : List (List UInt8)) (count : Nat) :
    State :=
  match state.marshalled arguments count with
  | (.error _, machine) => (state.setMachine machine).flushJournal me
  | (.ok r, machine) =>
    ((state.setMachine machine).updateThread me fun thread =>
      { thread with arguments := r }).flushJournal me

/-- They always fit in an array. -/
theorem takeArguments_eq (state : State) (me : Nat) (arguments : List (List UInt8)) (count : Nat) :
    ∃ r, (state.marshalled arguments count).1 = .ok r ∧
      state.takeArguments me arguments count =
        ((state.setMachine (state.marshalled arguments count).2).updateThread me fun thread =>
          { thread with arguments := r }).flushJournal me := by
  unfold takeArguments
  split
  · next refused =>
    exact (Machine.marshalArguments_ne_error _ _ _ (congrArg Prod.fst refused)).elim
  · next r machine made =>
    rw [made]
    exact ⟨r, rfl, rfl⟩

theorem startUp_snd (state : State) (me : Nat) (arguments : List (List UInt8)) (count : Nat) :
    (state.startUp me arguments count).2 =
      (state.namedMain me count).takeArguments me arguments count := by
  unfold startUp takeArguments namedMain
  dsimp only
  generalize ((state.setMachine (state.machine.beginStart count)).setOwnName me "main").2 = named
  rcases named.marshalled arguments count with ⟨made, machine⟩
  cases made <;> rfl

/-- A program always gets its argument array. -/
theorem startUp_fst (state : State) (me : Nat) (arguments : List (List UInt8)) (count : Nat) :
    (state.startUp me arguments count).1 = .ok () := by
  obtain ⟨r, made, -⟩ := (state.namedMain me count).takeArguments_eq me arguments count
  unfold startUp
  dsimp only
  split
  · next refused =>
    rw [namedMain, refused] at made
    cases made
  · rfl

/-- So a start that is begun goes on with the entry, if the process does. -/
theorem startProgram_eq (state : State) (me : Nat) (arguments : List (List UInt8)) (count : Nat)
    (name : Option String) (route : Route) (body : List Step) (counts : Counts) :
    let prepared := (state.startUp me arguments count).2
    state.startProgram me arguments count name route body counts =
      (if prepared.machine.ended.isSome then .halted else .run (entrySteps name route body), counts,
        prepared) := by
  intro prepared
  have answer : state.startUp me arguments count = (.ok (), prepared) :=
    Prod.ext (startUp_fst state me arguments count) rfl
  simp only [startProgram, answer]

/-- A start that returns says so; compiled code gets the status 0. -/
theorem started_eq (state : State) (me : Nat) (route : Route) :
    state.started me route = (state.setMachine state.machine.endStart.2).tell me
      (.started (if route = .entryPoint then some 0 else none)) := by
  cases route <;> rfl

/-- A throw by whatever route goes by the settings in force. -/
theorem throwReply_eq (state : State) (me : Nat) (r : Ref) (route : Route) (height : Nat)
    (counts : Counts) :
    let settings := state.machine.readSettings.1
    state.throwReply me r route height counts =
      (.throw settings.unwind (.capture r settings.backtraceDepth (stackOf height)), counts,
        (state.setMachine state.machine.readSettings.2).flushJournal me) := by
  cases route <;> rfl

/-- The answer comes with the counters that were given, and with no record. -/
def Spares (counts : Counts) (answer : Reply Instruction Site × Counts × State) : Prop :=
  answer.2.1 = counts ∧ answer.1.handedOver = 0

section
variable (state : State) (me : Nat) (counts : Counts)

theorem spares_settleMonitor (object : UInt64) (token : Token) (deadline : Option Nat)
    (finish : State → State) :
    Spares counts (state.settleMonitor me object token deadline counts finish) := by
  unfold settleMonitor
  split
  · exact ⟨rfl, rfl⟩
  · split <;> exact ⟨rfl, rfl⟩

theorem spares_useMonitor (r : Ref) (verb : MonitorVerb) (route : Route)
    (finish : Token → State → State) :
    Spares counts (state.useMonitor me r verb route counts finish) := by
  unfold useMonitor useMonitorAs resumeMonitor
  dsimp only
  split <;> exact spares_settleMonitor ..

theorem spares_invoke (r : Ref) (interface : Option UInt64) (index : Nat) (announced : Bool)
    (height : Nat) :
    Spares counts (state.invoke me r interface index announced height counts) := by
  unfold invoke
  dsimp only
  split
  · exact ⟨rfl, rfl⟩
  · exact ⟨rfl, rfl⟩
  · exact ⟨rfl, rfl⟩
  · exact ⟨rfl, rfl⟩
  · split <;> exact ⟨rfl, rfl⟩
  · exact ⟨rfl, rfl⟩

theorem spares_stress (r : Ref) (index threads times : Nat) :
    Spares counts (state.stress me r index threads times counts) := by
  unfold stress
  split <;> exact ⟨rfl, rfl⟩

theorem spares_continueJoin (index : Nat) (deadline : Option Nat) (finish : Bool → State → State) :
    Spares counts (state.continueJoin me index deadline counts finish) := by
  unfold continueJoin
  split <;> exact ⟨rfl, rfl⟩

theorem spares_joinThread (label : String) (limit : Option Nat) (finish : Bool → State → State) :
    Spares counts (state.joinThread me label limit counts finish) := by
  unfold joinThread
  split
  · exact ⟨rfl, rfl⟩
  · split <;> exact spares_continueJoin ..

theorem spares_joinMany (label : String) (threads : Nat) (limit : Option Nat) :
    Spares counts (state.joinMany me label threads limit counts) := by
  unfold joinMany
  split
  · exact ⟨rfl, rfl⟩
  · split <;> exact ⟨rfl, rfl⟩

theorem spares_settle (milliseconds : Nat) :
    Spares counts (state.settle me milliseconds counts) := by
  unfold settle
  split <;> exact ⟨rfl, rfl⟩

theorem spares_assign (label verb : String) (patience : Nat) (steps : List Step) :
    Spares counts (state.assign me label verb patience steps counts) := by
  unfold assign
  split
  · exact ⟨rfl, rfl⟩
  · split <;> exact ⟨rfl, rfl⟩

theorem spares_await (label : String) : Spares counts (state.await me label counts) := by
  unfold await
  split
  · exact ⟨rfl, rfl⟩
  · split <;> exact ⟨rfl, rfl⟩

theorem spares_awaitFinished (count : Nat) :
    Spares counts (state.awaitFinished me count counts) := by
  unfold awaitFinished
  split <;> exact ⟨rfl, rfl⟩

theorem spares_nextJob : Spares counts (state.nextJob me counts) := by
  unfold nextJob
  dsimp only
  split
  · exact ⟨rfl, rfl⟩
  · split <;> exact ⟨rfl, rfl⟩

theorem spares_done : Spares counts (done me counts state) := by
  unfold done
  dsimp only
  split <;> exact ⟨rfl, rfl⟩

theorem spares_startProgram (arguments : List (List UInt8)) (count : Nat) (name : Option String)
    (route : Route) (body : List Step) :
    Spares counts (state.startProgram me arguments count name route body counts) := by
  rw [startProgram_eq]
  refine ⟨rfl, ?_⟩
  dsimp only
  split <;> rfl

/-- Instructions that deal with no record under a name leave the counters to the thread. -/
theorem spares_perform (height : Nat) {instruction : Instruction}
    (untouched : instruction.touches = []) :
    Spares counts ((host me).perform counts height instruction state) := by
  cases instruction with
  | capture | release | raiseCaptured => contradiction
  | call | invoke => exact spares_invoke ..
  | stress => exact spares_stress ..
  | monitor | lock | unlock =>
    simp only [host, perform, monitorStep]
    exact spares_useMonitor ..
  | join | joinTimeout =>
    simp only [host, perform, join, joinTimeout]
    exact spares_joinThread ..
  | joinMany => exact spares_joinMany ..
  | settle => exact spares_settle ..
  | assign => exact spares_assign ..
  | await => exact spares_await ..
  | awaitFinished => exact spares_awaitFinished ..
  | nextJob => exact spares_nextJob ..
  | start => exact spares_startProgram ..
  | throw | rethrowLevel | foreign | raise => exact ⟨rfl, rfl⟩
  | _ => exact spares_done ..

/-! Records with a name. -/

theorem capture_counts (name : String) (r : Ref) (depth : UInt64) (height : Nat) :
    (state.capture me name r depth height counts).1 =
      if (state.records.lookup name).isSome then counts.capture.release else counts.capture := by
  unfold capture
  dsimp only
  cases state.records.lookup name <;> rfl

theorem releaseRecord_counts (name : String) :
    (state.releaseRecord me name counts).1 =
      if (state.records.lookup name).isSome then counts.release else counts := by
  unfold releaseRecord takeRecord
  cases state.records.lookup name <;> rfl

end

theorem steady_host (me : Nat) : (host me).Steady := by
  intro counts height instruction state
  cases instruction with
  | capture name reference depth =>
    have told := capture_counts state me counts name (state.reference reference) depth height
    refine (congrArg Counts.handlers told).trans ?_
    split <;> rfl
  | release name =>
    refine (congrArg Counts.handlers (releaseRecord_counts state me counts name)).trans ?_
    split <;> rfl
  | raiseCaptured name =>
    simp only [host, perform]
    split <;> rfl
  | _ => exact congrArg Counts.handlers (spares_perform state me counts height rfl).1

end State
end ManagedRuntime.Scenario
