import ManagedRuntime.Proofs.Machine.Changes
import ManagedRuntime.Proofs.Scenario.Commuting
import ManagedRuntime.Proofs.Scenario.Copies
import ManagedRuntime.Proofs.Scenario.EndOfStack

/-! What the turns of threads do to the memory of their process. Whichever thread has its turn, it
is one change after the other, and of the table for new arrays there is only what the scenario
sets. -/
namespace ManagedRuntime.Scenario
open Exception Memory

/-- The table for new arrays that an instruction sets. -/
def Instruction.arrayTables (state : State) : Instruction → List UInt64
  | .setArrayTable name _ => [state.tableAddress name]
  | _ => []

namespace State

section
variable (state : State) (me : Nat)

/-- Tables for new arrays that the next turn of a thread sets. -/
def arrayTables : List UInt64 :=
  (state.strand me).upcoming.elim [] (Instruction.arrayTables state)

/-! Steps that leave the memory alone. -/

@[simp] theorem heap_setMachine (machine : Machine) :
    (state.setMachine machine).machine.heap = machine.heap := rfl

@[simp] theorem heap_updateThread (change : Thread → Thread) :
    (state.updateThread me change).machine.heap = state.machine.heap := rfl

@[simp] theorem heap_setWaiting (waiting : Waiting) :
    (state.setWaiting me waiting).machine.heap = state.machine.heap := rfl

@[simp] theorem heap_bind (name : String) (r : Ref) :
    (state.bind name r).machine.heap = state.machine.heap := rfl

@[simp] theorem heap_tellEntry (entry : Entry) :
    (state.tellEntry me entry).machine.heap = state.machine.heap := rfl

@[simp] theorem heap_flushJournal : (state.flushJournal me).machine.heap = state.machine.heap := by
  rw [machine_flushJournal]

theorem heap_currentToken : (state.currentToken me).2.machine.heap = state.machine.heap := rfl

theorem heap_askToken (label : String) :
    (state.askToken me label).machine.heap = state.machine.heap := rfl

theorem heap_tellUnlessEnded (event : Event) :
    (state.tellUnlessEnded me event).machine.heap = state.machine.heap := by
  unfold tellUnlessEnded
  split
  · exact heap_flushJournal ..
  · exact heap_tell ..

theorem heap_setOwnName (name : String) :
    (state.setOwnName me name).2.machine.heap = state.machine.heap := by
  unfold setOwnName
  split
  · rfl
  · exact Machine.heap_log ..

theorem heap_foldl {ε : Type} (operation : State → ε → State)
    (keeps : ∀ state item, (operation state item).machine.heap = state.machine.heap)
    (items : List ε) : (items.foldl operation state).machine.heap = state.machine.heap := by
  induction items generalizing state with
  | nil => rfl
  | cons item rest ih => exact (ih _).trans (keeps state item)

theorem heap_done (counts : Counts) :
    (done me counts state).2.2.machine.heap = state.machine.heap :=
  heap_flushJournal ..

/-! Steps on memory. -/

theorem changes_makeTable (name : String) (methods : List MethodName)
    (interfaces : List Dispatch.InterfaceEntry) :
    Runs Heap.Change state.machine.heap []
      (state.makeTable me name methods interfaces).machine.heap := by
  unfold makeTable
  dsimp only
  split
  · rw [heap_tell]
    exact .start _
  · next built =>
    rw [heap_flushJournal]
    exact Machine.changes_buildTable built
  · next built =>
    rw [heap_tell]
    exact Machine.changes_buildTable built

theorem heap_allocated (verb name : String) (event : Ref → State → Event)
    (outcome : Except Trap Ref × Machine) :
    (state.allocated me verb name event outcome).machine.heap = outcome.2.heap := by
  obtain ⟨answer, machine⟩ := outcome
  cases answer with
  | error reason => exact heap_tell ..
  | ok r => exact heap_tellUnlessEnded ..

theorem heap_allocatedOrTrapped (name : String) (event : Ref → State → Event)
    (outcome : Except Trap Ref × Machine) :
    (state.allocatedOrTrapped me name event (EntryPoint.orTrap outcome)).machine.heap =
      outcome.2.heap := by
  obtain ⟨answer, machine⟩ := outcome
  cases answer with
  | error reason => exact (heap_flushJournal ..).trans (Machine.heap_trap ..)
  | ok r => exact heap_tellUnlessEnded ..

theorem changes_makeObject (name : String) (size : UInt64) (table : Option String) (route : Route) :
    Runs Heap.Change state.machine.heap []
      (state.makeObject me name size table route).machine.heap := by
  have made := (state.currentToken me).2.machine.changes_newObject size (state.tableAddress table)
  cases route with
  | direct | stub => exact (heap_allocated ..).symm ▸ made
  | entryPoint => exact (heap_allocatedOrTrapped ..).symm ▸ made

theorem changes_makeArray (name : String) (length : UInt32) (width : UInt64) (route : Route) :
    Runs Heap.Change state.machine.heap []
      (state.makeArray me name length width route).machine.heap := by
  have made := state.machine.changes_newArray length width
  cases route with
  | direct | stub => exact (heap_allocated ..).symm ▸ made
  | entryPoint => exact (heap_allocatedOrTrapped ..).symm ▸ made

theorem heap_tellArrayTable :
    (state.tellArrayTable me).machine.heap = state.machine.arrayTable.2.heap := by
  unfold tellArrayTable
  split
  · next asked => exact (heap_flushJournal ..).trans (congrArg (·.2.heap) asked).symm
  · next asked => exact (heap_tell ..).trans (congrArg (·.2.heap) asked).symm

theorem changes_setArrayTable (table : Option String) (route : Route) :
    Runs Heap.Change state.machine.heap [state.tableAddress table]
      (state.setArrayTable me table route).machine.heap := by
  have set := (state.machine.changes_setArrayTable (state.tableAddress table)).append
    (state.machine.setArrayTable (state.tableAddress table)).changes_arrayTable
  rw [List.append_nil] at set
  cases route <;> exact (heap_tellArrayTable ..).symm ▸ set

theorem changes_writeBytes (r : Ref) (position : Nat) (bytes : List UInt8) :
    Runs Heap.Change state.machine.heap [] (state.writeBytes me r position bytes).machine.heap :=
  (heap_tell ..).symm ▸ .one (.write r _ (Block.size_write ..))

theorem changes_copyArray (source : Ref) (sourceStart : Int) (destination : Ref)
    (destinationStart count : Int) (route : Route) :
    Runs Heap.Change state.machine.heap []
      (state.copyArray me source sourceStart destination destinationStart count
        route).machine.heap := by
  cases route with
  | direct =>
    unfold copyArray
    dsimp only
    split
    · next copied => exact (heap_tell ..).symm ▸ Machine.changes_copyArray copied
    · exact (heap_tell ..).symm ▸ .start _
  | entryPoint =>
    simp only [copyArray, heap_tellUnlessEnded, heap_setMachine]
    exact Machine.changes_arrayCopy ..
  | stub =>
    simp only [copyArray, heap_tellUnlessEnded, heap_setMachine]
    exact Machine.changes_callArrayCopy ..

theorem changes_makeString (name : String) (bytes : Option (List UInt8)) (copied : Bool) :
    Runs Heap.Change state.machine.heap []
      (state.makeString me name bytes copied).machine.heap := by
  cases bytes with
  | none => exact (heap_tell ..).symm ▸ .start _
  | some bytes =>
    have placed : Runs Heap.Change state.machine.heap [] (state.machine.heap.placeText bytes).2 :=
      .one (.text bytes)
    cases copied with
    | false => exact (heap_tell ..).symm ▸ placed
    | true =>
      simp only [makeString, heap_tell, heap_bind, heap_setMachine]
      exact placed.next (.text _)

theorem heap_itableLookup (r : Ref) (interface : UInt64) (index : Nat) (route : Route) :
    (state.itableLookup me r interface index route).machine.heap = state.machine.heap := by
  cases route with
  | direct | stub => exact heap_tell ..
  | entryPoint =>
    simp only [itableLookup, heap_tell, heap_setMachine]
    exact Machine.heap_itableLookup ..

theorem heap_println (r : Ref) : (state.println me r).machine.heap = state.machine.heap := by
  unfold println
  dsimp only
  split
  · refine (heap_tell ..).trans ?_
    simp only [heap_setMachine, Machine.println]
    split
    · exact Machine.heap_log ..
    · rfl
  · rfl
  · rfl

theorem changes_placeArguments (heap : Heap) (arguments : List (List UInt8)) :
    Runs Heap.Change heap [] (placeArguments heap arguments).2 := by
  induction arguments generalizing heap with
  | nil => exact .start _
  | cons bytes rest ih => exact (Runs.one (Heap.Change.text bytes)).append (ih _)

theorem changes_marshalled (arguments : List (List UInt8)) (count : Nat) :
    Runs Heap.Change state.machine.heap [] (state.marshalled arguments count).2.heap := by
  let placed := placeArguments state.machine.heap (arguments.take count)
  exact (changes_placeArguments ..).append
    (@Machine.changes_marshalArguments { state.machine with heap := placed.2 } placed.1)

theorem changes_marshal (name : String) (arguments : List (List UInt8)) (count : Nat) :
    Runs Heap.Change state.machine.heap []
      (state.marshal me name arguments count).machine.heap := by
  have marshalled := state.changes_marshalled arguments count
  unfold marshal
  split
  · next answer =>
    rw [answer] at marshalled
    exact (heap_tell ..).symm ▸ marshalled
  · next answer =>
    rw [answer] at marshalled
    exact (heap_tellUnlessEnded ..).symm ▸ marshalled

/-! Steps that run compiled methods and use monitors. -/

theorem changes_storeField (r : Ref) :
    Runs Heap.Change state.machine.heap [] (state.storeField me r).machine.heap :=
  .one (.write r _ (Block.size_write ..))

theorem changes_beginMonitor (machine : Machine) (token : Token) (r : Ref) (verb : MonitorVerb)
    (route : Route) :
    Runs Heap.Change machine.heap [] (beginMonitor machine token r verb route).2.heap := by
  cases verb with
  | enter | exit | wait => cases route <;> exact machine.changes_request ..
  | notify | notifyAll => cases route <;> exact machine.changes_notify ..
  | look => cases route <;> exact .start _

theorem heap_settleMonitor (object : UInt64) (token : Token) (deadline : Option Nat)
    (counts : Counts) {finish : State → State}
    (keeps : ∀ state, (finish state).machine.heap = state.machine.heap) :
    (state.settleMonitor me object token deadline counts finish).2.2.machine.heap =
      state.machine.heap := by
  unfold settleMonitor
  split
  · exact heap_flushJournal ..
  · split
    · exact (heap_flushJournal ..).trans (keeps _)
    · exact heap_flushJournal ..
    · exact heap_flushJournal ..

theorem changes_useMonitor (r : Ref) (verb : MonitorVerb) (route : Route) (counts : Counts)
    {finish : Token → State → State}
    (keeps : ∀ token state, (finish token state).machine.heap = state.machine.heap) :
    Runs Heap.Change state.machine.heap []
      (state.useMonitor me r verb route counts finish).2.2.machine.heap := by
  let token := (state.currentToken me).1
  let drawn := (state.currentToken me).2
  have settles (machine : Machine) (object : UInt64) (deadline : Option Nat) :
      ((drawn.setMachine machine).settleMonitor me object token deadline counts
        (finish token)).2.2.machine.heap = machine.heap :=
    heap_settleMonitor (drawn.setMachine machine) me object token deadline counts (keeps token)
  have resumes (machine : Machine) (object : UInt64) := machine.changes_runMonitor token object 8
  unfold useMonitor useMonitorAs resumeMonitor
  dsimp only
  split
  · next object deadline _ =>
    rw [settles]
    split
    · split
      · exact (drawn.machine.changes_timeOut token object).append (resumes _ object)
      · exact resumes drawn.machine object
    · exact resumes drawn.machine object
  · rw [settles]
    exact changes_beginMonitor drawn.machine token r verb route

theorem heap_throwReply (r : Ref) (route : Route) (height : Nat) (counts : Counts) :
    (state.throwReply me r route height counts).2.2.machine.heap = state.machine.heap := by
  rw [throwReply_eq]
  exact (heap_flushJournal ..).trans (Machine.heap_readSettings _)

theorem heap_runMethod (r : Ref) (method : UInt64) (announced : Bool) (height : Nat)
    (counts : Counts) :
    (state.runMethod me r method announced height counts).2.2.machine.heap =
      state.machine.heap := by
  have finished (result : CallResult) :
      (if announced then state.tell me (.called (MethodCode.text state.codeBase method) result)
        else state.flushJournal me).machine.heap = state.machine.heap := by
    split
    · exact heap_tell ..
    · exact heap_flushJournal ..
  unfold runMethod
  dsimp only
  split
  · exact finished _
  · rfl
  · exact heap_throwReply ..
  · exact (heap_flushJournal ..).trans (Machine.heap_trap ..)
  · split <;> exact finished _
  · exact finished _

theorem heap_invoke (r : Ref) (interface : Option UInt64) (index : Nat) (announced : Bool)
    (height : Nat) (counts : Counts) :
    (state.invoke me r interface index announced height counts).2.2.machine.heap =
      state.machine.heap := by
  cases interface with
  | none =>
    rw [invoke_none]
    exact heap_runMethod ..
  | some interface =>
    rw [invoke_some, heap_runMethod, heap_setMachine]
    exact Machine.heap_itableLookup ..

theorem heap_stress (r : Ref) (index threads times : Nat) (counts : Counts) :
    (state.stress me r index threads times counts).2.2.machine.heap = state.machine.heap := by
  unfold stress
  split
  · exact heap_tell ..
  · rfl

/-! Steps that start threads, give them work and wait for them. -/

theorem heap_spawn (label : String) (name : Option String) (managed asked : Bool) :
    (state.spawn me label name managed asked).machine.heap = state.machine.heap := by
  let started : State := (state.withThread me label name managed).nameStarted state.threads.size
    managed name
  have named : started.machine.heap = state.machine.heap := by
    simp only [started, nameStarted]
    split
    · exact (heap_setOwnName ..).trans (heap_flushJournal ..)
    · exact heap_flushJournal ..
  rw [spawn_eq, announce, heap_tell, heap_flushJournal]
  cases asked with
  | false => exact named
  | true => exact (heap_askToken ..).trans named

theorem heap_collectJob (index : Nat) :
    (state.collectJob me index).machine.heap = state.machine.heap :=
  heap_foldl (state.dropJob index) (fun state entry => state.tellEntry me entry) (fun _ _ => rfl) _

theorem heap_jobOutcome (index : Nat) (label verb : String) :
    (state.jobOutcome me index label verb).machine.heap = state.machine.heap := by
  unfold jobOutcome
  split
  · exact heap_collectJob ..
  · split <;> rfl

theorem heap_assign (label verb : String) (patience : Nat) (steps : List Step) (counts : Counts) :
    (state.assign me label verb patience steps counts).2.2.machine.heap = state.machine.heap := by
  unfold assign
  split
  · rfl
  · split
    · exact heap_jobOutcome ..
    · rfl

theorem heap_await (label : String) (counts : Counts) :
    (state.await me label counts).2.2.machine.heap = state.machine.heap := by
  unfold await
  split
  · rfl
  · split
    · exact heap_jobOutcome ..
    · rfl

theorem heap_awaitFinished (count : Nat) (counts : Counts) :
    (state.awaitFinished me count counts).2.2.machine.heap = state.machine.heap := by
  unfold awaitFinished
  split <;> rfl

theorem heap_collectFinished :
    (state.collectFinished me).machine.heap = state.machine.heap :=
  heap_foldl state dropJob (fun _ _ => rfl) state.finishedJobs

theorem heap_settle (milliseconds : Nat) (counts : Counts) :
    (state.settle me milliseconds counts).2.2.machine.heap = state.machine.heap := by
  unfold settle
  split <;> rfl

theorem heap_still (label : String) : (state.still me label).machine.heap = state.machine.heap := by
  unfold still
  split
  · rfl
  · split <;> rfl

theorem heap_continueJoin (index : Nat) (deadline : Option Nat) (counts : Counts)
    {finish : Bool → State → State}
    (keeps : ∀ ended state, (finish ended state).machine.heap = state.machine.heap) :
    (state.continueJoin me index deadline counts finish).2.2.machine.heap = state.machine.heap := by
  unfold continueJoin
  split
  · exact keeps ..
  · rfl

theorem heap_joinThread (label : String) (limit : Option Nat) (counts : Counts)
    {finish : Bool → State → State}
    (keeps : ∀ ended state, (finish ended state).machine.heap = state.machine.heap) :
    (state.joinThread me label limit counts finish).2.2.machine.heap = state.machine.heap := by
  unfold joinThread
  split
  · rfl
  · split <;> exact heap_continueJoin _ _ _ _ _ keeps

theorem heap_joinTimeout (label : String) (milliseconds : Nat) (counts : Counts) :
    (state.joinTimeout me label milliseconds counts).2.2.machine.heap = state.machine.heap :=
  heap_joinThread _ _ _ _ _ fun _ _ => heap_tell ..

theorem heap_tellLabelToEnd (label : String) :
    (((state.indexOf? label).map state.tellToEnd).getD state).machine.heap =
      state.machine.heap := by
  cases state.indexOf? label <;> rfl

theorem heap_join (label : String) (counts : Counts) :
    (state.join me label counts).2.2.machine.heap = state.machine.heap := by
  unfold join
  dsimp only
  rw [heap_joinThread _ _ _ _ _ fun _ _ => heap_tell ..]
  exact heap_tellLabelToEnd ..

theorem heap_finish (label : String) : (state.finish me label).machine.heap = state.machine.heap :=
  (heap_tell ..).trans (heap_tellLabelToEnd ..)

theorem heap_setName (name : String) : (state.setName me name).machine.heap = state.machine.heap :=
  (heap_tell ..).trans (heap_setOwnName ..)

theorem heap_compareTokens : (state.compareTokens me).machine.heap = state.machine.heap := by
  simp only [compareTokens, heap_tell, heap_setMachine, heap_currentToken]

theorem heap_joinMany (label : String) (threads : Nat) (limit : Option Nat) (counts : Counts) :
    (state.joinMany me label threads limit counts).2.2.machine.heap = state.machine.heap := by
  unfold joinMany
  split
  · rfl
  · split
    · exact heap_tell ..
    · rfl

theorem heap_nextJob (counts : Counts) :
    (state.nextJob me counts).2.2.machine.heap = state.machine.heap := by
  unfold nextJob
  dsimp only
  split
  · rfl
  · split <;> rfl

/-! Steps on exceptions, programs and settings. -/

theorem heap_capture (name : String) (r : Ref) (depth : UInt64) (height : Nat) (counts : Counts) :
    (state.capture me name r depth height counts).2.machine.heap = state.machine.heap := by
  have told (first second : Event) :
      (if depth ≤ 3 then (state.tell me first).tell me second
        else state.tell me first).machine.heap = state.machine.heap := by
    split
    · exact (heap_tell ..).trans (heap_tell ..)
    · exact heap_tell ..
  unfold capture
  dsimp only
  split
  · exact told ..
  · exact (heap_flushJournal ..).trans ((Machine.heap_log ..).trans (told ..))

theorem heap_releaseRecord (name : String) (counts : Counts) :
    (state.releaseRecord me name counts).2.machine.heap = state.machine.heap := by
  unfold releaseRecord
  split
  · next taken =>
    obtain ⟨-, rfl⟩ := Prod.mk.inj taken
    rfl
  · next taken =>
    obtain ⟨-, rfl⟩ := Prod.mk.inj taken
    exact (heap_tell ..).trans (Machine.heap_log ..)

theorem heap_enterProgram (name : Option String) (counts : Counts) :
    (state.enterProgram me name counts).machine.heap = state.machine.heap := by
  cases name <;> exact heap_tell ..

theorem heap_started (route : Route) :
    (state.started me route).machine.heap = state.machine.heap := by
  rw [started_eq]
  exact (heap_tell ..).trans (Machine.heap_log ..)

theorem heap_tellConfig : (state.tellConfig me).machine.heap = state.machine.heap :=
  (heap_tell ..).trans (Machine.heap_readSettings _)

theorem heap_unimplemented (symbol : String) :
    (state.unimplemented symbol).machine.heap = state.machine.heap := by
  unfold unimplemented
  split
  · rfl
  · exact Machine.heap_trap ..

theorem heap_setConfig (settings : Settings) :
    (state.setConfig me settings).machine.heap = state.machine.heap := by
  unfold setConfig
  split
  · next configured => exact (heap_tell ..).trans (Machine.heap_configure configured)
  · exact heap_tell ..

/-- The thread of a program that starts has its name, but no arguments yet. -/
theorem heap_namedMain (count : Nat) :
    (state.namedMain me count).machine.heap = state.machine.heap :=
  calc (state.namedMain me count).machine.heap
    _ = (state.machine.beginStart count).heap := heap_setOwnName (state.setMachine _) me "main"
    _ = state.machine.initLogging.readSettings.2.heap := Machine.heap_log ..
    _ = state.machine.initLogging.heap := Machine.heap_readSettings _
    _ = state.machine.heap := state.machine.heap_initLogging

theorem changes_startUp (arguments : List (List UInt8)) (count : Nat) :
    Runs Heap.Change state.machine.heap [] (state.startUp me arguments count).2.machine.heap := by
  let named := state.namedMain me count
  have kept : named.machine.heap = state.machine.heap := heap_namedMain state me count
  obtain ⟨r, -, taken⟩ := named.takeArguments_eq me arguments count
  rw [startUp_snd, taken, heap_flushJournal, ← kept]
  exact named.changes_marshalled arguments count

/-! Whole turns. -/

theorem heap_regionLeft (counts : Counts) (site : Site) (caught : Option Ref) :
    (state.regionLeft me counts site caught).machine.heap = state.machine.heap := by
  cases site with
  | attempt route name ignore =>
    cases route <;> simp only [regionLeft] <;> split <;> simp only [heap_bind, heap_tell]
  | level nest => cases caught <;> rfl
  | _ => rfl

theorem heap_hear (counts : Counts) (signal : Signal Site) :
    ((host me).signal counts signal state).machine.heap = state.machine.heap := by
  have logged {machine : Machine} (same : machine.heap = state.machine.heap) :
      ((state.setMachine machine).flushJournal me).machine.heap = state.machine.heap :=
    (heap_flushJournal ..).trans same
  cases signal with
  | raising | caught | released => exact logged (Machine.heap_log ..)
  | regionLeft site caught => exact heap_regionLeft ..
  | cleaning site => cases site <;> first | rfl | exact heap_tell ..
  | outermostLeft site => cases site <;> first | rfl | exact heap_tell ..
  | intercepted | interceptLeft | endOfStack => exact heap_tell ..
  | uncaught | exited | cleanupEscaped => exact logged rfl
  | foreignAtBottom => exact logged (Machine.heap_trap ..)

theorem changes_perform (counts : Counts) (height : Nat) (instruction : Instruction) :
    Runs Heap.Change state.machine.heap (instruction.arrayTables state)
      ((host me).perform counts height instruction state).2.2.machine.heap := by
  have still {after : State} (same : after.machine.heap = state.machine.heap) :
      Runs Heap.Change state.machine.heap [] after.machine.heap := same ▸ .start _
  have ends {set : List UInt64} {after : State}
      (run : Runs Heap.Change state.machine.heap set after.machine.heap) :
      Runs Heap.Change state.machine.heap set (done me counts after).2.2.machine.heap :=
    (heap_done ..).symm ▸ run
  have told (event : Event) := ends (still (heap_tell state me event))
  cases instruction with
  | table => exact ends (state.changes_makeTable ..)
  | object => exact ends (state.changes_makeObject ..)
  | array => exact ends (state.changes_makeArray ..)
  | setArrayTable => exact ends (state.changes_setArrayTable ..)
  | write => exact ends (state.changes_writeBytes ..)
  | copy => exact ends (state.changes_copyArray ..)
  | string => exact ends (state.changes_makeString ..)
  | marshal => exact ends (state.changes_marshal ..)
  | start =>
    simp only [host, perform, startProgram_eq]
    exact state.changes_startUp ..
  | store => exact ends (state.changes_storeField ..)
  | lock | unlock =>
    simp only [host, perform]
    exact state.changes_useMonitor me _ _ _ counts fun _ _ => rfl
  | monitor =>
    simp only [host, perform, monitorStep]
    exact state.changes_useMonitor me _ _ _ counts fun _ _ => heap_tell ..
  | call | invoke => exact still (heap_invoke ..)
  | stress => exact still (heap_stress ..)
  | throw | rethrowLevel => exact still (heap_throwReply ..)
  | foreign | raise => exact .start _
  | joinMany => exact still (heap_joinMany ..)
  | settle => exact still (heap_settle ..)
  | assign => exact still (heap_assign ..)
  | await => exact still (heap_await ..)
  | awaitFinished => exact still (heap_awaitFinished ..)
  | nextJob => exact still (heap_nextJob ..)
  | join => exact still (heap_join ..)
  | joinTimeout => exact still (heap_joinTimeout ..)
  | raiseCaptured name =>
    simp only [host, perform]
    split <;> next taken =>
      obtain ⟨-, rfl⟩ := Prod.mk.inj taken
      exact .start _
  | println => exact ends (still (heap_println ..))
  | itableLookup => exact ends (still (heap_itableLookup ..))
  | enterProgram => exact ends (still (heap_enterProgram ..))
  | started => exact ends (still (heap_started ..))
  | spawn => exact ends (still (heap_spawn ..))
  | finish => exact ends (still (heap_finish ..))
  | setName => exact ends (still (heap_setName ..))
  | token => exact ends (still (heap_compareTokens ..))
  | abstract route => cases route <;> exact ends (still (Machine.heap_trap ..))
  | unimplemented => exact ends (still (heap_unimplemented ..))
  | configure => exact ends (still (heap_setConfig ..))
  | config => exact ends (still (heap_tellConfig ..))
  | initLogging => exact ends (still ((heap_tell ..).trans (Machine.heap_initLogging _)))
  | collectFinished => exact ends (still (heap_collectFinished ..))
  | still => exact ends (still (heap_still ..))
  | capture => exact ends (still (heap_capture ..))
  | release => exact ends (still (heap_releaseRecord ..))
  | load | jobDone | leaveThread => exact ends (.start _)
  | breakOutput => exact ends (still (heap_tell ..))
  | read | arrayInfo | stats | arguments | vtableLookup => exact ends (still (heap_tell ..))
  | argument => exact ends (still (heap_tell ..))
  | info | same | tellCall | tellNest | speak | state | registerNatives | tell | getName =>
    exact told _

theorem changes_stepThread :
    Runs Heap.Change state.machine.heap (state.arrayTables me)
      (state.stepThread me).machine.heap := by
  have heard := (state.strand me).step_hears
    (fun before after : State => after.machine.heap = before.machine.heap)
    (fun _ => rfl) (fun early late => late.trans early)
    (fun counts signal state => state.heap_hear me counts signal) state
  have stepped : (state.stepThread me).machine.heap =
      ((state.strand me).performed (host me) state).machine.heap :=
    (congrArg Machine.heap (machine_stepThread state me)).trans heard
  rw [stepped]
  unfold Strand.performed arrayTables
  cases (state.strand me).upcoming with
  | none => exact .start _
  | some instruction => exact state.changes_perform me _ _ instruction

end

/-- Threads take turns in any order, with the tables for new arrays that they set. -/
inductive Sets : State → List UInt64 → State → Prop
  | turn (state : State) (me : Nat) : Sets state (state.arrayTables me) (state.stepThread me)
  | elapse (state : State) (clock : Nat) : Sets state [] { state with clock }
  | switch (state : State) (running : Nat) : Sets state [] { state with running }

/-- What a run does to the memory of its process are changes one after the other. -/
theorem changes_run {first last : State} {set : List UInt64} (run : Runs Sets first set last) :
    Runs Heap.Change first.machine.heap set last.machine.heap := by
  induction run with
  | start => exact .start _
  | next _ step ih =>
    cases step with
    | turn me => exact ih.append (changes_stepThread _ me)
    | elapse | switch =>
      rw [List.append_nil]
      exact ih

/-- The scheduler of a scenario is one way to take turns. -/
theorem run_sets (state : State) (fuel : Nat) : ∃ set, Runs Sets state set (state.run fuel) :=
  runs_run (fun _ index _ => ⟨_, .turn _ index⟩) (fun _ clock _ => ⟨_, .elapse _ clock⟩)
    (fun _ running _ => ⟨_, .switch _ running⟩) state fuel

end State

/-! Where a process begins. -/

theorem dvd_placement (steps : List Step) : 16 ∣ placement steps :=
  Nat.dvd_trans (by decide) (Nat.dvd_mul_left regionSize _)

theorem changes_placeStatic (heap : Heap) (table : Memory.Block) :
    Runs Heap.Change heap [] (placeStatic heap table).2 := by
  unfold placeStatic
  cases placed : heap.placeTable table with
  | none => exact .start _
  | some answer => exact .one (.table placed)

/-- Memory behind the code, before anything is placed there. -/
def freeMemory (codeBase : Nat) : Heap := { next := codeBase + codeRoom }

/-- The class library is placed table by table, and sets none for arrays. -/
theorem changes_place (free : Heap) (printStream empty : Memory.Block) :
    Runs Heap.Change free [] (Library.place free printStream empty).heap :=
  ((changes_placeStatic ..).append (changes_placeStatic ..)).append (changes_placeStatic ..)

theorem heap_initialState (setting : Setting) (steps : List Step) :
    (initialState setting steps).machine.heap =
      (setting.prepare (placeLibrary (placement steps)).heap).2.heap := by
  have attached (machine : Machine) : (setting.attach machine).heap = machine.heap := by
    unfold Setting.attach
    split <;> rfl
  unfold initialState
  dsimp only
  split
  · exact (State.heap_askToken ..).trans (attached _)
  · exact attached _

theorem Setting.changes_prepare (setting : Setting) (heap : Heap) :
    Runs Heap.Change heap [] (setting.prepare heap).2.heap := by
  let machine : Machine := { environment := setting.environment, backend := setting.backend, heap }
  unfold Setting.prepare
  dsimp only
  split
  · exact machine.changes_arrayTable
  · exact .start _

/-- What there is in memory before the first step has been placed there bit by bit. -/
theorem changes_initialState (setting : Setting) (steps : List Step) :
    Runs Heap.Change (freeMemory (placement steps)) []
      (initialState setting steps).machine.heap := by
  rw [heap_initialState]
  have library : Runs Heap.Change (freeMemory (placement steps)) []
      (placeLibrary (placement steps)).heap := by
    rw [placeLibrary]
    exact changes_place _ _ _
  exact library.append (setting.changes_prepare _)

/-! Memory is in order before anything is placed there. -/

theorem tidy_freeMemory (steps : List Step) : (freeMemory (placement steps)).Tidy :=
  ⟨Nat.dvd_add (dvd_placement steps) (by decide),
    fun _ present => absurd present Std.ExtTreeMap.not_mem_empty⟩

theorem textsInFront_freeMemory (codeBase : Nat) : (freeMemory codeBase).TextsInFront := by
  intro address text found
  cases (Std.TreeMap.getElem?_emptyc (a := address)).symm.trans found

theorem tabled_freeMemory (codeBase : Nat) : (freeMemory codeBase).Tabled :=
  ⟨fun _ present => absurd present Std.TreeMap.not_mem_emptyc, nofun⟩

end ManagedRuntime.Scenario
