import ManagedRuntime.Scenario.Threads

/-! What instructions and signals do to a scenario. -/
namespace ManagedRuntime.Scenario.State
open Exception

/-- Captures a record under a name; the record that had the name is released afterwards. -/
def capture (state : State) (me : Nat) (name : String) (r : Ref) (depth : UInt64) (height : Nat)
    (counts : Counts) : Counts × State :=
  let counts := counts.capture
  let record := ExceptionRecord.capture r depth (stackOf height)
  let told := state.tell me (.captured (state.recordView record counts))
  let told := if depth ≤ 3 then
      told.tell me (.recordText (Console.mask record.inline))
    else told
  let kept := { told with records := (name, record) :: told.records.filter (·.1 != name) }
  match state.records.lookup name with
  | none => (counts, kept)
  | some previous =>
    (counts.release, (kept.setMachine (kept.machine.logReleased previous)).flushJournal me)

def takeRecord (state : State) (name : String) : Option ExceptionRecord × State :=
  (state.records.lookup name, { state with records := state.records.filter (·.1 != name) })

def releaseRecord (state : State) (me : Nat) (name : String) (counts : Counts) : Counts × State :=
  match state.takeRecord name with
  | (none, state) => (counts, state)
  | (some record, state) =>
    let counts := counts.release
    (counts, (state.setMachine (state.machine.logReleased record)).tell me (.released counts.live))

/-- Prepares a program: logging, settings, the thread's name and the argument array. -/
def startUp (state : State) (me : Nat) (arguments : List (List UInt8)) (count : Nat) :
    Except Trap Unit × State :=
  let (_, state) := (state.setMachine (state.machine.beginStart count)).setOwnName me "main"
  match state.marshalled arguments count with
  | (.error reason, machine) => (.error reason, (state.setMachine machine).flushJournal me)
  | (.ok r, machine) =>
    (.ok (), ((state.setMachine machine).updateThread me fun thread =>
      { thread with arguments := r }).flushJournal me)

/-- A start is over. Through the entry point it returns a status or ends the process. -/
def startOver (state : State) (me : Nat) (outcome : Except Trap Unit × Machine) : Route → State
  | .entryPoint =>
    match EntryPoint.start outcome with
    | (none, machine) => (state.setMachine machine).flushJournal me
    | (some status, machine) => (state.setMachine machine).tell me (.started (some status.toNat))
  | .direct | .stub =>
    match outcome with
    | (.error reason, machine) => (state.setMachine machine).tell me (.refused "start" reason)
    | (.ok (), machine) => (state.setMachine machine).tell me (.started none)

def started (state : State) (me : Nat) (route : Route) : State :=
  state.startOver me state.machine.endStart route

def enterProgram (state : State) (me : Nat) (name : Option String) (counts : Counts) : State :=
  let arguments := (state.thread me).arguments
  let bound := match name with
    | some name => state.bind name arguments
    | none => state
  bound.tell me (.entry (bound.currentName me) counts.handlers)

def setConfig (state : State) (me : Nat) (settings : Settings) : State :=
  match state.machine.configure settings with
  | .ok machine => (state.setMachine machine).tell me (.plain "configure")
  | .error fault => state.tell me (.refusedSettings fault)

def tellConfig (state : State) (me : Nat) : State :=
  let (settings, machine) := state.machine.readSettings
  (state.setMachine machine).tell me (.settings settings)

/-- An operation that is over at once, unless it ended the process. -/
def done (me : Nat) (counts : Counts) (state : State) : Reply Instruction Site × Counts × State :=
  let state := state.flushJournal me
  (if state.machine.ended.isSome then .halted else .done, counts, state)

/-- Starts a program, unless it has no arguments to run with. -/
def startProgram (state : State) (me : Nat) (arguments : List (List UInt8)) (count : Nat)
    (name : Option String) (route : Route) (body : List Step) (counts : Counts) :
    Reply Instruction Site × Counts × State :=
  match state.startUp me arguments count with
  | (.error reason, state) =>
    done me counts (state.startOver me (.error reason, state.machine) route)
  | (.ok (), state) =>
    (if state.machine.ended.isSome then .halted else .run (entrySteps name route body), counts,
      state)

def unimplemented (state : State) (symbol : String) : State :=
  match Native.lookup? symbol with
  | none => state
  | some stub => state.setMachine (stub.callUnimplemented state.machine)

/-- Carries out an instruction of thread `me`. -/
def perform (me : Nat) (counts : Counts) (height : Nat) (instruction : Instruction)
    (state : State) : Reply Instruction Site × Counts × State :=
  match instruction with
  | .table name methods interfaces => done me counts (state.makeTable me name methods interfaces)
  | .object name size table route => done me counts (state.makeObject me name size table route)
  | .array name length width route => done me counts (state.makeArray me name length width route)
  | .setArrayTable table route => done me counts (state.setArrayTable me table route)
  | .info name =>
      done me counts (state.tell me (.reference (state.referenceView (state.reference name))))
  | .same first second =>
      let a := state.reference first
      let b := state.reference second
      done me counts (state.tell me (.same (a == b) (a.identityHash == b.identityHash)))
  | .write name position bytes =>
      done me counts (state.writeBytes me (state.reference name) position bytes)
  | .read name position count =>
      done me counts (state.readBytes me (state.reference name) position count)
  | .arrayInfo name route => done me counts (state.arrayInfo me (state.reference name) route)
  | .copy source sourceStart destination destinationStart count route =>
      done me counts (state.copyArray me (state.reference source) sourceStart
        (state.reference destination) destinationStart count route)
  | .stats => done me counts (state.stats me)
  | .vtableLookup name index route =>
      done me counts (state.vtableLookup me (state.reference name) index route)
  | .itableLookup name interface index route =>
      done me counts (state.itableLookup me (state.reference name) interface index route)
  | .call name interface index =>
      state.invoke me (state.reference name) interface index true height counts
  | .stress name index threads times =>
      state.stress me (state.reference name) index threads times counts
  | .invoke receiver interface index announced =>
      state.invoke me receiver interface index announced height counts
  | .monitor verb name route quiet =>
      state.monitorStep me (state.reference name) verb route quiet counts
  | .lock receiver =>
      state.useMonitor me receiver .enter .entryPoint counts fun _ state => state
  | .load receiver => done me counts (state.loadField me receiver)
  | .store receiver => done me counts (state.storeField me receiver)
  | .unlock receiver =>
      state.useMonitor me receiver .exit .entryPoint counts fun _ state => state
  | .tellCall method =>
      done me counts (state.tell me (.called (MethodCode.text state.codeBase method) .nothing))
  | .throw name route => state.throwReply me (state.reference name) route height counts
  | .foreign message => (.foreign message, counts, state)
  | .raise name depth mode =>
      (.raise mode (.capture (state.reference name) depth (stackOf height)), counts, state)
  | .capture name reference depth =>
      let (counts, state) := state.capture me name (state.reference reference) depth height counts
      done me counts state
  | .release name =>
      let (counts, state) := state.releaseRecord me name counts
      done me counts state
  | .raiseCaptured name =>
      match state.takeRecord name with
      | (none, state) => (.done, counts, state)
      | (some record, state) => (.raiseHeld .propagate record, counts, state)
  | .rethrowLevel nest => state.throwReply me (state.tally nest).last .direct height counts
  | .tellNest nest =>
      let tally := state.tally nest
      done me counts (state.tell me (.nest tally.caught tally.cleanups counts))
  | .abstract route =>
      done me counts (state.setMachine (match route with
        | .entryPoint => EntryPoint.abstractMethod state.machine
        | .direct | .stub => state.machine.abstractMethodCalled))
  | .unimplemented symbol => done me counts (state.unimplemented symbol)
  | .speak text => done me counts (state.tell me (.spoken text))
  | .state => done me counts (state.tell me (.state counts))
  | .string name bytes copied => done me counts (state.makeString me name bytes copied)
  | .println name => done me counts (state.println me (state.reference name))
  | .breakOutput =>
      done me counts ((state.setMachine { state.machine with outputBroken := true }).tell me
        (.plain "break_stdout"))
  | .registerNatives => done me counts (state.tell me (.plain "register_natives"))
  | .marshal name arguments count => done me counts (state.marshal me name arguments count)
  | .arguments name => done me counts (state.tellArguments me (state.reference name))
  | .argument name index element =>
      done me counts (state.bindArgument me (state.reference name) index element)
  | .start arguments count name route body =>
      state.startProgram me arguments count name route body counts
  | .enterProgram name => done me counts (state.enterProgram me name counts)
  | .started route => done me counts (state.started me route)
  | .spawn label name managed asked => done me counts (state.spawn me label name managed asked)
  | .join label => state.join me label counts
  | .finish label => done me counts (state.finish me label)
  | .joinTimeout label milliseconds => state.joinTimeout me label milliseconds counts
  | .joinMany label threads limit => state.joinMany me label threads limit counts
  | .settle milliseconds => state.settle me milliseconds counts
  | .tell verb => done me counts (state.tell me (.plain verb))
  | .setName name => done me counts (state.setName me name)
  | .getName => done me counts (state.tell me (.threadName (state.currentName me)))
  | .token => done me counts (state.compareTokens me)
  | .configure settings => done me counts (state.setConfig me settings)
  | .config => done me counts (state.tellConfig me)
  | .initLogging =>
      done me counts ((state.setMachine state.machine.initLogging).tell me (.plain "init_logging"))
  | .assign label verb patience job => state.assign me label verb patience job counts
  | .await label => state.await me label counts
  | .awaitFinished count => state.awaitFinished me count counts
  | .collectFinished => done me counts (state.collectFinished me)
  | .still label => done me counts (state.still me label)
  | .nextJob => state.nextJob me counts
  | .jobDone => done me counts (state.jobDone me)
  | .leaveThread => done me counts (state.leaveThread me)

/-- A region told that it ended. -/
def regionLeft (state : State) (me : Nat) (counts : Counts) (site : Site) (caught : Option Ref) :
    State :=
  match site with
  | .attempt route name ignore =>
    let (seen, told) := match route with
      | .entryPoint =>
        let (status, cell) := EntryPoint.attempt (if ignore then none else some .null) caught
        (if status = 0 then none else some (cell.getD .null), state.tell me (.status status))
      | .direct | .stub => (caught, state)
    let told := told.tell me (.attempt (seen.map state.nameOf) counts)
    match seen, name with
    | some r, some name => told.bind name r
    | _, _ => told
  | .level nest =>
    match caught with
    | none => state
    | some r =>
      state.updateTally nest fun tally => { tally with caught := tally.caught + 1, last := r }
  | _ => state

def interception (state : State) (counts : Counts) : Option Payload → Interception
  | none => .nothing
  | some (.foreign message) => .foreign message
  | some (.managed record) => .managed (state.recordView record counts)

/-- Hears a signal of thread `me`. -/
def hear (me : Nat) (counts : Counts) (signal : Signal Site) (state : State) : State :=
  match signal with
  | .raising throwable =>
      (state.setMachine (state.machine.logRaising throwable counts.handlers)).flushJournal me
  | .caught throwable => (state.setMachine (state.machine.logCaught throwable)).flushJournal me
  | .released record => (state.setMachine (state.machine.logReleased record)).flushJournal me
  | .regionLeft site caught => state.regionLeft me counts site caught
  | .cleaning site =>
    match site with
    | .guarded label => state.tell me (.cleanup label counts)
    | .levelFrame nest =>
        state.updateTally nest fun tally => { tally with cleanups := tally.cleanups + 1 }
    | _ => state
  | .intercepted _ payload => state.tell me (.intercepted (state.interception counts payload))
  | .interceptLeft _ => state.tell me (.counters counts)
  | .outermostLeft site =>
    match site with
    | .outermost => state.tell me (.outermost counts.handlers)
    | _ => state
  | .endOfStack held record =>
      state.tell me (.endOfStack held (state.recordView record counts))
  | .uncaught record =>
      (state.setMachine
        (state.machine.reportUncaught (state.currentName me) record)).flushJournal me
  | .exited => (state.setMachine (state.machine.exit 1)).flushJournal me
  | .foreignAtBottom => (state.setMachine (state.machine.trap .foreignUnwind)).flushJournal me
  | .cleanupEscaped => (state.setMachine state.machine.abort).flushJournal me

/-- The scenario as the surroundings of its thread `me`. -/
def host (me : Nat) : Host Instruction Site State := ⟨perform me, hear me⟩

end ManagedRuntime.Scenario.State
