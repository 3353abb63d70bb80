import ManagedRuntime.Proofs.Scenario.Guise
import ManagedRuntime.Scenario.Run

/-! What threads of a scenario do commutes with a guise: an instruction carried out in a guise leads
to the guise of what it leads to, and so does a signal. Operations that are given their thread's
token are given the other one in a guise with other tokens. -/
namespace ManagedRuntime.Scenario
open Exception

namespace State

section
variable (guise : Guise) (state : State) (me : Nat)

/-! Steps on memory. -/

@[simp] theorem makeTable_under (name : String) (methods : List MethodName)
    (interfaces : List Dispatch.InterfaceEntry) :
    (state.under guise).makeTable me name methods interfaces =
      (state.makeTable me name methods interfaces).under guise := by
  simp only [makeTable, machine_under, codeBase_under, Machine.buildTable_under]
  cases state.machine.buildTable _ with
  | error fault => exact tell_under guise state me rfl
  | ok built =>
    obtain ⟨address, machine⟩ := built
    cases address with
    | none => exact flushJournal_under guise (state.setMachine machine) me
    | some address => exact tell_under guise { state with machine := _, tables := _ } me rfl

theorem allocated_under (verb name : String) {event other : Ref → State → Event}
    (same : ∀ r state, other r (state.under guise) = event r state)
    (plain : ∀ r state, (event r state).isPlain = true) (outcome : Except Trap Ref × Machine) :
    (state.under guise).allocated me verb name other (outcome.1, outcome.2.under guise.machine) =
      (state.allocated me verb name event outcome).under guise := by
  obtain ⟨made, machine⟩ := outcome
  cases made with
  | error reason => exact tell_under guise (state.setMachine machine) me rfl
  | ok r =>
    simp only [allocated, setMachine_under, keepObject_under, same]
    exact tellUnlessEnded_under guise _ me (plain r _)

theorem allocatedOrTrapped_under (name : String) {event other : Ref → State → Event}
    (same : ∀ r state, other r (state.under guise) = event r state)
    (plain : ∀ r state, (event r state).isPlain = true) (outcome : Option Ref × Machine) :
    (state.under guise).allocatedOrTrapped me name other
        (outcome.1, outcome.2.under guise.machine) =
      (state.allocatedOrTrapped me name event outcome).under guise := by
  obtain ⟨made, machine⟩ := outcome
  cases made with
  | none => exact flushJournal_under guise (state.setMachine machine) me
  | some r =>
    simp only [allocatedOrTrapped, setMachine_under, keepObject_under, same]
    exact tellUnlessEnded_under guise _ me (plain r _)

theorem monitorEvent_under (verb : String) (object : UInt64) (token : Token) :
    monitorEvent verb object (guise.machine.rename token) (state.under guise) =
      monitorEvent verb object token state := by
  simp only [monitorEvent, machine_under, Machine.heap_under, Heap.monitor_renamed,
    Monitor.depth_renamed, Monitor.isHeldBy_renamed]

@[simp] theorem makeObjectAs_under (token : Token) (name : String) (size : UInt64)
    (table : Option String) (route : Route) :
    (state.under guise).makeObjectAs me (guise.machine.rename token) name size table route =
      (state.makeObjectAs me token name size table route).under guise := by
  have same (r : Ref) (state : State) := monitorEvent_under guise state "object" r.object token
  cases route with
  | entryPoint =>
    simp only [makeObjectAs, tableAddress_under, machine_under, EntryPoint.objectNew,
      Machine.newObject_under, EntryPoint.orTrap_under]
    exact allocatedOrTrapped_under guise _ me name same (fun _ _ => rfl) _
  | direct | stub =>
    simp only [makeObjectAs, tableAddress_under, machine_under, Machine.newObject_under]
    exact allocated_under guise _ me "object" name same (fun _ _ => rfl) _

@[simp] theorem makeArray_under (name : String) (length : UInt32) (width : UInt64) (route : Route) :
    (state.under guise).makeArray me name length width route =
      (state.makeArray me name length width route).under guise := by
  let event (_ : Ref) (_ : State) : Event := .plain "array"
  cases route with
  | entryPoint =>
    simp only [makeArray, machine_under, EntryPoint.arrayNew, Machine.newArray_under,
      EntryPoint.orTrap_under]
    exact @allocatedOrTrapped_under guise state me name event event (fun _ _ => rfl)
      (fun _ _ => rfl) _
  | direct | stub =>
    simp only [makeArray, machine_under, Machine.newArray_under]
    exact @allocated_under guise state me "array" name event event (fun _ _ => rfl)
      (fun _ _ => rfl) _

@[simp] theorem tellArrayTable_under :
    (state.under guise).tellArrayTable me = (state.tellArrayTable me).under guise := by
  simp only [tellArrayTable, machine_under, Machine.arrayTable_under]
  obtain ⟨table, machine⟩ := state.machine.arrayTable
  cases table with
  | none => exact flushJournal_under guise (state.setMachine machine) me
  | some table =>
    simp only [setMachine_under, tableName_under]
    exact tell_under guise _ me rfl

@[simp] theorem setArrayTable_under (table : Option String) (route : Route) :
    (state.under guise).setArrayTable me table route =
      (state.setArrayTable me table route).under guise := by
  cases route <;>
  · simp only [setArrayTable, tableAddress_under, machine_under, EntryPoint.setArrayTable,
      Machine.setArrayTable_under, setMachine_under, tellArrayTable_under]

@[simp] theorem referenceView_under (r : Ref) :
    (state.under guise).referenceView r = state.referenceView r := by
  simp only [referenceView, machine_under, Machine.heap_under, Heap.table_renamed, nameOf_under,
    tableName_under, made_under]
  rfl

@[simp] theorem writeBytes_under (r : Ref) (position : Nat) (bytes : List UInt8) :
    (state.under guise).writeBytes me r position bytes =
      (state.writeBytes me r position bytes).under guise := by
  simp only [writeBytes, machine_under, Machine.heap_under, Heap.fields_renamed,
    Heap.setFields_renamed, Machine.setHeap_under, setMachine_under]
  exact tell_under guise _ me rfl

@[simp] theorem readBytes_under (r : Ref) (position count : Nat) :
    (state.under guise).readBytes me r position count =
      (state.readBytes me r position count).under guise := by
  simp only [readBytes, machine_under, Machine.heap_under, Heap.fields_renamed]
  exact tell_under guise _ me rfl

@[simp] theorem arrayInfo_under (r : Ref) (route : Route) :
    (state.under guise).arrayInfo me r route = (state.arrayInfo me r route).under guise := by
  cases route <;>
  · simp only [arrayInfo, EntryPoint.arrayLength, machine_under, Machine.heap_under,
      Heap.arrayLength_renamed, Heap.arrayWidth_renamed, tableName_under]
    exact tell_under guise _ me rfl

@[simp] theorem copyArray_under (source : Ref) (sourceStart : Int) (destination : Ref)
    (destinationStart count : Int) (route : Route) :
    (state.under guise).copyArray me source sourceStart destination destinationStart count route =
      (state.copyArray me source sourceStart destination destinationStart count route).under
        guise := by
  cases route with
  | direct =>
    simp only [copyArray, machine_under, Machine.copyArray_under]
    cases state.machine.copyArray source (.ofInt sourceStart) destination
      (.ofInt destinationStart) (.ofInt count) with
    | error reason => exact tell_under guise state me rfl
    | ok machine => exact tell_under guise (state.setMachine machine) me rfl
  | entryPoint =>
    simp only [copyArray, machine_under, EntryPoint.arrayCopy_under, setMachine_under]
    exact tellUnlessEnded_under guise _ me rfl
  | stub =>
    simp only [copyArray, machine_under, Native.Stub.callArrayCopy_under, setMachine_under]
    exact tellUnlessEnded_under guise _ me rfl

@[simp] theorem stats_under : (state.under guise).stats me = (state.stats me).under guise := by
  simp only [stats, machine_under, Machine.heap_under, Heap.objectsAllocated_renamed,
    Heap.bytesAllocated_renamed]
  exact tell_under guise _ me rfl

@[simp] theorem vtableLookup_under (r : Ref) (index : Nat) (route : Route) :
    (state.under guise).vtableLookup me r index route =
      (state.vtableLookup me r index route).under guise := by
  cases route <;>
  · simp only [vtableLookup, EntryPoint.vtableLookup, machine_under, Machine.vtableLookup_under,
      codeBase_under]
    exact tell_under guise _ me rfl

@[simp] theorem itableLookup_under (r : Ref) (interface : UInt64) (index : Nat) (route : Route) :
    (state.under guise).itableLookup me r interface index route =
      (state.itableLookup me r interface index route).under guise := by
  cases route with
  | entryPoint =>
    simp only [itableLookup, machine_under, EntryPoint.itableLookup_under, setMachine_under,
      codeBase_under]
    exact tell_under guise _ me rfl
  | direct | stub =>
    simp only [itableLookup, machine_under, Machine.itableLookup_under, codeBase_under]
    exact tell_under guise _ me rfl

@[simp] theorem makeString_under (name : String) (bytes : Option (List UInt8)) (copied : Bool) :
    (state.under guise).makeString me name bytes copied =
      (state.makeString me name bytes copied).under guise := by
  cases bytes with
  | none => exact tell_under guise (state.bind name .null) me rfl
  | some bytes =>
    simp only [makeString, machine_under, Machine.heap_under, Heap.placeText_renamed]
    generalize state.machine.heap.placeText bytes = placed
    cases copied with
    | false =>
      simp only [Bool.false_eq_true, if_false, Machine.setHeap_under, setMachine_under, bind_under,
        Heap.textAt_renamed, tableName_under]
      exact tell_under guise _ me rfl
    | true =>
      simp only [if_true, Heap.textAt_renamed, Heap.copyString_renamed, Machine.setHeap_under,
        setMachine_under, bind_under, tableName_under]
      exact tell_under guise _ me rfl

@[simp] theorem println_under (r : Ref) :
    (state.under guise).println me r = (state.println me r).under guise := by
  simp only [println, reference_under, codeBase_under, EntryPoint.vtableLookup, machine_under,
    Machine.vtableLookup_under, Machine.println_under, Machine.output_under, setMachine_under]
  split
  · exact tell_under guise (state.setMachine _) me rfl
  · rfl
  · rfl

theorem placeArguments_renamed (rename : Rename) (heap : Heap) (arguments : List (List UInt8)) :
    placeArguments (heap.renamed rename) arguments =
      ((placeArguments heap arguments).1, (placeArguments heap arguments).2.renamed rename) := by
  induction arguments generalizing heap with
  | nil => rfl
  | cons bytes rest ih => simp only [placeArguments, Heap.placeText_renamed, ih]

@[simp] theorem marshalled_under (arguments : List (List UInt8)) (count : Nat) :
    (state.under guise).marshalled arguments count =
      ((state.marshalled arguments count).1,
        (state.marshalled arguments count).2.under guise.machine) := by
  have placed := placeArguments_renamed guise.machine.rename state.machine.heap
    (arguments.take count)
  simp only [marshalled, machine_under, Machine.heap_under, placed, Machine.setHeap_under,
    Machine.marshalArguments_under]

theorem takeArguments_under (arguments : List (List UInt8)) (count : Nat) :
    (state.under guise).takeArguments me arguments count =
      (state.takeArguments me arguments count).under guise := by
  simp only [takeArguments, marshalled_under]
  rcases state.marshalled arguments count with ⟨made, machine⟩
  cases made with
  | error reason => exact flushJournal_under guise (state.setMachine machine) me
  | ok r =>
    have placed := updateThread_under guise (state.setMachine machine) me
      (fun thread => { thread with arguments := r }) fun _ => rfl
    simp only [setMachine_under, placed, flushJournal_under]

@[simp] theorem marshal_under (name : String) (arguments : List (List UInt8)) (count : Nat) :
    (state.under guise).marshal me name arguments count =
      (state.marshal me name arguments count).under guise := by
  simp only [marshal, marshalled_under]
  rcases state.marshalled arguments count with ⟨made, machine⟩
  cases made with
  | error reason => exact tell_under guise (state.setMachine machine) me rfl
  | ok r => exact tellUnlessEnded_under guise ((state.setMachine machine).bind name r) me rfl

@[simp] theorem tellArguments_under (r : Ref) :
    (state.under guise).tellArguments me r = (state.tellArguments me r).under guise := by
  simp only [tellArguments, machine_under, Machine.heap_under, Heap.arrayLength_renamed,
    Heap.readRefElement_renamed, Heap.textAt_renamed, Heap.arrayWidth_renamed, tableName_under]
  exact tell_under guise _ me rfl

@[simp] theorem bindArgument_under (r : Ref) (index : Nat) (name : String) :
    (state.under guise).bindArgument me r index name =
      (state.bindArgument me r index name).under guise := by
  simp only [bindArgument, machine_under, Machine.heap_under, Heap.readRefElement_renamed,
    bind_under, tableName_under]
  exact tell_under guise _ me rfl

/-! Steps that run compiled methods and use monitors. -/

@[simp] theorem firstField_under (r : Ref) :
    (state.under guise).firstField r = state.firstField r := by
  simp only [firstField, machine_under, Machine.heap_under, Heap.fields_renamed]

@[simp] theorem loadField_under (r : Ref) :
    (state.under guise).loadField me r = (state.loadField me r).under guise := by
  simp only [loadField, firstField_under]
  exact updateThread_under guise state me _ fun _ => rfl

@[simp] theorem storeField_under (r : Ref) :
    (state.under guise).storeField me r = (state.storeField me r).under guise := by
  simp only [storeField, machine_under, Machine.heap_under, Heap.fields_renamed,
    Heap.setFields_renamed, thread_under, Machine.setHeap_under, setMachine_under]
  rfl

section
variable {guise state}

theorem beginMonitor_under {machine : Machine} (fits : Machine.Fits guise.machine machine)
    (token : Token) (r : Ref) (verb : MonitorVerb) (route : Route) :
    beginMonitor (machine.under guise.machine) (guise.machine.rename token) r verb route =
      ((beginMonitor machine token r verb route).1,
        (beginMonitor machine token r verb route).2.under guise.machine) := by
  cases verb with
  | look => cases route <;> rfl
  | enter | exit | wait =>
    have asked := Machine.request_under fits token r.object
    cases route <;> exact Prod.ext rfl (asked _)
  | notify | notifyAll => cases route <;> exact Prod.ext rfl (Machine.notify_under fits ..)

theorem settleMonitor_under (object : UInt64) (token : Token) (deadline : Option Nat)
    (counts : Counts) {finish other : State → State}
    (same : ∀ state, other (state.under guise) = (finish state).under guise) :
    (state.under guise).settleMonitor me object (guise.machine.rename token) deadline counts other =
      guise.answer (state.settleMonitor me object token deadline counts finish) := by
  simp only [settleMonitor, machine_under, Machine.ended_under, Machine.monitorPhase,
    Machine.heap_under, Heap.monitor_renamed, Monitor.phase_renamed, setWaiting_under,
    flushJournal_under, same]
  split
  · rfl
  · split <;> rfl

theorem resumeMonitor_under (fits : Machine.Fits guise.machine state.machine) (token : Token)
    (object : UInt64) (deadline : Option Nat) (counts : Counts) {finish other : State → State}
    (same : ∀ state, other (state.under guise) = (finish state).under guise) :
    (state.under guise).resumeMonitor me (guise.machine.rename token) object deadline counts other =
      guise.answer (state.resumeMonitor me token object deadline counts finish) := by
  have settled {machine : Machine} (fits : Machine.Fits guise.machine machine) :
      ((state.under guise).setMachine ((machine.under guise.machine).advance
          (guise.machine.rename token) object)).settleMonitor me object
            (guise.machine.rename token) deadline counts other =
        guise.answer ((state.setMachine (machine.advance token object)).settleMonitor me object
          token deadline counts finish) := by
    have advanced : (machine.under guise.machine).advance (guise.machine.rename token) object =
        (machine.advance token object).under guise.machine :=
      Machine.runMonitor_under fits token object _
    rw [advanced, setMachine_under]
    exact settleMonitor_under me _ _ _ _ same
  cases deadline with
  | none => exact settled fits
  | some time =>
    simp only [resumeMonitor, machine_under, clock_under, Machine.timeOut_under]
    split
    · exact settled (fits.timeOut token object)
    · exact settled fits

theorem useMonitorAs_under (fits : Machine.Fits guise.machine state.machine) (token : Token)
    (r : Ref) (verb : MonitorVerb) (route : Route) (counts : Counts)
    {finish other : State → State}
    (same : ∀ state, other (state.under guise) = (finish state).under guise) :
    (state.under guise).useMonitorAs me (guise.machine.rename token) r verb route counts other =
      guise.answer (state.useMonitorAs me token r verb route counts finish) := by
  have waiting : (guise.thread (state.thread me)).waiting = (state.thread me).waiting := rfl
  simp only [useMonitorAs, thread_under, waiting]
  split
  · exact resumeMonitor_under me fits token _ _ counts same
  · simp only [machine_under, beginMonitor_under fits, setMachine_under, clock_under]
    exact settleMonitor_under me _ _ _ _ same

end

variable {guise state} in
/-- Settings that are forced may ask for another way of throwing. -/
theorem throwReply_under (free : guise.machine.settings = none)
    (fits : Machine.Fits guise.machine state.machine) (r : Ref) (route : Route) (height : Nat)
    (counts : Counts) :
    (state.under guise).throwReply me r route height counts =
      guise.answer (state.throwReply me r route height counts) := by
  simp only [throwReply_eq, machine_under, Machine.readSettings_free fits free, setMachine_under,
    flushJournal_under]
  rfl

/-- A call from where its method is known. -/
def runMethod (state : State) (me : Nat) (r : Ref) (method : UInt64) (announced : Bool)
    (height : Nat) (counts : Counts) : Reply Instruction Site × Counts × State :=
  let finish (result : CallResult) : Reply Instruction Site × Counts × State :=
    (.done, counts,
      if announced then state.tell me (.called (MethodCode.text state.codeBase method) result)
      else state.flushJournal me)
  match MethodCode.ofAddress state.codeBase method with
  | .compiled .get => finish (.number (state.firstField r).toNat)
  | .compiled .increment =>
    (.run (incrementSteps r ++ if announced then [.act (.tellCall method)] else []), counts, state)
  | .compiled .throwing => state.throwReply me r .entryPoint height counts
  | .compiled .abstract =>
    (.halted, counts,
      (state.setMachine (EntryPoint.abstractMethod state.machine)).flushJournal me)
  | .stub stub =>
    if stub = .hashCode then
      let hash := Native.Stub.callHashCode r
      finish (.hash (hash == r.identityHash) (hash.toNat % 16))
    else finish .nothing
  | .unknown => finish .nothing

theorem invoke_none (r : Ref) (index : Nat) (announced : Bool) (height : Nat) (counts : Counts) :
    state.invoke me r none index announced height counts =
      state.runMethod me r (EntryPoint.vtableLookup state.machine r (UInt64.ofNat index)) announced
        height counts := rfl

theorem invoke_some (r : Ref) (interface : UInt64) (index : Nat) (announced : Bool) (height : Nat)
    (counts : Counts) :
    state.invoke me r (some interface) index announced height counts =
      (state.setMachine (EntryPoint.itableLookup state.machine r interface
        (UInt64.ofNat index)).2).runMethod me r
          (EntryPoint.itableLookup state.machine r interface (UInt64.ofNat index)).1 announced
          height counts := by
  cases code : MethodCode.ofAddress state.codeBase
      (EntryPoint.itableLookup state.machine r interface (UInt64.ofNat index)).1 with
  | compiled method => cases method <;> simp only [invoke, runMethod, setMachine, code]
  | stub | unknown => simp only [invoke, runMethod, setMachine, code]

/-- The answer is no throw, or no settings are forced and the variables ask for the same. -/
def Calm (guise : Guise) (state : State) (answer : Reply Instruction Site × Counts × State) :
    Prop :=
  (guise.machine.settings = none ∧ Machine.Fits guise.machine state.machine) ∨
    ∀ mode record, answer.1 ≠ .throw mode record

variable {guise state} in
theorem runMethod_under (r : Ref) (method : UInt64) (announced : Bool) (height : Nat)
    (counts : Counts)
    (calm : Calm guise state (state.runMethod me r method announced height counts)) :
    (state.under guise).runMethod me r method announced height counts =
      guise.answer (state.runMethod me r method announced height counts) := by
  have told (result : CallResult) :
      (if announced then (state.under guise).tell me
          (.called (MethodCode.text state.codeBase method) result)
        else (state.under guise).flushJournal me) =
      (if announced then state.tell me (.called (MethodCode.text state.codeBase method) result)
        else state.flushJournal me).under guise := by
    split
    · exact tell_under guise state me rfl
    · exact flushJournal_under guise state me
  have finished (result : CallResult) :=
    congrArg (fun told => ((.done, counts, told) : Reply Instruction Site × Counts × State))
      (told result)
  unfold runMethod at calm ⊢
  simp only [codeBase_under, firstField_under]
  split
  · exact finished _
  · next increment =>
    refine Prod.ext ?_ rfl
    cases announced <;> rfl
  · next throwing =>
    simp only [throwing] at calm
    obtain ⟨free, fits⟩ := calm.resolve_right fun never => never _ _ rfl
    exact throwReply_under me free fits r _ height counts
  · exact congrArg (fun told => ((.halted, counts, told) : Reply Instruction Site × Counts × State))
      ((congrArg (fun machine => ((state.under guise).setMachine machine).flushJournal me)
        (Machine.trap_under ..)).trans (flushJournal_under guise (state.setMachine _) me))
  · split
    · exact finished _
    · exact finished _
  · exact finished _

variable {guise state} in
theorem invoke_under (r : Ref) (interface : Option UInt64) (index : Nat) (announced : Bool)
    (height : Nat) (counts : Counts)
    (calm : Calm guise state (state.invoke me r interface index announced height counts)) :
    (state.under guise).invoke me r interface index announced height counts =
      guise.answer (state.invoke me r interface index announced height counts) := by
  cases interface with
  | none =>
    simp only [invoke_none, EntryPoint.vtableLookup, machine_under,
      Machine.vtableLookup_under] at calm ⊢
    exact runMethod_under me r _ announced height counts calm
  | some interface =>
    have kept := EntryPoint.settings_itableLookup state.machine r interface (UInt64.ofNat index)
    simp only [invoke_some, machine_under, EntryPoint.itableLookup_under, setMachine_under]
      at calm ⊢
    generalize EntryPoint.itableLookup state.machine r interface (UInt64.ofNat index) = found
      at kept calm ⊢
    refine runMethod_under me r _ announced height counts (calm.imp_left ?_)
    exact fun ⟨free, fits⟩ => ⟨free, fits.congr kept.1 kept.2⟩

/-! Steps that start threads, give them work and wait for them. -/

theorem answer_of_state (reply : Reply Instruction Site)
    (shown : (rerouting guise.route).reply reply = reply) (counts : Counts) {told after : State}
    (same : told = after.under guise) :
    ((reply, counts, told) : Reply Instruction Site × Counts × State) =
      guise.answer (reply, counts, after) := by
  rw [Guise.answer, shown, same]

theorem addThreads_under (fresh : Array Thread) :
    ({ state.under guise with
      threads := (state.under guise).threads ++ fresh.map guise.thread } : State) =
      ({ state with threads := state.threads ++ fresh } : State).under guise := by
  simp only [under, Array.map_append]

@[simp] theorem thread_stressThread (r : Ref) (index times : Nat) :
    guise.thread (stressThread r index times) = stressThread r index times := by
  have todo : ((List.replicate times (.act (.invoke r none index false)) ++ [.act .leaveThread] :
      List Step)).map (Step.reroute guise.route) =
        List.replicate times (.act (.invoke r none index false)) ++ [.act .leaveThread] := by
    simp only [List.map_append, List.map_replicate, List.map_cons, List.map_nil, Step.reroute,
      Instruction.reroute]
  simp only [Guise.thread, stressThread, Translation.strand, Translation.control, guise.empty]
  exact congrArg (fun todo => ({ strand := { control := .run todo } } : Thread)) todo

theorem stress_under (r : Ref) (index threads times : Nat) (counts : Counts) :
    (state.under guise).stress me r index threads times counts =
      guise.answer (state.stress me r index threads times counts) := by
  have waiting : (guise.thread (state.thread me)).waiting = (state.thread me).waiting := rfl
  let helpers := Array.replicate threads (stressThread r index times)
  have joined := addThreads_under guise state helpers
  have same : helpers.map guise.thread = helpers := by
    simp only [helpers, Array.map_replicate, thread_stressThread]
  rw [same] at joined
  simp only [stress, thread_under, waiting, setWaiting_under, firstField_under, machine_under,
    Machine.heap_under, Heap.monitor_renamed, Monitor.depth_renamed, size_under]
  split
  · exact answer_of_state guise .done rfl counts (tell_under guise _ me rfl)
  · refine answer_of_state guise .pending rfl counts ?_
    rw [← setWaiting_under]
    exact congrArg (setWaiting · me _) joined

@[simp] theorem nextJob_under (counts : Counts) :
    (state.under guise).nextJob me counts = guise.answer (state.nextJob me counts) := by
  have seen : (guise.thread (state.thread me)).toldToEnd = (state.thread me).toldToEnd ∧
      (guise.thread (state.thread me)).inbox =
        (state.thread me).inbox.map (·.map (Step.reroute guise.route)) := ⟨rfl, rfl⟩
  simp only [nextJob, thread_under, seen, setWaiting_under]
  split
  · rfl
  · cases (state.thread me).inbox with
    | none => rfl
    | some steps =>
      refine Prod.ext ?_ (Prod.ext rfl ?_)
      · simp only [Option.map_some, Guise.answer, Translation.reply, List.map_append]
        rfl
      · exact updateThread_under guise state me _ fun _ => rfl

@[simp] theorem jobDone_under : (state.under guise).jobDone me = (state.jobDone me).under guise :=
  updateThread_under guise state me _ fun _ => rfl

@[simp] theorem leaveThread_under :
    (state.under guise).leaveThread me = (state.leaveThread me).under guise :=
  updateThread_under guise state me _ fun _ => rfl

@[simp] theorem tellToEnd_under (index : Nat) :
    (state.under guise).tellToEnd index = (state.tellToEnd index).under guise :=
  updateThread_under guise state index _ fun _ => rfl

@[simp] theorem isFinished_under (index : Nat) :
    (state.under guise).isFinished index = state.isFinished index := by
  simp only [isFinished, thread_under]
  rfl

@[simp] theorem hasDied_under (index : Nat) :
    (state.under guise).hasDied index = state.hasDied index := by
  have control : (guise.thread (state.thread index)).strand.control =
      (rerouting guise.route).control (state.thread index).strand.control := rfl
  simp only [hasDied, thread_under, control]
  cases (state.thread index).strand.control <;> rfl

@[simp] theorem isGone_under (index : Nat) :
    (state.under guise).isGone index = state.isGone index := by
  simp only [isGone, thread_under]
  rfl

@[simp] theorem isOut_under (index : Nat) :
    (state.under guise).isOut index = state.isOut index := by
  simp only [isOut, hasDied_under, isGone_under]

@[simp] theorem dropJob_under (index : Nat) :
    (state.under guise).dropJob index = (state.dropJob index).under guise :=
  updateThread_under guise state index _ fun _ => rfl

@[simp] theorem collectJob_under (index : Nat) :
    (state.under guise).collectJob me index = (state.collectJob me index).under guise := by
  have told : (guise.thread (state.thread index)).told =
      (state.thread index).told.filterMap guise.entry := rfl
  simp only [collectJob, thread_under, told, dropJob_under, ← List.filterMap_reverse]
  exact tellAll_under guise (state.dropJob index) me _

@[simp] theorem jobOutcome_under (index : Nat) (label verb : String) :
    (state.under guise).jobOutcome me index label verb =
      (state.jobOutcome me index label verb).under guise := by
  simp only [jobOutcome, isFinished_under, isOut_under, collectJob_under, dropJob_under]
  split
  · rfl
  · split
    · exact tellEntry_under guise _ me rfl
    · exact tellEntry_under guise _ me rfl

/-- The work that is handed out takes the routes of the guise. -/
theorem assign_under (label verb : String) (patience : Nat) (steps : List Step)
    (counts : Counts) :
    (state.under guise).assign me label verb patience (rerouteAll guise.route steps) counts =
      guise.answer (state.assign me label verb patience steps counts) := by
  have waiting : (guise.thread (state.thread me)).waiting = (state.thread me).waiting := rfl
  simp only [assign, indexOf?_under, thread_under, waiting, setWaiting_under, clock_under,
    rerouteAll_eq_map]
  cases state.indexOf? label with
  | none => rfl
  | some index =>
    dsimp only
    split
    · exact answer_of_state guise .done rfl counts (jobOutcome_under guise _ me index label verb)
    · refine answer_of_state guise .pending rfl counts ?_
      rw [← setWaiting_under]
      exact congrArg (setWaiting · me _) (updateThread_under_of guise state fun _ => rfl)

@[simp] theorem await_under (label : String) (counts : Counts) :
    (state.under guise).await me label counts = guise.answer (state.await me label counts) := by
  have waiting : (guise.thread (state.thread me)).waiting = (state.thread me).waiting := rfl
  have job (index : Nat) : (guise.thread (state.thread index)).job = (state.thread index).job := rfl
  have resumed := @tellEntry_under guise (state.setWaiting me .ready) me ⟨none, .resumed label⟩ rfl
  simp only [await, indexOf?_under, thread_under, waiting, job, setWaiting_under, resumed]
  cases state.indexOf? label with
  | none => rfl
  | some index =>
    dsimp only
    split
    · exact answer_of_state guise .done rfl counts (jobOutcome_under guise _ me index label _)
    · rfl

@[simp] theorem finishedJobs_under :
    (state.under guise).finishedJobs = state.finishedJobs := by
  have finished : (state.under guise).isFinished = state.isFinished :=
    funext (isFinished_under guise state)
  simp only [finishedJobs, size_under, finished]

@[simp] theorem awaitFinished_under (count : Nat) (counts : Counts) :
    (state.under guise).awaitFinished me count counts =
      guise.answer (state.awaitFinished me count counts) := by
  simp only [awaitFinished, finishedJobs_under, setWaiting_under]
  split <;> rfl

@[simp] theorem collectFinished_under :
    (state.under guise).collectFinished me = (state.collectFinished me).under guise := by
  simp only [collectFinished, finishedJobs_under,
    foldl_under guise state dropJob fun state index => dropJob_under guise state index]
  exact tellEntry_under guise _ me rfl

@[simp] theorem settle_under (milliseconds : Nat) (counts : Counts) :
    (state.under guise).settle me milliseconds counts =
      guise.answer (state.settle me milliseconds counts) := by
  have waiting : (guise.thread (state.thread me)).waiting = (state.thread me).waiting := rfl
  simp only [settle, thread_under, waiting, setWaiting_under, clock_under]
  split <;> rfl

@[simp] theorem still_under (label : String) :
    (state.under guise).still me label = (state.still me label).under guise := by
  simp only [still, indexOf?_under, isFinished_under]
  cases state.indexOf? label with
  | none => rfl
  | some index =>
    dsimp only
    split
    · rfl
    · exact tellEntry_under guise _ me rfl

theorem continueJoin_under (index : Nat) (deadline : Option Nat) (counts : Counts)
    {finish : Bool → State → State}
    (same : ∀ ended state, finish ended (state.under guise) = (finish ended state).under guise) :
    (state.under guise).continueJoin me index deadline counts finish =
      guise.answer (state.continueJoin me index deadline counts finish) := by
  have completion : (guise.thread (state.thread index)).completion =
      (state.thread index).completion := rfl
  simp only [continueJoin, thread_under, completion, setWaiting_under]
  split
  · next ended _ =>
    have forgotten := updateThread_under guise state index (fun thread =>
      { thread with completion := thread.completion.setCaller me .idle }) fun _ => rfl
    refine answer_of_state guise .done rfl counts ?_
    rw [forgotten, setWaiting_under, same]
  · rfl

theorem joinThread_under (label : String) (limit : Option Nat) (counts : Counts)
    {finish : Bool → State → State}
    (same : ∀ ended state, finish ended (state.under guise) = (finish ended state).under guise) :
    (state.under guise).joinThread me label limit counts finish =
      guise.answer (state.joinThread me label limit counts finish) := by
  have waiting : (guise.thread (state.thread me)).waiting = (state.thread me).waiting := rfl
  simp only [joinThread, indexOf?_under, thread_under, waiting, clock_under]
  cases state.indexOf? label with
  | none => rfl
  | some index =>
    dsimp only
    split
    · next deadline _ =>
      have resumed := updateThread_under guise state index (fun thread =>
        { thread with completion := (if deadline.any (· ≤ state.clock) then
            thread.completion.expire me else thread.completion).advanceCaller me 4 }) fun _ => rfl
      exact (congrArg (continueJoin · me index deadline counts finish) resumed).trans
        (continueJoin_under guise _ me index deadline counts same)
    · have begun (joining : Completion → Completion) :=
        (congrArg (continueJoin · me index (limit.map (state.clock + ·)) counts finish)
          (updateThread_under guise state index (fun thread =>
            { thread with completion := joining thread.completion }) fun _ => rfl)).trans
          (continueJoin_under guise _ me index _ counts same)
      cases limit with
      | none => exact begun (·.join me)
      | some _ => exact begun (·.joinTimed me)

@[simp] theorem tellLabelToEnd_under (label : String) :
    ((state.indexOf? label).map (state.under guise).tellToEnd).getD (state.under guise) =
      (((state.indexOf? label).map state.tellToEnd).getD state).under guise := by
  cases state.indexOf? label with
  | none => rfl
  | some index => exact tellToEnd_under guise state index

@[simp] theorem join_under (label : String) (counts : Counts) :
    (state.under guise).join me label counts = guise.answer (state.join me label counts) := by
  simp only [join, indexOf?_under, tellLabelToEnd_under]
  exact joinThread_under guise _ me label none counts fun _ state => tell_under guise state me rfl

@[simp] theorem joinTimeout_under (label : String) (milliseconds : Nat) (counts : Counts) :
    (state.under guise).joinTimeout me label milliseconds counts =
      guise.answer (state.joinTimeout me label milliseconds counts) :=
  joinThread_under guise state me label _ counts fun _ state => tell_under guise state me rfl

@[simp] theorem joinMany_under (label : String) (threads : Nat) (limit : Option Nat)
    (counts : Counts) :
    (state.under guise).joinMany me label threads limit counts =
      guise.answer (state.joinMany me label threads limit counts) := by
  have waiting : (guise.thread (state.thread me)).waiting = (state.thread me).waiting := rfl
  simp only [joinMany, indexOf?_under, thread_under, waiting, isGone_under, tellToEnd_under,
    setWaiting_under, clock_under]
  cases state.indexOf? label with
  | none => rfl
  | some index =>
    dsimp only
    split
    · exact answer_of_state guise .done rfl counts (tell_under guise _ me rfl)
    · rfl

@[simp] theorem finish_under (label : String) :
    (state.under guise).finish me label = (state.finish me label).under guise := by
  simp only [finish, indexOf?_under, tellLabelToEnd_under]
  exact tell_under guise _ me rfl

/-! Steps that ask for tokens, where the guise leaves those as they are. -/

section
variable {guise state} (same : guise.SameTokens)
include same

theorem draw_under : draw me (state.under guise) = (draw me state).under guise :=
  congrArg Prod.snd (currentToken_under guise state me same)

theorem setTokens_under (tokens : TokenCounter) :
    { state.machine.under guise.machine with tokens } =
      { state.machine with tokens }.under guise.machine := by
  simp only [Machine.under, same.counter, Option.getD_none]

theorem askToken_under (label : String) :
    (state.under guise).askToken me label = (state.askToken me label).under guise := by
  simp only [askToken, currentToken_under guise state me same]
  have kept (token : Token) : guise.machine.rename token = token := by
    rw [same.rename, Rename.same_apply]
  have named := Machine.addLabel_under guise.machine (state.currentToken me).2.machine
    (state.currentToken me).1 label
  rw [kept] at named
  exact congrArg (setMachine _) named

/-- A name is told by a guise as it is told without, if its record is worded alike. -/
theorem setOwnName_under
    (known : guise.machine.level.admits .trace = true ∨ state.machine.wordsRecords .trace = false)
    (name : String) :
    (state.under guise).setOwnName me name =
      ((state.setOwnName me name).1, (state.setOwnName me name).2.under guise) := by
  have worded : (state.machine.under guise.machine).wordsRecords .trace =
      state.machine.wordsRecords .trace := by
    rw [Machine.wordsRecords_under]
    rcases known with admitted | unworded
    · rw [admitted, Bool.and_true]
    · rw [unworded, Bool.false_and]
  have kept (token : Token) : guise.machine.rename token = token := by
    rw [same.rename, Rename.same_apply]
  have asked (worded : Bool) : (state.under guise).tokenToWord me worded =
      ((state.tokenToWord me worded).1, (state.tokenToWord me worded).2.under guise) := by
    cases worded with
    | true =>
      rw [tokenToWord_true, tokenToWord_true, currentToken_under guise state me same,
        draw_under me same]
    | false =>
      rw [tokenToWord_false, tokenToWord_false]
      refine Prod.ext ?_ rfl
      simp only [token, thread_under, Guise.thread, same.cell, id]
  have own : (guise.thread (state.thread me)).ownName = (state.thread me).ownName := rfl
  simp only [setOwnName, thread_under, own, machine_under, worded, asked]
  cases (state.thread me).ownName with
  | some given => rfl
  | none =>
    have named := nameAs_under guise (state.tokenToWord me (state.machine.wordsRecords .trace)).2 me
      (state.tokenToWord me (state.machine.wordsRecords .trace)).1 name
    rw [kept] at named
    exact Prod.ext rfl named

theorem setName_under
    (known : guise.machine.level.admits .trace = true ∨ state.machine.wordsRecords .trace = false)
    (name : String) :
    (state.under guise).setName me name = (state.setName me name).under guise := by
  simp only [setName, setOwnName_under me same known, currentName_under]
  exact tell_under guise _ me rfl

theorem compareTokens_under :
    (state.under guise).compareTokens me = (state.compareTokens me).under guise := by
  have counter (machine : Machine) : (machine.under guise.machine).tokens = machine.tokens := by
    rw [Machine.tokens_under, same.counter, Option.getD_none]
  simp only [compareTokens, currentToken_under _ _ _ same, machine_under, counter,
    setTokens_under same, setMachine_under]
  exact tell_under guise _ me rfl

end

theorem reroute_threadProgram (route : Route → Route) (managed : Bool) :
    (threadProgram managed).map (Step.reroute route) = threadProgram managed := by
  cases managed <;>
    simp only [threadProgram, List.map_append, List.map_cons, List.map_nil, Step.reroute,
      rerouteAll, Instruction.reroute, Site.reroute, if_true, Bool.false_eq_true, if_false]

theorem withThread_under (label : String) (name : Option String) (managed : Bool) :
    (state.under guise).withThread me label name managed =
      (state.withThread me label name managed).under guise := by
  let fresh := freshThread label name managed
  have same : guise.thread fresh = fresh := by
    simp only [Guise.thread, fresh, freshThread, Translation.strand, Translation.control,
      guise.empty]
    exact congrArg (fun todo => ({ fresh with strand := { control := .run todo } } : Thread))
      (reroute_threadProgram guise.route managed)
  rw [withThread, flushJournal_under]
  simp only [withThread, under, Array.map_push]
  exact same ▸ rfl

/-- Who starts a thread goes on when the thread is named and asked for its token. -/
def announce (index : Nat) (label : String) : State :=
  (state.flushJournal index).tell me (.labelled "spawn" label)

theorem spawn_eq (label : String) (name : Option String) (managed asked : Bool) :
    let started := (state.withThread me label name managed).nameStarted state.threads.size managed
      name
    state.spawn me label name managed asked =
      (if asked then started.askToken state.threads.size label else started).announce me
        state.threads.size label := rfl

theorem announce_under (index : Nat) (label : String) :
    (state.under guise).announce me index label = (state.announce me index label).under guise := by
  simp only [announce, flushJournal_under]
  exact tell_under guise _ me rfl

variable {guise state} in
theorem spawn_under (same : guise.SameTokens)
    (known : guise.machine.level.admits .trace = true ∨ state.machine.wordsRecords .trace = false)
    (label : String) (name : Option String) (managed asked : Bool) :
    (state.under guise).spawn me label name managed asked =
      (state.spawn me label name managed asked).under guise := by
  let index := state.threads.size
  let started : State := state.withThread me label name managed
  have machine : started.machine = { state.machine with journal := [] } :=
    machine_flushJournal state me
  have known : guise.machine.level.admits .trace = true ∨
      started.machine.wordsRecords .trace = false := machine ▸ known
  have named : (started.under guise).nameStarted index managed name =
      (started.nameStarted index managed name).under guise := by
    cases managed with
    | false => rfl
    | true =>
      cases name with
      | none => rfl
      | some name => exact congrArg Prod.snd (setOwnName_under index same known name)
  have joined := withThread_under guise state me label name managed
  rw [spawn_eq, spawn_eq, size_under, joined, named]
  cases asked with
  | false => exact announce_under ..
  | true =>
    simp only [if_true, askToken_under _ same]
    exact announce_under ..

/-! Steps on exceptions, programs and settings. -/

@[simp] theorem capture_under (name : String) (r : Ref) (depth : UInt64) (height : Nat)
    (counts : Counts) :
    (state.under guise).capture me name r depth height counts =
      ((state.capture me name r depth height counts).1,
        (state.capture me name r depth height counts).2.under guise) := by
  have texted (state : State) (text : String) :
      (if depth ≤ 3 then (state.under guise).tell me (.recordText text) else state.under guise) =
        (if depth ≤ 3 then state.tell me (.recordText text) else state).under guise := by
    split
    · exact tell_under guise state me rfl
    · rfl
  have captured := tell_under guise state me
    (Eq.refl (Event.captured (state.recordView (.capture r depth (stackOf height))
      counts.capture)).isPlain)
  simp only [capture, recordView_under, records_under, captured, texted]
  cases state.records.lookup name with
  | none => rfl
  | some previous =>
    refine Prod.ext rfl ?_
    refine (congrArg (flushJournal · me) ?_).trans (flushJournal_under guise _ me)
    exact congrArg (setMachine _) (Machine.logReleased_under ..)

@[simp] theorem takeRecord_under (name : String) :
    (state.under guise).takeRecord name =
      ((state.takeRecord name).1, (state.takeRecord name).2.under guise) := rfl

@[simp] theorem releaseRecord_under (name : String) (counts : Counts) :
    (state.under guise).releaseRecord me name counts =
      ((state.releaseRecord me name counts).1,
        (state.releaseRecord me name counts).2.under guise) := by
  simp only [releaseRecord, takeRecord_under]
  rcases state.takeRecord name with ⟨record, state⟩
  cases record with
  | none => rfl
  | some record =>
    simp only [machine_under, Machine.logReleased_under, setMachine_under]
    exact Prod.ext rfl (tell_under guise _ me rfl)

@[simp] theorem enterProgram_under (name : Option String) (counts : Counts) :
    (state.under guise).enterProgram me name counts =
      (state.enterProgram me name counts).under guise := by
  have arguments : (guise.thread (state.thread me)).arguments = (state.thread me).arguments := rfl
  cases name with
  | none =>
    simp only [enterProgram, currentName_under]
    exact tell_under guise _ me rfl
  | some name =>
    simp only [enterProgram, thread_under, arguments, bind_under, currentName_under]
    exact tell_under guise _ me rfl

variable {guise state} in
/-- Settings that are in force stay, and so do those that are forced. -/
theorem setConfig_under (fits : Machine.Fits guise.machine state.machine) (settings : Settings) :
    (state.under guise).setConfig me settings = (state.setConfig me settings).under guise := by
  cases forced : guise.machine.settings with
  | none =>
    have installed := Machine.configure_free forced state.machine settings
    simp only [setConfig, machine_under, installed]
    cases state.machine.configure settings with
    | error fault => exact tell_under guise state me rfl
    | ok machine => exact tell_under guise (state.setMachine machine) me rfl
  | some cell =>
    obtain ⟨held, mode, own, installed⟩ := fits.installed cell forced
    have refused (machine : Machine) (settings held : Settings)
        (installed : machine.settings.installed = some held) :
        machine.configure settings = .error .alreadyInstalled := by
      simp only [Machine.configure, SettingsCell.install, installed]
      rfl
    have there : (state.machine.under guise.machine).settings.installed = some held := by
      simp only [Machine.under, forced, Option.getD_some, own]
    simp only [setConfig, machine_under, refused _ _ _ installed, refused _ _ _ there]
    exact tell_under guise state me rfl

@[simp] theorem unimplemented_under (symbol : String) :
    (state.under guise).unimplemented symbol = (state.unimplemented symbol).under guise := by
  simp only [unimplemented, machine_under]
  cases Native.lookup? symbol with
  | none => rfl
  | some stub => exact congrArg (state.under guise).setMachine (Machine.trap_under ..)

@[simp] theorem done_under (counts : Counts) :
    done me counts (state.under guise) = guise.answer (done me counts state) := by
  simp only [done, flushJournal_under, machine_under, Machine.ended_under]
  split <;> rfl

/-! Steps that read the settings, when none are forced. -/

section
variable {guise state}

theorem tellConfig_under (free : guise.machine.settings = none)
    (fits : Machine.Fits guise.machine state.machine) :
    (state.under guise).tellConfig me = (state.tellConfig me).under guise := by
  simp only [tellConfig, machine_under, Machine.readSettings_free fits free, setMachine_under]
  exact tell_under guise _ me rfl

theorem startUp_under (same : guise.SameTokens) (suits : Machine.Suits guise.machine state.machine)
    (known : guise.machine.level.admits .trace = true ∨ Machine.Untraced state.machine)
    (arguments : List (List UInt8)) (count : Nat) :
    ((state.under guise).startUp me arguments count).2 =
      (state.startUp me arguments count).2.under guise := by
  let begun := state.setMachine (state.machine.beginStart count)
  have known : guise.machine.level.admits .trace = true ∨
      begun.machine.wordsRecords .trace = false :=
    known.imp_right fun untraced => untraced.beginStart count
  have named := congrArg Prod.snd (setOwnName_under me same known "main")
  rw [startUp_snd, startUp_snd, namedMain, machine_under, suits.beginStart,
    setMachine_under, named, takeArguments_under, namedMain]

/-- The entry of a program takes the routes of the guise. -/
theorem startProgram_under (same : guise.SameTokens)
    (suits : Machine.Suits guise.machine state.machine)
    (known : guise.machine.level.admits .trace = true ∨ Machine.Untraced state.machine)
    (arguments : List (List UInt8)) (count : Nat) (name : Option String) (route : Route)
    (body : List Step) (counts : Counts) :
    (state.under guise).startProgram me arguments count name (guise.route route)
        (rerouteAll guise.route body) counts =
      guise.answer (state.startProgram me arguments count name route body counts) := by
  have prepared := startUp_under me same suits known arguments count
  simp only [startProgram_eq, prepared, machine_under, Machine.ended_under]
  by_cases stopped : (state.startUp me arguments count).2.machine.ended.isSome = true
  · rw [if_pos stopped, if_pos stopped]
    rfl
  · rw [if_neg stopped, if_neg stopped, ← rerouteAll_entrySteps, rerouteAll_eq_map]
    rfl

end

end

end State

/-- Carries routes along, or tells the one that was taken. -/
def Instruction.namesRoutes : Instruction → Bool
  | .assign _ _ _ _ | .start _ _ _ _ _ | .started _ => true
  | _ => false

/-- Tells or logs all settings, not only what comes of them. -/
def Instruction.showsSettings : Instruction → Bool
  | .config | .start _ _ _ _ _ => true
  | _ => false

/-- May read or install the settings, even if it throws nothing. -/
def Instruction.consults : Instruction → Bool
  | .config | .configure _ | .start _ _ _ _ _ | .monitor _ _ _ _ | .lock _ | .unlock _ => true
  | _ => false

/-- Installs a logger, if there is none. -/
def Instruction.startsLogging : Instruction → Bool
  | .initLogging | .start _ _ _ _ _ => true
  | _ => false

/-- Gives a thread a name. -/
def Instruction.namesThread : Instruction → Bool
  | .setName _ | .start _ _ _ _ _ | .spawn _ _ _ _ => true
  | _ => false

/-- What an instruction asks of a guise to do in it what it does without. -/
structure Guise.Allows (guise : Guise) (state : State) (me : Nat) (counts : Counts) (height : Nat)
    (instruction : Instruction) : Prop where
  /-- Only throws ask how to throw. -/
  calm : State.Calm guise state ((State.host me).perform counts height instruction state)
  fits : instruction.consults = true → Machine.Fits guise.machine state.machine
  unseen : instruction.showsSettings = true → guise.machine.settings = none
  logs : instruction.startsLogging = true → Machine.Logs guise.machine state.machine
  tokens : instruction.asksToken = true ∨ instruction.namesThread = true → guise.SameTokens
  known : instruction.namesThread = true →
    guise.machine.level.admits .trace = true ∨ Machine.Untraced state.machine

namespace Guise
variable {guise : Guise} {state : State}

/-- Instructions that have nothing to do with tokens are allowed as long as the settings are left to
the process. -/
theorem allows_of_silent (suits : Machine.Suits guise.machine state.machine) (me : Nat)
    (counts : Counts) (height : Nat) {instruction : Instruction}
    (silent : instruction.asksToken = false) (nameless : instruction.namesThread = false) :
    guise.Allows state me counts height instruction where
  calm := .inl ⟨suits.free, suits.fits⟩
  fits _ := suits.fits
  unseen _ := suits.free
  logs _ := suits.logs
  tokens asks := by
    rw [silent, nameless] at asks
    exact asks.elim nofun nofun
  known names := by
    rw [nameless] at names
    cases names

/-- Everything is allowed if tokens stay the same and names are told alike. -/
theorem allows_of_suits (same : guise.SameTokens)
    (suits : Machine.Suits guise.machine state.machine)
    (known : guise.machine.level.admits .trace = true ∨ Machine.Untraced state.machine)
    (me : Nat) (counts : Counts) (height : Nat) (instruction : Instruction) :
    guise.Allows state me counts height instruction where
  calm := .inl ⟨suits.free, suits.fits⟩
  fits _ := suits.fits
  unseen _ := suits.free
  logs _ := suits.logs
  tokens _ := same
  known _ := known

theorem allows_of_alike (same : guise.SameTokens) (alike : guise.machine.Alike state.machine)
    (me : Nat) (counts : Counts) (height : Nat) (instruction : Instruction) :
    guise.Allows state me counts height instruction :=
  allows_of_suits same alike.suits (.inl (alike.level ▸ Threshold.admits_all .trace)) ..

/-- A guise that leaves the process as it is allows everything. -/
theorem allows_of_plain (plain : guise.machine = {}) (cell : guise.cell = id)
    (state : State) (me : Nat) (counts : Counts) (height : Nat) (instruction : Instruction) :
    guise.Allows state me counts height instruction := by
  have alike : guise.machine.Alike state.machine := by
    rw [plain]
    exact ⟨rfl, rfl, rfl, rfl, .inl rfl⟩
  exact allows_of_alike
    ⟨cell, congrArg Machine.Guise.rename plain, congrArg Machine.Guise.tokens plain⟩ alike ..

end Guise

/-- Does something with its thread's token. -/
def Instruction.usesToken : Instruction → Bool
  | .object _ _ _ _ | .monitor _ _ _ _ | .lock _ | .unlock _ => true
  | _ => false

namespace State

section
variable {guise : Guise} {state : State}

/-- A program that is started in a guise takes its routes. -/
theorem perform_start_under {me : Nat} {counts : Counts} {height : Nat}
    {arguments : List (List UInt8)} {count : Nat} {name : Option String} {route : Route}
    {body : List Step}
    (allows : guise.Allows state me counts height (.start arguments count name route body)) :
    (host me).perform counts height
        (.start arguments count name (guise.route route) (rerouteAll guise.route body))
        (state.under guise) =
      guise.answer
        ((host me).perform counts height (.start arguments count name route body) state) :=
  startProgram_under me (allows.tokens (.inr rfl))
    ⟨allows.unseen rfl, allows.fits rfl, allows.logs rfl⟩ (allows.known rfl) arguments count name
    route body counts

/-- What an instruction does that is given its thread's token. -/
def performAs (me : Nat) (token : Token) (counts : Counts) (instruction : Instruction)
    (state : State) : Reply Instruction Site × Counts × State :=
  match instruction with
  | .object name size table route =>
    done me counts (state.makeObjectAs me token name size table route)
  | .monitor verb name route quiet =>
    let r := state.reference name
    state.useMonitorAs me token r verb route counts fun later =>
      later.tell me (if quiet then .plain verb.name else monitorEvent verb.name r.object token
        later)
  | .lock receiver => state.useMonitorAs me token receiver .enter .entryPoint counts id
  | .unlock receiver => state.useMonitorAs me token receiver .exit .entryPoint counts id
  | _ => done me counts state

theorem perform_of_usesToken {instruction : Instruction} (uses : instruction.usesToken = true)
    (state : State) (me : Nat) (counts : Counts) (height : Nat) :
    (host me).perform counts height instruction state =
      performAs me (state.currentToken me).1 counts instruction (draw me state) := by
  cases instruction with
  | object | monitor | lock | unlock => rfl
  | _ => cases uses

theorem performAs_under (me : Nat) (token : Token) (counts : Counts) {instruction : Instruction}
    (fits : instruction.consults = true → Machine.Fits guise.machine state.machine) :
    performAs me (guise.machine.rename token) counts instruction (state.under guise) =
      guise.answer (performAs me token counts instruction state) := by
  cases instruction with
  | object name size table route =>
    simp only [performAs, makeObjectAs_under, done_under]
  | monitor verb name route quiet =>
    refine useMonitorAs_under me (fits rfl) token _ verb route counts fun later => ?_
    cases quiet with
    | true => exact tell_under guise later me rfl
    | false =>
      refine (congrArg ((later.under guise).tell me) (monitorEvent_under ..)).trans ?_
      exact tell_under guise later me rfl
  | lock receiver =>
    exact useMonitorAs_under me (fits rfl) token receiver .enter .entryPoint counts fun _ => rfl
  | unlock receiver =>
    exact useMonitorAs_under me (fits rfl) token receiver .exit .entryPoint counts fun _ => rfl
  | _ => exact done_under guise state me counts

/-- An instruction that is carried out in a guise. -/
theorem perform_under {me : Nat} {counts : Counts} {height : Nat} {instruction : Instruction}
    (allows : guise.Allows state me counts height instruction)
    (fixed : instruction.namesRoutes = false) :
    (host me).perform counts height instruction (state.under guise) =
      guise.answer ((host me).perform counts height instruction state) := by
  have finished {told after : State} (same : told = after.under guise) :
      done me counts told = guise.answer (done me counts after) :=
    same ▸ done_under guise after me counts
  have used (uses : instruction.usesToken = true) (same : guise.SameTokens) :
      (host me).perform counts height instruction (state.under guise) =
        guise.answer ((host me).perform counts height instruction state) := by
    have kept (token : Token) : guise.machine.rename token = token := by
      rw [same.rename, Rename.same_apply]
    have performed := @performAs_under guise (draw me state) me (state.currentToken me).1 counts
      instruction fun consults => (allows.fits consults).congr rfl rfl
    rw [perform_of_usesToken uses, perform_of_usesToken uses, draw_under me same,
      currentToken_under guise state me same, ← performed, kept]
  cases instruction with
  | object | monitor | lock | unlock => exact used rfl (allows.tokens (.inl rfl))
  | token => exact finished (compareTokens_under me (allows.tokens (.inl rfl)))
  | assign | start | started => cases fixed
  | throw name route =>
    obtain ⟨free, fits⟩ := allows.calm.resolve_right fun never => by
      cases route <;> exact never _ _ rfl
    exact throwReply_under me free fits _ route height counts
  | rethrowLevel nest =>
    obtain ⟨free, fits⟩ := allows.calm.resolve_right fun never => never _ _ rfl
    exact throwReply_under me free fits _ .direct height counts
  | call name interface index | invoke receiver interface index announced =>
    exact invoke_under me _ interface index _ height counts allows.calm
  | setName name =>
    have known := (allows.known rfl).imp_right Machine.Untraced.unworded
    exact finished (setName_under me (allows.tokens (.inr rfl)) known name)
  | spawn label name managed asked =>
    have known := (allows.known rfl).imp_right Machine.Untraced.unworded
    exact finished (spawn_under me (allows.tokens (.inr rfl)) known label name managed asked)
  | config => exact finished (tellConfig_under me (allows.unseen rfl) (allows.fits rfl))
  | configure settings => exact finished (setConfig_under me (allows.fits rfl) settings)
  | stress name index threads times =>
    exact stress_under guise state me _ index threads times counts
  | foreign | raise => rfl
  | abstract route =>
    refine finished ?_
    cases route <;> exact congrArg (state.under guise).setMachine (Machine.trap_under ..)
  | capture name reference depth =>
    have captured := capture_under guise state me name (state.reference reference) depth height
      counts
    simp only [host, perform, reference_under, captured]
    exact done_under ..
  | release name =>
    simp only [host, perform, releaseRecord_under]
    exact done_under ..
  | raiseCaptured name =>
    simp only [host, perform, takeRecord_under]
    rcases state.takeRecord name with ⟨record, later⟩
    cases record <;> rfl
  | info name =>
    refine finished ?_
    rw [reference_under, referenceView_under]
    exact tell_under guise state me rfl
  | getName =>
    refine finished ?_
    rw [currentName_under]
    exact tell_under guise state me rfl
  | same | tellCall | tellNest | speak | state | registerNatives | tell =>
    exact finished (tell_under guise state me rfl)
  | breakOutput =>
    refine finished ((congrArg (fun machine => ((state.under guise).setMachine machine).tell me _)
      (Machine.breakOutput_under ..)).trans (tell_under guise (state.setMachine _) me rfl))
  | initLogging =>
    refine finished ((congrArg (fun machine => ((state.under guise).setMachine machine).tell me _)
      (Machine.initLogging_under (allows.logs rfl))).trans
        (tell_under guise (state.setMachine _) me rfl))
  | _ =>
    simp only [host, perform, reference_under, makeTable_under, makeArray_under,
      setArrayTable_under, writeBytes_under, readBytes_under, arrayInfo_under, copyArray_under,
      stats_under, vtableLookup_under, itableLookup_under, loadField_under, storeField_under,
      unimplemented_under, makeString_under, println_under, marshal_under, tellArguments_under,
      bindArgument_under, enterProgram_under, join_under, finish_under, joinTimeout_under,
      joinMany_under, settle_under,
      await_under, awaitFinished_under, collectFinished_under, still_under, nextJob_under,
      jobDone_under, leaveThread_under, done_under]

end

end State

/-- Tells of a region that it is over. -/
def regionOver : Signal Site → Bool
  | .regionLeft (.attempt _ _ _) _ => true
  | _ => false

namespace State

section
variable (guise : Guise) (state : State) (me : Nat)

theorem regionLeft_under (counts : Counts) {site : Site} (caught : Option Ref)
    (other : ∀ taken name ignore, site ≠ .attempt taken name ignore) :
    (state.under guise).regionLeft me counts (site.reroute guise.route) caught =
      (state.regionLeft me counts site caught).under guise := by
  cases site with
  | attempt taken name ignore => exact absurd rfl (other taken name ignore)
  | level nest => cases caught <;> rfl
  | guarded | intercept | outermost | entry | threadBottom | levelFrame => rfl

/-- A region that binds what it catches, when its owner sees that at once. -/
theorem regionLeft_attempt_under (counts : Counts) (name : Option String) (ignore : Bool)
    (seen : Option Ref) :
    (state.under guise).regionLeft me counts (.attempt .direct name ignore) seen =
      (state.regionLeft me counts (.attempt .direct name ignore) seen).under guise := by
  have told := tell_under guise state me
    (show (Event.attempt (seen.map state.nameOf) counts).isPlain = true from rfl)
  cases seen with
  | none => exact told
  | some r =>
    cases name with
    | none => exact told
    | some name => exact congrArg (fun told : State => told.bind name r) told

/-- What a thread tells about its frames and exceptions, but for the end of a region that binds
what it catches. -/
theorem hear_under (counts : Counts) {signal : Signal Site} (other : regionOver signal = false) :
    (host me).signal counts ((rerouting guise.route).signal signal) (state.under guise) =
      ((host me).signal counts signal state).under guise := by
  cases signal with
  | regionLeft site caught =>
    refine regionLeft_under guise state me counts caught ?_
    rintro taken name ignore rfl
    cases other
  | cleaning site =>
    cases site with
    | guarded label => exact tell_under guise state me rfl
    | levelFrame nest => rfl
    | attempt | intercept | outermost | entry | threadBottom | level => rfl
  | outermostLeft site =>
    cases site with
    | outermost => exact tell_under guise state me rfl
    | attempt | guarded | intercept | entry | threadBottom | level | levelFrame => rfl
  | intercepted site payload =>
    cases payload with
    | none => exact tell_under guise state me rfl
    | some payload => cases payload <;> exact tell_under guise state me rfl
  | interceptLeft | endOfStack => exact tell_under guise state me rfl
  | raising throwable =>
    exact (congrArg (fun machine => ((state.under guise).setMachine machine).flushJournal me)
      (Machine.logRaising_under ..)).trans (flushJournal_under guise (state.setMachine _) me)
  | caught throwable =>
    exact (congrArg (fun machine => ((state.under guise).setMachine machine).flushJournal me)
      (Machine.logCaught_under ..)).trans (flushJournal_under guise (state.setMachine _) me)
  | released record =>
    exact (congrArg (fun machine => ((state.under guise).setMachine machine).flushJournal me)
      (Machine.logReleased_under ..)).trans (flushJournal_under guise (state.setMachine _) me)
  | uncaught record =>
    have reported : (state.machine.under guise.machine).reportUncaught
          ((state.under guise).currentName me) record =
        (state.machine.reportUncaught (state.currentName me) record).under guise.machine := by
      rw [currentName_under, Machine.reportUncaught_under]
    exact (congrArg (fun machine => ((state.under guise).setMachine machine).flushJournal me)
      reported).trans (flushJournal_under guise (state.setMachine _) me)
  | exited =>
    exact (congrArg (fun machine => ((state.under guise).setMachine machine).flushJournal me)
      (Machine.exit_under ..)).trans (flushJournal_under guise (state.setMachine _) me)
  | foreignAtBottom =>
    exact (congrArg (fun machine => ((state.under guise).setMachine machine).flushJournal me)
      (Machine.trap_under ..)).trans (flushJournal_under guise (state.setMachine _) me)
  | cleanupEscaped =>
    exact (congrArg (fun machine => ((state.under guise).setMachine machine).flushJournal me)
      (Machine.abort_under ..)).trans (flushJournal_under guise (state.setMachine _) me)

/-! Who runs next. -/

@[simp] theorem isActive_under (thread : Thread) :
    isActive (guise.thread thread) = isActive thread := by
  have control : (guise.thread thread).strand.control =
      (rerouting guise.route).control thread.strand.control := rfl
  simp only [isActive, control]
  cases thread.strand.control <;> rfl

@[simp] theorem deadline_under (thread : Thread) :
    deadline (guise.thread thread) = deadline thread := by
  have waiting : (guise.thread thread).waiting = thread.waiting := rfl
  simp only [deadline, isActive_under, waiting]

/-- Whether a thread may run depends on its token. -/
theorem isReady_under (tokens : guise.SameTokens) (index : Nat) (thread : Thread) :
    (state.under guise).isReady index (guise.thread thread) = state.isReady index thread := by
  have token : (guise.thread thread).token = thread.token := congrFun tokens.cell _
  have same : (guise.thread thread).waiting = thread.waiting ∧
      (guise.thread thread).toldToEnd = thread.toldToEnd ∧
      (guise.thread thread).inbox.isSome = thread.inbox.isSome :=
    ⟨rfl, rfl, Option.isSome_map⟩
  have completion (target : Nat) : (guise.thread (state.thread target)).completion =
      (state.thread target).completion := rfl
  have gone : (state.under guise).isGone = state.isGone := funext (isGone_under guise state)
  simp only [isReady, token, same, machine_under, Machine.monitorPhase, Machine.heap_under,
    tokens.rename, Heap.renamed_same, isPast, clock_under, thread_under, completion, gone,
    isFinished_under, isOut_under, finishedJobs_under]
  rfl

theorem choose_under (tokens : guise.SameTokens) : (state.under guise).choose = state.choose := by
  have able : (state.under guise).canRun = state.canRun := by
    funext index
    simp only [canRun, thread_under, isActive_under, isReady_under _ _ tokens]
  simp only [choose, able, running_under, size_under]

@[simp] theorem nextMoment_under : (state.under guise).nextMoment = state.nextMoment := by
  have deadlines : (state.under guise).threads.toList.filterMap deadline =
      state.threads.toList.filterMap deadline := by
    simp only [under, Array.toList_map, List.filterMap_map]
    exact congrArg (List.filterMap · _) (funext (deadline_under guise))
  simp only [nextMoment, deadlines, clock_under]
  rfl

@[simp] theorem isOver_under : (state.under guise).isOver = state.isOver := by
  simp only [isOver, machine_under, Machine.ended_under, thread_under, isActive_under]

@[simp] theorem buryThread_under (index : Nat) :
    (state.under guise).buryThread index = (state.buryThread index).under guise := by
  simp only [buryThread, hasDied_under, leaveThread_under]
  split <;> rfl

end

end State

end ManagedRuntime.Scenario
