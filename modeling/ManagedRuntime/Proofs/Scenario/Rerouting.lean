import ManagedRuntime.Proofs.Machine.EntryPoints
import ManagedRuntime.Proofs.Scenario.Attempts
import ManagedRuntime.Proofs.Scenario.Core
import ManagedRuntime.Proofs.Scenario.Exceptions
import ManagedRuntime.Proofs.Scenario.Parallel

/-! Programs that reach their operations by different routes. As long as no operation is refused
and nothing is looked up in vain, they go through the same states. -/
namespace ManagedRuntime.Scenario
open Exception

/-- A whole number that compiled code passes in 32 bits. -/
def FitsInt32 (number : Int) : Prop :=
  Int32.minValue.toInt ≤ number ∧ number ≤ Int32.maxValue.toInt

/-- The numbers of an operation fit the words in which every route passes them. -/
def Instruction.Fits : Instruction → Prop
  | .copy _ sourceStart _ destinationStart count _ =>
      FitsInt32 sourceStart ∧ FitsInt32 destinationStart ∧ FitsInt32 count
  | .vtableLookup _ index _ | .itableLookup _ _ index _ => index < UInt64.size
  | _ => True

namespace State

/-- The operation behind an instruction is refused, or it looks something up in vain. -/
def Fails (state : State) : Instruction → Prop
  | .object _ size table _ =>
      ∃ reason, (state.machine.newObject size (state.tableAddress table)).1 = .error reason
  | .array _ length width _ => ∃ reason, (state.machine.newArray length width).1 = .error reason
  | .copy source sourceStart destination destinationStart count _ =>
      ∃ reason, state.machine.copyArray (state.reference source) (.ofInt sourceStart)
        (state.reference destination) (.ofInt destinationStart) (.ofInt count) = .error reason
  | .itableLookup name interface index _ =>
      state.machine.itableLookup (state.reference name) interface index = none
  | _ => False

/-- What the scenario does next does not fail. -/
def GoesThrough (state : State) : Prop :=
  ∀ me instruction, state.upNext = some (me, instruction) →
    instruction.Fits ∧ ¬state.Fails instruction

end State

/-- Events that tell a route are not told, or tell all routes alike. -/
def Event.withoutRoute : Event → Option Event
  | .status _ => none
  | .started _ => some (.started none)
  | event => some event

theorem Event.withoutRoute_plain (event : Event) (plain : event.isPlain = true) :
    event.withoutRoute = some event := by
  cases event with
  | status | started | log => cases plain
  | _ => rfl

/-- All operations are reached directly, and nobody can tell how they were reached. -/
def unrouted : Guise where
  route := fun _ => .direct
  event := Event.withoutRoute
  plain := Event.withoutRoute_plain

/-- Nobody can tell how operations are reached. -/
def unrevealed : Guise where
  event := Event.withoutRoute
  plain := Event.withoutRoute_plain

/-- The same but for the routes. -/
def State.SameButRoutes (first second : State) : Prop :=
  first.under unrouted = second.under unrouted

/-- The same steps, some of them by other routes. A region that gives an entry point no place for
what it caught has no counterpart on another route. -/
def SameButRoutes (first second : List Step) : Prop :=
  rerouteAll unrouted.route first = rerouteAll unrouted.route second

/-! One operation by two routes. -/

namespace State

section
variable (state : State) (me : Nat)

theorem allocatedOrTrapped_of_ok (verb name : String) (event : Ref → State → Event)
    {outcome : Except Trap Ref × Machine} (done : ¬∃ reason, outcome.1 = .error reason) :
    state.allocatedOrTrapped me name event (EntryPoint.orTrap outcome) =
      state.allocated me verb name event outcome := by
  obtain ⟨made, machine⟩ := outcome
  cases made with
  | ok r => rfl
  | error reason => exact absurd ⟨reason, rfl⟩ done

/-- Only memory decides on whether an allocation is refused. -/
theorem newObject_of_heap {first second : Machine} (same : first.heap = second.heap)
    (size table : UInt64) : (first.newObject size table).1 = (second.newObject size table).1 := by
  simp only [Machine.newObject, same]
  cases second.heap.allocateObject size table with
  | ok placed => rfl
  | error fault => cases fault <;> rfl

theorem makeObject_direct (name : String) (size : UInt64) (table : Option String) (route : Route)
    (done : ¬state.Fails (.object name size table route)) :
    state.makeObject me name size table route = state.makeObject me name size table .direct := by
  cases route with
  | direct | stub => rfl
  | entryPoint =>
    have same := @newObject_of_heap (state.currentToken me).2.machine state.machine rfl size
      (state.tableAddress table)
    exact allocatedOrTrapped_of_ok _ me "object" name _ (same ▸ done)

theorem makeArray_direct (name : String) (length : UInt32) (width : UInt64) (route : Route)
    (done : ¬state.Fails (.array name length width route)) :
    state.makeArray me name length width route = state.makeArray me name length width .direct := by
  cases route with
  | direct | stub => rfl
  | entryPoint =>
    exact allocatedOrTrapped_of_ok state me "array" name (fun _ _ => .plain "array") done

theorem copyArray_direct (source : Ref) {sourceStart : Int} (destination : Ref)
    {destinationStart count : Int} (route : Route) (goesOn : state.machine.ended = none)
    (fits : FitsInt32 sourceStart ∧ FitsInt32 destinationStart ∧ FitsInt32 count)
    (done : ¬∃ reason, state.machine.copyArray source (.ofInt sourceStart) destination
      (.ofInt destinationStart) (.ofInt count) = .error reason) :
    state.copyArray me source sourceStart destination destinationStart count route =
      state.copyArray me source sourceStart destination destinationStart count .direct := by
  have word {number : Int} (fits : FitsInt32 number) :
      (Int32.ofInt number).toInt64 = .ofInt number := Int32.toInt64_ofInt fits.1 fits.2
  cases copied : state.machine.copyArray source (.ofInt sourceStart) destination
    (.ofInt destinationStart) (.ofInt count) with
  | error reason => exact absurd ⟨reason, copied⟩ done
  | ok machine =>
    have alive : machine.ended = none := by
      simp only [Machine.copyArray] at copied
      cases moved : state.machine.heap.copyArray source (.ofInt sourceStart) destination
        (.ofInt destinationStart) (.ofInt count) with
      | error reason =>
        rw [moved] at copied
        cases copied
      | ok heap =>
        rw [moved] at copied
        cases copied
        exact goesOn
    have told : (state.setMachine machine).tellUnlessEnded me (.plain "copy") =
        (state.setMachine machine).tell me (.plain "copy") := by
      have here : (state.setMachine machine).machine.ended = none := alive
      simp only [tellUnlessEnded, here, Option.isSome_none, Bool.false_eq_true, if_false]
    cases route with
    | direct => rfl
    | entryPoint =>
      simp only [copyArray, EntryPoint.arrayCopy, word fits.1, word fits.2.1, word fits.2.2, copied]
      exact told
    | stub =>
      simp only [copyArray, Native.Stub.callArrayCopy, word fits.1, word fits.2.1, word fits.2.2,
        copied]
      exact told

theorem toNat_ofNat_of_fits {index : Nat} (fits : index < UInt64.size) :
    (UInt64.ofNat index).toNat = index := by
  rw [UInt64.toNat_ofNat']
  exact Nat.mod_eq_of_lt fits

theorem vtableLookup_direct (r : Ref) {index : Nat} (route : Route) (fits : index < UInt64.size) :
    state.vtableLookup me r index route = state.vtableLookup me r index .direct := by
  cases route with
  | direct | stub => rfl
  | entryPoint =>
    simp only [vtableLookup, EntryPoint.vtableLookup, toNat_ofNat_of_fits fits]

theorem itableLookup_direct (r : Ref) (interface : UInt64) {index : Nat} (route : Route)
    (fits : index < UInt64.size) (found : state.machine.itableLookup r interface index ≠ none) :
    state.itableLookup me r interface index route =
      state.itableLookup me r interface index .direct := by
  cases route with
  | direct | stub => rfl
  | entryPoint =>
    obtain ⟨method, found⟩ := Option.ne_none_iff_exists'.mp found
    have front := (Machine.entryPointsAgree state.machine).itableFound r interface (.ofNat index)
      method (by rw [toNat_ofNat_of_fits fits, found])
    simp only [itableLookup, front, found, Option.map_some]
    rfl

theorem beginMonitor_direct (machine : Machine) (token : Token) (r : Ref) (verb : MonitorVerb)
    (route : Route) :
    beginMonitor machine token r verb route = beginMonitor machine token r verb .direct := by
  cases route <;> cases verb <;> rfl

/-- An instruction that does not fail does the same by every route. -/
theorem perform_direct (counts : Counts) (height : Nat) {instruction : Instruction}
    (fixed : instruction.namesRoutes = false) (goesOn : state.machine.ended = none)
    (fits : instruction.Fits) (done : ¬state.Fails instruction) :
    (host me).perform counts height (instruction.reroute unrouted.route) state =
      (host me).perform counts height instruction state := by
  cases instruction with
  | assign | start | started => cases fixed
  | object name size table route =>
    exact congrArg (State.done me counts)
      (makeObject_direct state me name size table route done).symm
  | array name length width route =>
    exact congrArg (State.done me counts)
      (makeArray_direct state me name length width route done).symm
  | setArrayTable table route => cases route <;> rfl
  | arrayInfo name route => cases route <;> rfl
  | copy source sourceStart destination destinationStart count route =>
    exact congrArg (State.done me counts)
      (copyArray_direct state me _ _ route goesOn fits done).symm
  | vtableLookup name index route =>
    exact congrArg (State.done me counts) (vtableLookup_direct state me _ route fits).symm
  | itableLookup name interface index route =>
    exact congrArg (State.done me counts)
      (itableLookup_direct state me _ interface route fits done).symm
  | monitor verb name route quiet =>
    have begun (machine : Machine) (token : Token) (r : Ref) :
        beginMonitor machine token r verb (unrouted.route route) =
          beginMonitor machine token r verb route :=
      (beginMonitor_direct machine token r verb route).symm
    simp only [host, perform, Instruction.reroute, monitorStep, useMonitor, useMonitorAs, begun]
  | throw name route => cases route <;> rfl
  | abstract route => cases route <;> rfl
  | _ => rfl

end

theorem started_under (guise : Guise) (state : State) (me : Nat)
    (told : ∀ status, guise.event (.started status) = some (.started none)) (route : Route) :
    (state.under guise).started me .direct = (state.started me route).under guise := by
  simp only [started_eq, machine_under, Machine.endStart, Machine.logText_under, setMachine_under]
  exact tell_under_of guise _ me (told _)

/-! What a region tells by two routes. -/

instance : Blind Thread.label :=
  { told := fun _ _ => rfl, waiting := fun _ _ => rfl, token := fun _ _ => rfl
    scratch := fun _ _ => rfl, job := fun _ _ => rfl
    inbox := fun _ _ => rfl, toldToEnd := fun _ _ => rfl
    callers := fun _ _ _ => rfl }

/-- What a state tells is not told again. -/
theorem tell_flushJournal (state : State) (me : Nat) (event : Event) :
    (state.flushJournal me).tell me event = state.tell me event := by
  have emptied : (state.flushJournal me).machine.journal = [] := by rw [machine_flushJournal]
  have label := @view_of_seen _ Thread.label _ _ (seen_flushJournal state me) me
  simp only [tell, flushJournal_of_empty _ me emptied, label]

theorem regionLeft_flushJournal (state : State) (me : Nat) (counts : Counts)
    (name : Option String) (ignore : Bool) (seen : Option Ref) :
    (state.flushJournal me).regionLeft me counts (.attempt .direct name ignore) seen =
      state.regionLeft me counts (.attempt .direct name ignore) seen := by
  have names : (state.flushJournal me).nameOf = state.nameOf :=
    funext (nameOf_flushJournal state me)
  simp only [regionLeft, tell_flushJournal, names]

/-- What the owner of a region sees of what it caught. -/
def seenBy (taken : Route) (ignore : Bool) (caught : Option Ref) : Option Ref :=
  match taken with
  | .entryPoint => if ignore then caught.map fun _ => .null else caught
  | .direct | .stub => caught

theorem seenBy_reroute (route : Route) (ignore : Bool) (caught : Option Ref) :
    seenBy (if ignore then route else .direct) ignore caught = seenBy route ignore caught := by
  cases route <;> cases ignore <;> rfl

/-- Where no status is told, the owner of a region cannot tell its route. -/
theorem regionLeft_hidden {guise : Guise} (hidden : ∀ status, guise.event (.status status) = none)
    (state : State) (me : Nat) (counts : Counts) (route : Route) (name : Option String)
    (ignore : Bool) (caught : Option Ref) :
    (state.regionLeft me counts (.attempt route name ignore) caught).under guise =
      (state.under guise).regionLeft me counts (.attempt .direct name ignore)
        (seenBy route ignore caught) := by
  cases route with
  | direct => exact (regionLeft_attempt_under guise state me counts name ignore caught).symm
  | stub => exact (regionLeft_attempt_under guise state me counts name ignore caught).symm
  | entryPoint =>
    let result := EntryPoint.attempt (if ignore then none else some .null) caught
    have seen : (if result.1 = 0 then none else some (result.2.getD .null)) =
        seenBy .entryPoint ignore caught := by
      cases caught <;> cases ignore <;> rfl
    have unheard : (state.tell me (.status result.1)).under guise =
        (state.flushJournal me).under guise :=
      tellEntry_hidden guise _ me (by simp only [Guise.entry, hidden, Option.map_none])
    rw [regionLeft_entryPoint, seen, ← regionLeft_attempt_under, unheard,
      regionLeft_attempt_under, regionLeft_flushJournal, regionLeft_attempt_under]

/-! Whether a step fails does not depend on routes. -/

theorem fits_reroute (route : Route → Route) (instruction : Instruction) :
    (instruction.reroute route).Fits ↔ instruction.Fits := by
  cases instruction <;> rfl

theorem fails_reroute (state : State) (route : Route → Route) (instruction : Instruction) :
    state.Fails (instruction.reroute route) ↔ state.Fails instruction := by
  cases instruction <;> rfl

theorem fails_unrouted (state : State) (instruction : Instruction) :
    (state.under unrouted).Fails instruction ↔ state.Fails instruction := by
  have machine : (state.under unrouted).machine = state.machine := Machine.under_default _
  cases instruction <;> simp only [Fails, machine, tableAddress_under, reference_under]

theorem upNext_under {guise : Guise} (tokens : guise.SameTokens) (state : State) :
    (state.under guise).upNext =
      state.upNext.map fun (me, instruction) => (me, instruction.reroute guise.route) := by
  have upcoming (strand : Strand Instruction Site) :
      ((rerouting guise.route).strand strand).upcoming =
        strand.upcoming.map (Instruction.reroute guise.route) := by
    obtain ⟨control, frames, counts⟩ := strand
    cases control with
    | unwind | returned | died | exiting | halted => rfl
    | run todo =>
      match todo with
      | [] => rfl
      | code :: todo =>
        cases code with
        | act instruction =>
          simp only [Translation.strand, Translation.control, List.map_cons, rerouting]
          rfl
        | _ => rfl
  simp only [upNext, isOver_under, choose_under guise state tokens, thread_under]
  split
  · rfl
  · cases state.choose with
    | none => rfl
    | some index =>
      simp only [Option.bind_some, Guise.thread, upcoming, Option.map_map]
      rfl

theorem goesThrough_unrouted (state : State) :
    (state.under unrouted).GoesThrough ↔ state.GoesThrough := by
  constructor
  · intro goes me instruction next
    have direct : (state.under unrouted).upNext =
        some (me, instruction.reroute unrouted.route) := by
      rw [upNext_under ⟨rfl, rfl, rfl⟩, next, Option.map_some]
    obtain ⟨fits, done⟩ := goes _ _ direct
    rw [fits_reroute] at fits
    rw [fails_unrouted, fails_reroute] at done
    exact ⟨fits, done⟩
  · intro goes me direct next
    rw [upNext_under ⟨rfl, rfl, rfl⟩] at next
    obtain ⟨⟨index, instruction⟩, here, same⟩ := Option.map_eq_some_iff.mp next
    obtain ⟨rfl, rfl⟩ := Prod.mk.inj same
    rw [fits_reroute, fails_unrouted, fails_reroute]
    exact goes _ _ here

end State

theorem regionOver_reroute (route : Route → Route) (signal : Signal Site) :
    regionOver ((rerouting route).signal signal) = regionOver signal := by
  cases signal with
  | regionLeft site caught => cases site <;> rfl
  | _ => rfl

/-! Two scenarios of which the second reaches its operations directly. -/

namespace Matches
open State

/-- Answers that are the same in their guises are alike. -/
theorem answers_of_same {guise veil : Guise} (plain : veil.route = id)
    {first second : Reply Instruction Site × Counts × State}
    (same : veil.answer second = guise.answer first) :
    (rerouting guise.route).Answers (Matches guise veil) first second := by
  constructor
  · have reply := congrArg Prod.fst same
    simpa only [Guise.answer, plain, rerouting_id_reply] using reply
  · exact congrArg (fun answer => answer.2.1) same
  · exact congrArg (fun answer => answer.2.2) same

variable {first second : State} (alike : Matches unrouted unrevealed first second)
include alike

theorem perform_alike (me : Nat) (counts : Counts) (height : Nat) {instruction : Instruction}
    (goesOn : first.machine.ended = none) (fits : instruction.Fits)
    (done : ¬first.Fails instruction) :
    unrevealed.answer
        ((host me).perform counts height (instruction.reroute unrouted.route) second) =
      unrouted.answer ((host me).perform counts height instruction first) := by
  have ordinary (fixed : instruction.namesRoutes = false)
      (still : (instruction.reroute unrouted.route).namesRoutes = false) :
      unrevealed.answer
          ((host me).perform counts height (instruction.reroute unrouted.route) second) =
        unrouted.answer ((host me).perform counts height instruction first) := by
    have behind := perform_under (unrevealed.allows_of_plain rfl rfl second me counts height _)
      still
    have beneath := perform_under (unrouted.allows_of_plain rfl rfl first me counts height _) still
    rw [← behind, alike, beneath, perform_direct first me counts height fixed goesOn fits done]
  cases instruction with
  | assign label verb patience job =>
    have given := assign_under unrouted first me label verb patience job counts
    have behind := assign_under unrevealed second me label verb patience
      (rerouteAll unrouted.route job) counts
    rw [show unrevealed.route = id from rfl, rerouteAll_id, alike] at behind
    exact behind.symm.trans given
  | start arguments count name route body =>
    let rerouted : List Step := rerouteAll unrouted.route body
    have begun := perform_start_under (unrouted.allows_of_plain rfl rfl first me counts height
      (.start arguments count name route body))
    have behind := perform_start_under (unrevealed.allows_of_plain rfl rfl second me counts height
      (.start arguments count name .direct rerouted))
    rw [show unrevealed.route = id from rfl, rerouteAll_id, alike] at behind
    exact behind.symm.trans begun
  | started route =>
    have beneath := started_under unrouted first me (fun _ => rfl) route
    have behind := started_under unrevealed second me (fun _ => rfl) .direct
    rw [alike, beneath] at behind
    refine (done_under unrevealed _ me counts).symm.trans ?_
    refine Eq.trans ?_ (done_under unrouted _ me counts)
    exact congrArg (State.done me counts) behind.symm
  | _ => exact ordinary rfl rfl

omit alike in
theorem hears (me : Nat) :
    (rerouting unrouted.route).Hears (host me) (Matches unrouted unrevealed) := by
  intro counts signal first second alike
  cases stopped : regionOver signal with
  | false =>
    have still := (regionOver_reroute unrouted.route signal).trans stopped
    have beneath := hear_under unrouted first me counts stopped
    have behind := hear_under unrevealed second me counts still
    rw [show unrevealed.route = id from rfl, rerouting_id_signal, alike, beneath] at behind
    exact behind.symm
  | true =>
    match signal with
    | .regionLeft (.attempt route name ignore) caught =>
      have beneath := @regionLeft_hidden unrouted (fun _ => rfl) first me counts route name ignore
        caught
      have behind := @regionLeft_hidden unrevealed (fun _ => rfl) second me counts
        (if ignore then route else .direct) name ignore caught
      rw [alike, seenBy_reroute] at behind
      exact behind.trans beneath.symm

/-- A step that does not fail is a step of the scenario that reaches its operations directly. -/
theorem advance_direct (goes : first.GoesThrough) :
    Matches unrouted unrevealed first.advance second.advance := by
  refine alike.advance rfl ⟨rfl, rfl, rfl⟩ ⟨rfl, rfl, rfl⟩ hears fun me instruction next => ?_
  obtain ⟨fits, done⟩ := goes me instruction next
  have goesOn : first.machine.ended = none := by
    have going := (upNext_eq_some next).1
    simp only [State.isOver, Bool.or_eq_false_iff] at going
    simpa using going.1
  have strands := alike.strands rfl me
  refine answers_of_same rfl ?_
  simp only [State.answer, strands, Translation.strand, List.length_map]
  exact (alike.setRunning me).perform_alike me _ _ goesOn fits done

end Matches

namespace State

/-- Hiding the routes once more changes nothing. -/
theorem matches_unrouted (state : State) :
    Matches unrouted unrevealed state (state.under unrouted) := by
  have entry (told : Entry) :
      (unrouted.entry told).bind unrevealed.entry = unrouted.entry told := by
    obtain ⟨thread, event⟩ := told
    cases event <;> rfl
  have same (thread : Thread) : unrevealed.thread (unrouted.thread thread) =
      unrouted.thread thread := by
    have inbox (steps : List Step) : steps.map (Step.reroute id) = steps := by
      rw [← rerouteAll_eq_map, rerouteAll_id]
    have told (entries : List Entry) :
        (entries.filterMap unrouted.entry).filterMap unrevealed.entry =
        entries.filterMap unrouted.entry := by
      rw [List.filterMap_filterMap]
      exact congrArg (List.filterMap · entries) (funext entry)
    have kept : unrevealed.route = id := rfl
    simp only [Guise.thread, told, kept, rerouting_id_strand, inbox, Option.map_id']
    rfl
  have machine : (state.machine.under unrouted.machine).under unrevealed.machine =
      state.machine.under unrouted.machine := Machine.under_default _
  simp only [Matches, under, Array.map_map, machine]
  refine congrArg (fun threads => { state with
    machine := state.machine.under unrouted.machine, threads := threads }) ?_
  exact Array.map_congr_left fun thread _ => same thread

theorem advance_unrouted {first second : State} (same : first.SameButRoutes second)
    (goes : first.GoesThrough) : first.advance.SameButRoutes second.advance := by
  have others : second.GoesThrough := by
    rw [← goesThrough_unrouted, ← same, goesThrough_unrouted]
    exact goes
  have plain := matches_unrouted second
  have alike : Matches unrouted unrevealed first (second.under unrouted) := plain.trans same.symm
  exact (alike.advance_direct goes).symm.trans (plain.advance_direct others)

/-- Scenarios that differ in routes go through the same states until a step fails. -/
theorem run_unrouted {first second : State} (same : first.SameButRoutes second) (fuel : Nat)
    (goes : ∀ earlier < fuel, (first.run earlier).GoesThrough) :
    (first.run fuel).SameButRoutes (second.run fuel) := by
  induction fuel with
  | zero => exact same
  | succ fuel ih =>
    rw [run_advance, run_advance]
    have before := ih fun earlier early => goes earlier (by omega)
    exact advance_unrouted before (goes fuel (by omega))

end State

/-! A process lies where it lies whatever routes its program takes. -/

mutual

theorem stepRegions_reroute (route : Route → Route) (step : Step) :
    stepRegions (step.reroute route) = stepRegions step := by
  cases step with
  | act instruction => exact instructionRegions_reroute route instruction
  | block body => exact stepsRegions_reroute route body
  | protect site body handler =>
    simp only [Step.reroute, stepRegions, stepsRegions_reroute route]
  | guarded site body cleanup =>
    simp only [Step.reroute, stepRegions, stepsRegions_reroute route]
  | intercept site resume body => exact stepsRegions_reroute route body
  | outermost site body => exact stepsRegions_reroute route body

theorem stepsRegions_reroute (route : Route → Route) (steps : List Step) :
    stepsRegions (rerouteAll route steps) = stepsRegions steps := by
  cases steps with
  | nil => rfl
  | cons step rest =>
    rw [rerouteAll, stepsRegions, stepRegions_reroute route step, stepsRegions_reroute route rest,
      stepsRegions]

theorem instructionRegions_reroute (route : Route → Route) (instruction : Instruction) :
    instructionRegions (instruction.reroute route) = instructionRegions instruction := by
  cases instruction with
  | assign label verb patience job => exact stepsRegions_reroute route job
  | start arguments count name taken body => exact stepsRegions_reroute route body
  | _ => rfl

end

theorem placement_reroute (route : Route → Route) (steps : List Step) :
    placement (rerouteAll route steps) = placement steps :=
  congrArg (fun regions => freeRegion regions * regionSize) (stepsRegions_reroute route steps)

theorem State.beginning_unrouted (process : State) (steps : List Step) :
    (process.beginning steps).under unrouted =
      process.beginning (rerouteAll unrouted.route steps) := by
  have same : process.machine.under unrouted.machine = process.machine := Machine.under_default _
  rw [State.beginning_under, same]
  rfl

theorem initialState_unrouted (setting : Setting) (steps : List Step) :
    (initialState setting steps).under unrouted =
      initialState setting (rerouteAll unrouted.route steps) := by
  rw [initialState_eq, initialState_eq, placement_reroute,
    ← State.askFirst_under ⟨rfl, rfl, rfl⟩, State.beginning_unrouted]

/-- Programs that differ in routes begin alike. -/
theorem initialState_same (setting : Setting) {first second : List Step}
    (same : SameButRoutes first second) :
    (initialState setting first).SameButRoutes (initialState setting second) := by
  rw [State.SameButRoutes, initialState_unrouted, initialState_unrouted]
  exact congrArg (initialState setting) same

/-- Every entry point and every stub does what the operation behind it does, a region of compiled
code tells how it ended, and programs that differ in routes begin alike and go through the same
states, as long as nothing is refused or looked up in vain. -/
theorem routes_interchangeable {first second : State} (same : first.SameButRoutes second)
    (fuel : Nat) (goes : ∀ earlier < fuel, (first.run earlier).GoesThrough) :
    (∀ machine : Machine, machine.EntryPointsAgree) ∧
      (∀ (me : Nat) (cell : Option Ref) (strand : Strand Instruction Site) (state : State)
        (site : Site) (handler todo : List Step) (base : List (Frame Instruction Site)),
        strand.frames = .protect site handler todo :: base →
        RegionReturns (State.host me) cell base strand state) ∧
      (∀ (setting : Setting) (program other : List Step), SameButRoutes program other →
        (initialState setting program).SameButRoutes (initialState setting other)) ∧
      (first.run fuel).SameButRoutes (second.run fuel) := by
  refine ⟨Machine.entryPointsAgree, ?_, ?_, State.run_unrouted same fuel goes⟩
  · intro me cell strand state site handler todo base innermost
    exact region_returns cell innermost
  · intro setting program other same
    exact initialState_same setting same

/-- An array is made, copied onto itself and thrown inside a region, each by some route. -/
def routedProgram (made copied thrown caught : Route) : List Step :=
  [.protect (.attempt caught (some "e") false)
    [.act (.array "a" 2 4 made), .act (.copy "a" 0 "a" 1 1 copied), .act (.throw "a" thrown)] []]

theorem routedProgram_unrouted (made copied thrown caught : Route) :
    rerouteAll unrouted.route (routedProgram made copied thrown caught) =
      routedProgram .direct .direct .direct .direct := by
  simp only [routedProgram, rerouteAll, Step.reroute, Instruction.reroute, Site.reroute, unrouted,
    Bool.false_eq_true, if_false]

def routedState (made copied thrown caught : Route) : State :=
  State.beginning { machine := { settings := ⟨some {}⟩ }, threads := #[] }
    (routedProgram made copied thrown caught)

theorem routes_interchangeable_thrown :
    ((routedState .entryPoint .stub .entryPoint .entryPoint).run 6).SameButRoutes
      ((routedState .direct .direct .direct .direct).run 6) := by
  have same : (routedState .entryPoint .stub .entryPoint .entryPoint).SameButRoutes
      (routedState .direct .direct .direct .direct) := by
    simp only [State.SameButRoutes, routedState, State.beginning_unrouted,
      routedProgram_unrouted]
  refine (routes_interchangeable same 6 ?_).2.2.2
  intro earlier early me instruction next
  match earlier with
  | 0 => cases next
  | 1 =>
    obtain ⟨rfl, rfl⟩ := Prod.mk.inj (Option.some.inj next)
    refine ⟨trivial, fun ⟨reason, refused⟩ => ?_⟩
    exact Machine.newArray_ne_error _ (by decide) reason refused
  | 2 =>
    obtain ⟨rfl, rfl⟩ := Prod.mk.inj (Option.some.inj next)
    refine ⟨by simp only [Instruction.Fits, FitsInt32]; decide, fun ⟨reason, refused⟩ => ?_⟩
    exact Machine.copyArray_self_ne_error _ _ _ _ _ reason refused
  | 3 =>
    obtain ⟨rfl, rfl⟩ := Prod.mk.inj (Option.some.inj next)
    exact ⟨trivial, id⟩
  | 4 | 5 => cases next

end ManagedRuntime.Scenario
