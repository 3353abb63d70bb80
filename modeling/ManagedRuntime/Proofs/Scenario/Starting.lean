import Mathlib.Logic.Relation
import ManagedRuntime.Proofs.Machine.EntryPoints
import ManagedRuntime.Proofs.Scenario.Attempts
import ManagedRuntime.Proofs.Scenario.Bottoms
import ManagedRuntime.Proofs.Scenario.Changes

/-! The start of a program. Its arguments are put into an array before anything of it runs, and the
entry gets that array, whatever other threads do in between. -/
namespace ManagedRuntime
open Heap (HoldsText Marshals Room TextsInFront)

namespace Machine

theorem marshals_marshalArguments {machine : Machine} (tidy : machine.heap.Tidy)
    (inFront : machine.heap.TextsInFront) {arguments : List UInt64} {argv : List (List UInt8)}
    (held : List.Forall₂ machine.heap.HoldsText arguments argv) (few : argv.length < UInt32.size)
    (room : Room machine.heap.next (machine.heap.tableSizes ++ Heap.argumentSizes argv)) :
    ∃ r copies, (machine.marshalArguments arguments).1 = .ok r ∧
      (machine.marshalArguments arguments).2.ended = machine.ended ∧
      Marshals machine.heap argv r copies (machine.marshalArguments arguments).2.heap := by
  obtain ⟨tableRoom, further⟩ := Heap.Room.table room
  obtain ⟨table, ready, asked, readies⟩ := exists_readies tableRoom
  have texts : ready.heap.texts = machine.heap.texts := by rw [readies.rest]
  have still : List.Forall₂ ready.heap.HoldsText arguments argv :=
    held.imp fun address bytes there => there.of_same (by rw [texts])
  obtain ⟨r, copies, after, made, marshals⟩ :=
    Heap.marshals_marshalArguments (tidy.run readies.changes).tidy (inFront.run readies.changes)
      still few readies.inForce (readies.next ▸ further)
  have kept (other : UInt64) (there : other ∈ machine.heap.arrayTable?) :
      other ∈ ready.heap.arrayTable? := by
    rw [(readies.already other there).2]
    exact there
  have heap : (machine.marshalArguments arguments).2.heap = after := by
    simp only [marshalArguments, withArrayTable, asked, made]
    exact heap_log ..
  refine ⟨r, copies, ?_, ?_, heap ▸ marshals.of_tables readies.rest kept⟩
  · simp only [marshalArguments, withArrayTable, asked, made]
    rfl
  · simp only [marshalArguments, withArrayTable, asked, made]
    exact (ended_log ..).trans readies.ended

theorem ended_initLogging (machine : Machine) : machine.initLogging.ended = machine.ended := by
  unfold initLogging
  dsimp only
  split <;> rfl

end Machine

namespace Scenario
open Exception

instance : Blind Thread.arguments :=
  { told := fun _ _ => rfl, waiting := fun _ _ => rfl, token := fun _ _ => rfl
    scratch := fun _ _ => rfl, job := fun _ _ => rfl, inbox := fun _ _ => rfl
    toldToEnd := fun _ _ => rfl, callers := fun _ _ _ => rfl }

namespace State

/-- Arguments that were put into memory lie there, each at an address of its own. -/
theorem holdsText_placeArguments {heap : Heap} {argv : List (List UInt8)}
    (whole : ∀ bytes ∈ argv, 0 ∉ bytes) (room : Room heap.next (argv.map (·.length + 1))) :
    List.Forall₂ (placeArguments heap argv).2.HoldsText (placeArguments heap argv).1 argv ∧
      (placeArguments heap argv).2.next = Heap.behind heap.next (argv.map (·.length + 1)) ∧
      ∀ address : UInt64, address.toNat < heap.next →
        (placeArguments heap argv).2.texts[address]? = heap.texts[address]? := by
  induction argv generalizing heap with
  | nil => exact ⟨.nil, rfl, fun _ _ => rfl⟩
  | cons bytes rest ih =>
    obtain ⟨fits, further⟩ := room
    obtain ⟨reaches, -⟩ := Heap.stride_spec (bytes.length + 1)
    have lies : (UInt64.ofNat heap.next).toNat = heap.next := Heap.toNat_next fits
    let placed : Heap := { heap with
      next := heap.next + Heap.stride (bytes.length + 1)
      texts := heap.texts.insert (.ofNat heap.next) (bytes ++ [0]) }
    have step : placeArguments heap (bytes :: rest) =
        (.ofNat heap.next :: (placeArguments placed rest).1, (placeArguments placed rest).2) := by
      rw [placeArguments, Heap.placeText_of_room fits]
    obtain ⟨held, next, kept⟩ := @ih placed
      (fun text member => whole text (List.mem_cons_of_mem _ member)) further
    rw [step]
    refine ⟨.cons ?_ held, next, fun address below => ?_⟩
    · have first : placed.HoldsText (.ofNat heap.next) bytes :=
        ⟨Std.TreeMap.getElem?_insert_self, whole bytes List.mem_cons_self⟩
      exact first.of_same (kept _ (by show _ < heap.next + _; omega))
    · have different : UInt64.ofNat heap.next ≠ address := by
        rintro rfl
        omega
      rw [kept address (by show _ < heap.next + _; omega)]
      simp only [placed, Std.TreeMap.getElem?_insert, Std.compare_eq_iff_eq, if_neg different]

/-- Memory for the arguments, for the array and its table, and for the copies. -/
def StartRoom (heap : Heap) (argv : List (List UInt8)) : Prop :=
  Room heap.next (argv.map (·.length + 1) ++ (heap.tableSizes ++ Heap.argumentSizes argv))

theorem tableSizes_placeArguments (heap : Heap) (argv : List (List UInt8)) :
    (placeArguments heap argv).2.tableSizes = heap.tableSizes := by
  induction argv generalizing heap with
  | nil => rfl
  | cons bytes rest ih =>
    have placed : (heap.placeText bytes).2.tableSizes = heap.tableSizes := by
      unfold Heap.placeText
      split
      · rfl
      · next reserved =>
        obtain rfl := Heap.reserve?_eq_some reserved
        rfl
    exact (ih _).trans placed

theorem marshals_marshalled {state : State} {arguments : List (List UInt8)} {count : Nat}
    (tidy : state.machine.heap.Tidy) (inFront : state.machine.heap.TextsInFront)
    (whole : ∀ bytes ∈ arguments.take count, 0 ∉ bytes)
    (few : (arguments.take count).length < UInt32.size)
    (room : StartRoom state.machine.heap (arguments.take count)) :
    ∃ r copies, (state.marshalled arguments count).1 = .ok r ∧
      (state.marshalled arguments count).2.ended = state.machine.ended ∧
      Marshals (placeArguments state.machine.heap (arguments.take count)).2
        (arguments.take count) r copies (state.marshalled arguments count).2.heap := by
  obtain ⟨early, late⟩ := Room.append room
  obtain ⟨held, next, -⟩ := holdsText_placeArguments whole early
  have changes := changes_placeArguments state.machine.heap (arguments.take count)
  let placed : Machine :=
    { state.machine with heap := (placeArguments state.machine.heap (arguments.take count)).2 }
  exact @Machine.marshals_marshalArguments placed (tidy.run changes).tidy (inFront.run changes) _ _
    held few (by rwa [next, tableSizes_placeArguments])

/-! The array that a thread has for its program is nobody else's business. -/

/-- What the thread's program is started with. -/
def argumentsOf (state : State) (index : Nat) : Ref := (state.thread index).arguments

theorem argumentsOf_congr {before after : State}
    (same : after.threads.map Thread.arguments = before.threads.map Thread.arguments) :
    after.argumentsOf = before.argumentsOf :=
  funext (view_of_map same)

theorem argumentsOf_of_seen {before after : State}
    (same : after.seen Thread.arguments = before.seen Thread.arguments) :
    after.argumentsOf = before.argumentsOf :=
  argumentsOf_congr (congrArg Prod.fst same)

theorem argumentsOf_updateThread_of_ne (state : State) {me other : Nat} (change : Thread → Thread)
    (different : other ≠ me) :
    (state.updateThread me change).argumentsOf other = state.argumentsOf other := by
  by_cases known : me < state.threads.size
  · rw [argumentsOf, thread_updateThread state change known, if_neg different, argumentsOf]
  · rw [updateThread_of_unknown state change known]

section
variable (state : State) (me : Nat)

theorem argumentsOf_setOwnName (name : String) :
    (state.setOwnName me name).2.argumentsOf = state.argumentsOf :=
  argumentsOf_of_seen (seen_setOwnName state me name fun _ _ => rfl)

theorem ended_setOwnName (name : String) :
    (state.setOwnName me name).2.machine.ended = state.machine.ended := by
  unfold setOwnName
  split
  · rfl
  · exact Machine.ended_log ..

theorem ended_namedMain (count : Nat) :
    (state.namedMain me count).machine.ended = state.machine.ended :=
  calc (state.namedMain me count).machine.ended
    _ = (state.machine.beginStart count).ended := ended_setOwnName (state.setMachine _) me "main"
    _ = state.machine.initLogging.readSettings.2.ended := Machine.ended_log ..
    _ = state.machine.initLogging.ended := Machine.ended_readSettings _
    _ = state.machine.ended := state.machine.ended_initLogging

theorem argumentsOf_spawn (label : String) (name : Option String) (managed asked : Bool) :
    (state.spawn me label name managed asked).argumentsOf = state.argumentsOf := by
  let started : State := state.withThread me label name managed
  have joined : started.argumentsOf = state.argumentsOf :=
    funext (view_withThread state me label name managed rfl)
  refine (argumentsOf_of_seen (seen_spawn ..)).trans ?_
  unfold nameStarted
  split
  · exact (argumentsOf_setOwnName started _ _).trans joined
  · exact joined

theorem argumentsOf_stress (r : Ref) (index threads times : Nat) (counts : Counts) :
    (state.stress me r index threads times counts).2.2.argumentsOf = state.argumentsOf :=
  funext (view_stress state me r index threads times counts rfl)

/-- The array that a program is started with is that of its own thread. -/
theorem argumentsOf_startUp {other : Nat} (different : other ≠ me)
    (arguments : List (List UInt8)) (count : Nat) :
    (state.startUp me arguments count).2.argumentsOf other = state.argumentsOf other := by
  have named := congrFun
    (argumentsOf_setOwnName (state.setMachine (state.machine.beginStart count)) me "main") other
  obtain ⟨r, -, taken⟩ := (state.namedMain me count).takeArguments_eq me arguments count
  rw [startUp_snd, taken, argumentsOf_of_seen (seen_flushJournal ..)]
  exact (argumentsOf_updateThread_of_ne _ _ different).trans named

theorem argumentsOf_perform {other : Nat} (different : other ≠ me) (counts : Counts)
    (height : Nat) (instruction : Instruction) :
    ((host me).perform counts height instruction state).2.2.argumentsOf other =
      state.argumentsOf other := by
  have done (after : State) : (done me counts after).2.2.argumentsOf = after.argumentsOf :=
    argumentsOf_of_seen (seen_done ..)
  cases instruction with
  | setName name =>
    refine congrFun ((done _).trans ((argumentsOf_of_seen (seen_tell ..)).trans ?_)) other
    exact argumentsOf_setOwnName state me name
  | start arguments count =>
    simp only [host, perform, startProgram_eq]
    exact argumentsOf_startUp state me different arguments count
  | leaveThread =>
    refine congrFun ((done _).trans (argumentsOf_of_seen ?_)) other
    exact seen_updateThread fun _ => rfl
  | spawn label name managed asked =>
    exact congrFun ((done _).trans (argumentsOf_spawn state me label name managed asked)) other
  | stress name index threads times =>
    exact congrFun (argumentsOf_stress state me _ index threads times counts) other
  | _ => exact congrFun (argumentsOf_congr (map_perform state me counts height rfl rfl)) other

theorem argumentsOf_turn :
    (state.stepThread me).argumentsOf =
      ((state.strand me).step (host me) state).2.argumentsOf := by
  have buried (after : State) : (after.buryThread me).argumentsOf = after.argumentsOf := by
    unfold buryThread
    split
    · refine argumentsOf_of_seen (seen_updateThread ?_)
      exact fun _ => rfl
    · rfl
  refine (buried _).trans (argumentsOf_of_seen (seen_updateThread ?_))
  exact fun _ => rfl

/-- The turn of another thread. -/
theorem argumentsOf_turn_of_ne {other : Nat} (different : other ≠ me) :
    (state.stepThread me).argumentsOf other = state.argumentsOf other := by
  let same (early late : State) : Prop := late.argumentsOf other = early.argumentsOf other
  have stepped : same state ((state.strand me).step (host me) state).2 :=
    (state.strand me).step_relates same (fun _ => rfl)
      (fun {_ _ _} first second => second.trans first)
      (fun counts signal early =>
        congrFun (argumentsOf_of_seen (seen_hear early me counts signal)) other)
      state fun _ _ => argumentsOf_perform state me different ..
  exact (congrFun (argumentsOf_turn state me) other).trans stepped

theorem references_turn :
    (state.stepThread me).references =
      ((state.strand me).step (host me) state).2.references := by
  unfold stepThread buryThread
  dsimp only
  split <;> rfl

end

/-- Something happens in the process, but thread `me` has no turn. -/
inductive Aside (me : Nat) : State → State → Prop
  | step (state : State) (index : Nat) (other : me ≠ index) :
      Aside me state (state.stepThread index)
  | elapse (state : State) (clock : Nat) : Aside me state { state with clock }
  | switch (state : State) (running : Nat) : Aside me state { state with running }

/-- For as long as it has no turn, a thread stays where it is and keeps what it has for its
program. -/
theorem kept_aside {me : Nat} {before after : State}
    (aside : Relation.ReflTransGen (Aside me) before after)
    (moving : (before.strand me).control.isMoving = true) :
    after.strand me = before.strand me ∧ after.argumentsOf me = before.argumentsOf me := by
  induction aside with
  | refl => exact ⟨rfl, rfl⟩
  | tail _ now ih =>
    obtain ⟨strand, arguments⟩ := ih
    cases now with
    | elapse | switch => exact ⟨strand, arguments⟩
    | step index other =>
      exact ⟨(strand_of_other (strand ▸ moving) other).trans strand,
        (argumentsOf_turn_of_ne _ index other).trans arguments⟩

/-! The turns of a thread that starts a program. -/

section
variable {state : State} {me : Nat} {arguments : List (List UInt8)} {count : Nat}
  {name : Option String} {route : Route} {body todo : List Step}
  {outer : List (Frame Instruction Site)} {counts : Counts}

theorem startUp_marshals (known : me < state.threads.size) (tidy : state.machine.heap.Tidy)
    (inFront : state.machine.heap.TextsInFront) (alive : state.machine.ended = none)
    (whole : ∀ bytes ∈ arguments.take count, 0 ∉ bytes)
    (few : (arguments.take count).length < UInt32.size)
    (room : StartRoom state.machine.heap (arguments.take count)) :
    ∃ r copies, (state.startUp me arguments count).2.machine.ended = none ∧
      (state.startUp me arguments count).2.argumentsOf me = r ∧
      Marshals (placeArguments state.machine.heap (arguments.take count)).2
        (arguments.take count) r copies (state.startUp me arguments count).2.machine.heap := by
  let named := state.namedMain me count
  have heap : named.machine.heap = state.machine.heap := heap_namedMain state me count
  have goesOn : named.machine.ended = none := (ended_namedMain state me count).trans alive
  obtain ⟨r, copies, made, stays, marshals⟩ := @marshals_marshalled named arguments count
    (heap ▸ tidy) (heap ▸ inFront) whole few (heap ▸ room)
  let filled := named.setMachine (named.marshalled arguments count).2
  have startUp : (state.startUp me arguments count).2 = (filled.updateThread me fun thread =>
      { thread with arguments := r }).flushJournal me := by
    obtain ⟨other, same, taken⟩ := named.takeArguments_eq me arguments count
    obtain rfl : r = other := Except.ok.inj (made.symm.trans same)
    rw [startUp_snd, taken]
  have size : filled.threads.size = state.threads.size :=
    size_setOwnName (state.setMachine (state.machine.beginStart count)) me "main"
  refine ⟨r, copies, ?_, ?_, ?_⟩
  · rw [startUp, machine_flushJournal]
    exact stays.trans goesOn
  · rw [startUp, argumentsOf_of_seen (seen_flushJournal ..), argumentsOf,
      thread_updateThread _ _ (size.symm ▸ known), if_pos rfl]
  · rw [startUp, heap_flushJournal]
    exact heap ▸ marshals

/-- The first turn prepares the program. -/
theorem turn_startUp (stands : state.strand me =
      ⟨.run (.act (.start arguments count name route body) :: todo), outer, counts⟩)
    (goesOn : (state.startUp me arguments count).2.machine.ended = none) :
    (state.stepThread me).strand me =
      ⟨.run (.outermost .entry (.act (.enterProgram name) :: body) ::
        .act (.started route) :: todo), outer, counts⟩ ∧
      (state.stepThread me).machine.ended = none ∧
      (state.stepThread me).machine.heap = (state.startUp me arguments count).2.machine.heap ∧
      (state.stepThread me).argumentsOf me =
        (state.startUp me arguments count).2.argumentsOf me := by
  let prepared := (state.startUp me arguments count).2
  have stepped : (state.strand me).step (host me) state =
      (⟨.run (.outermost .entry (.act (.enterProgram name) :: body) ::
        .act (.started route) :: todo), outer, counts⟩, prepared) := by
    rw [stands]
    simp only [Strand.step, Strand.enter, Strand.act, host, perform, startProgram_eq, goesOn]
    rfl
  refine ⟨?_, ?_, ?_, ?_⟩
  · rw [strand_stepThread, stepped]
  · rw [ended_stepThread, stepped]
    exact goesOn
  · rw [machine_stepThread, stepped]
  · rw [argumentsOf_turn, stepped]

/-- The second turn puts the program on its bottom. -/
theorem turn_outermost (stands : state.strand me =
      ⟨.run (.outermost .entry (.act (.enterProgram name) :: body) ::
        .act (.started route) :: todo), outer, counts⟩) :
    (state.stepThread me).strand me = ⟨.run (.act (.enterProgram name) :: body),
        (entryBottom route todo outer).stack, counts.enterRegion⟩ ∧
      (state.stepThread me).machine.heap = state.machine.heap ∧
      (state.stepThread me).argumentsOf me = state.argumentsOf me := by
  have stepped : (state.strand me).step (host me) state =
      (⟨.run (.act (.enterProgram name) :: body),
        (entryBottom route todo outer).stack, counts.enterRegion⟩, state) := by
    rw [stands]
    rfl
  refine ⟨?_, ?_, ?_⟩
  · rw [strand_stepThread, stepped]
  · rw [machine_stepThread, stepped]
  · rw [argumentsOf_turn, stepped]

/-- The thread stands at the entry of its program and has `r` for it. The entry gets that under the
name it has for it, memory stays as it is, and the program follows, unless the process has ended. -/
structure AtEntry (me : Nat) (name : Option String) (body : List Step)
    (bottom : Bottom Instruction Site) (r : Ref) (state : State) : Prop where
  control : (state.strand me).control = .run (.act (.enterProgram name) :: body)
  frames : (state.strand me).frames = bottom.stack
  arguments : state.argumentsOf me = r
  named : ∀ entry, name = some entry → (state.stepThread me).reference entry = r
  heap : (state.stepThread me).machine.heap = state.machine.heap
  follows : state.machine.ended = none → ((state.stepThread me).strand me).control = .run body

/-- The third turn calls the entry. -/
theorem atEntry_of_stands {bottom : Bottom Instruction Site} {r : Ref}
    (stands : state.strand me = ⟨.run (.act (.enterProgram name) :: body), bottom.stack, counts⟩)
    (arguments : state.argumentsOf me = r) : AtEntry me name body bottom r state := by
  let entered := (state.enterProgram me name counts).flushJournal me
  have ended : entered.machine.ended = state.machine.ended := by
    simp only [entered, machine_flushJournal, enterProgram, tell, tellEntry, updateThread]
    cases name <;> rfl
  have stepped : (state.strand me).step (host me) state =
      (⟨if state.machine.ended.isSome then .halted else .run body, bottom.stack, counts⟩,
        entered) := by
    rw [stands]
    simp only [Strand.step, Strand.enter, Strand.act, host, perform, done]
    rw [ended]
    cases state.machine.ended <;> rfl
  constructor
  · rw [stands]
  · rw [stands]
  · exact arguments
  · rintro entry rfl
    have references : entered.references = (entry, state.argumentsOf me) :: state.references :=
      (references_flushJournal ..).trans (references_flushJournal ..)
    rw [reference, references_turn, stepped, references, List.lookup_cons_self, arguments]
    rfl
  · rw [machine_stepThread, stepped]
    exact (heap_flushJournal ..).trans (heap_enterProgram ..)
  · intro alive
    rw [strand_stepThread, stepped, alive]
    rfl

end

/-- Whatever happened to memory before, as long as there is enough of it, the arguments of a program
are put into an array with one element for each but the first, in their order, that refers to a
fresh copy of it, byte by byte. This takes one object, and is not refused for any number of
arguments. A program that is started has its array before its thread goes on, and whatever other
threads do in between, it is this array that the entry gets. -/
theorem arguments_handed_over {first : Heap} (tidy : first.Tidy) (inFront : first.TextsInFront)
    {set : List UInt64} :
    (∀ (machine : Machine) (arguments : List UInt64) (argv : List (List UInt8)),
      Runs Heap.Change first set machine.heap →
      List.Forall₂ machine.heap.HoldsText arguments argv → argv.length < UInt32.size →
      (∀ reason, (machine.marshalArguments arguments).1 ≠ .error reason) ∧
      (Room machine.heap.next (machine.heap.tableSizes ++ Heap.argumentSizes argv) →
        ∃ r copies, (machine.marshalArguments arguments).1 = .ok r ∧
          (machine.marshalArguments arguments).2.ended = machine.ended ∧
          Marshals machine.heap argv r copies (machine.marshalArguments arguments).2.heap)) ∧
    ∀ (state : State) (me : Nat) (arguments : List (List UInt8)) (count : Nat)
      (name : Option String) (route : Route) (body todo : List Step)
      (outer : List (Frame Instruction Site)) (counts : Counts),
      Runs Heap.Change first set state.machine.heap → state.machine.ended = none →
      state.strand me =
        ⟨.run (.act (.start arguments count name route body) :: todo), outer, counts⟩ →
      (∀ bytes ∈ arguments.take count, 0 ∉ bytes) →
      (arguments.take count).length < UInt32.size →
      StartRoom state.machine.heap (arguments.take count) →
      ∃ r copies, (state.stepThread me).machine.ended = none ∧
        Marshals (placeArguments state.machine.heap (arguments.take count)).2
          (arguments.take count) r copies (state.stepThread me).machine.heap ∧
        ∀ entering, Relation.ReflTransGen (Aside me) (state.stepThread me) entering →
          (entering.stepThread me).machine.heap = entering.machine.heap ∧
          ∀ inside, Relation.ReflTransGen (Aside me) (entering.stepThread me) inside →
            AtEntry me name body (entryBottom route todo outer) r inside := by
  constructor
  · intro machine arguments argv run held few
    refine ⟨machine.marshalArguments_ne_error arguments, fun room => ?_⟩
    exact Machine.marshals_marshalArguments (tidy.run run).tidy (inFront.run run) held few room
  · intro state me arguments count name route body todo outer counts run alive stands whole few room
    have known : me < state.threads.size := by
      refine @known_of_upcoming state me (.start arguments count name route body) ?_
      rw [stands]
      rfl
    obtain ⟨r, copies, goesOn, array, marshals⟩ :=
      startUp_marshals known (tidy.run run).tidy (inFront.run run) alive whole few room
    obtain ⟨prepared, lives, heap, kept⟩ := turn_startUp stands goesOn
    refine ⟨r, copies, lives, heap ▸ marshals, fun entering before => ?_⟩
    obtain ⟨here, still⟩ := kept_aside before (prepared ▸ rfl)
    obtain ⟨onBottom, untouched, same⟩ := turn_outermost (here.trans prepared)
    refine ⟨untouched, fun inside between => ?_⟩
    obtain ⟨there, last⟩ := kept_aside between (onBottom ▸ rfl)
    exact atEntry_of_stands (there.trans onBottom)
      (last.trans (same.trans (still.trans (kept.trans array))))

end State

theorem strand_initialState (setting : Setting) (steps : List Step) :
    (initialState setting steps).strand 0 = { control := .run steps } := by
  have core : (initialState setting steps).core = (#[{ control := .run steps }], []) := by
    unfold initialState
    dsimp only
    split
    · exact (@State.seen_askToken _ (·.strand) _ 0 _ "main").trans
        (Prod.ext Array.map_singleton rfl)
    · exact Prod.ext Array.map_singleton rfl
  rw [State.strand_eq]
  exact congrArg (·.1.getD 0 State.absent) core

/-- Arguments of a program, the last two of which are not UTF-8. -/
def argumentBytes : List (List UInt8) := [[0x70], [0x61, 0xff], [0xc3]]

def bytesProgram : List Step := [.act (.start argumentBytes 3 (some "args") .direct [])]

/-- A process that is about to start a program. -/
def bytesStarted : State := initialState {} bytesProgram

/-- Without any arguments the array is empty and takes 64 bytes. -/
theorem State.arguments_handed_over_bytes :
    (∃ r, (bytesStarted.machine.marshalArguments []).1 = .ok r ∧
      (bytesStarted.machine.marshalArguments []).2.ended = none ∧
      ((bytesStarted.machine.marshalArguments []).2.heap.arrayLength r).toNat = 0 ∧
      (bytesStarted.machine.marshalArguments []).2.heap.bytesAllocated =
        bytesStarted.machine.heap.bytesAllocated + 64) ∧
    ∃ r copies, (bytesStarted.stepThread 0).machine.ended = none ∧
      Marshals (placeArguments bytesStarted.machine.heap argumentBytes).2 argumentBytes r copies
        (bytesStarted.stepThread 0).machine.heap ∧
      AtEntry 0 (some "args") [] (entryBottom .direct [] []) r
        ((bytesStarted.stepThread 0).stepThread 0) := by
  have run : Runs Heap.Change (freeMemory (placement bytesProgram)) [] bytesStarted.machine.heap :=
    changes_initialState {} bytesProgram
  have stands : bytesStarted.strand 0 = ⟨.run (bytesProgram ++ []), [], {}⟩ :=
    strand_initialState ..
  have taken : argumentBytes.take 3 = argumentBytes := rfl
  have enough : StartRoom bytesStarted.machine.heap argumentBytes := by
    rw [StartRoom]
    decide +kernel
  obtain ⟨marshalled, started⟩ := arguments_handed_over
    (tidy_freeMemory bytesProgram) (textsInFront_freeMemory _)
  constructor
  · obtain ⟨r, copies, made, lives, marshals⟩ :=
      (marshalled bytesStarted.machine [] [] run .nil (by decide)).2 (by decide +kernel)
    exact ⟨r, made, lives, marshals.length, marshals.bytesAllocated⟩
  · obtain ⟨r, copies, lives, marshals, enters⟩ := started bytesStarted 0 argumentBytes 3
      (some "args")
      .direct [] [] [] {} run rfl stands (by decide) (by decide) (taken.symm ▸ enough)
    rw [taken] at marshals
    exact ⟨r, copies, lives, marshals, (enters _ .refl).2 _ .refl⟩

end Scenario
end ManagedRuntime
