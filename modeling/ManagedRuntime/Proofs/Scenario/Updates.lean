import ManagedRuntime.Proofs.Machine.Ownership
import ManagedRuntime.Proofs.Scenario.Calls

/-! Runs in which any number of threads call a synchronized method of one object and use monitors
besides. Turns of threads come in any order, and inside of a request threads take turns at every
step of the monitor. -/
namespace ManagedRuntime.Scenario
open Machine (Accounts logAt placed)
open Monitor (Consistent Silent balance credit)

namespace State

/-- A thread begins a request and does not come further for now. -/
def beginRequest (state : State) (me : Nat) (object : UInt64) (request : MonitorRequest)
    (deadline : Option Nat) : State :=
  let (token, state) := state.currentToken me
  (state.setMachine (state.machine.call token object request)).setWaiting me
    (.inMonitor object deadline)

theorem outlook_beginRequest (state : State) (me : Nat) (object : UInt64) (request : MonitorRequest)
    (deadline : Option Nat) (known : me < state.threads.size) :
    (state.beginRequest me object request deadline).outlook =
      ((state.currentToken me).2.outlook.setMonitor object
        ((state.machine.heap.monitor object).begin (state.currentToken me).1 request)).setStance me
          { (state.currentToken me).2.outlook.stance me with
            waiting := .inMonitor object deadline } :=
  outlook_setWaiting ((state.currentToken me).2.setMachine ((state.currentToken me).2.machine.call
    (state.currentToken me).1 object request)) me
      (Nat.lt_of_lt_of_eq known Array.size_modify.symm) _

/-- When a request that is made now gives up. -/
def waitDeadline (state : State) : MonitorVerb → Option Nat
  | .wait milliseconds => (Machine.waitLimit milliseconds).map (state.clock + ·)
  | _ => none

/-- Everything that can happen as long as the process has not ended: a whole turn of a thread, or
less than that if it is about to use a monitor. No thread takes note of what disturbs sleepers and
the order of those who wait. -/
inductive Move : State → List Deed → State → Prop
  | turn (alive : state.machine.ended = none) (me : Nat) :
      Move state (state.deeds me) (state.stepThread me)
  | begin (alive : state.machine.ended = none) (known : me < state.threads.size)
      (upcoming : (state.strand me).upcoming = some instruction)
      (asks : instruction.asks state = some (target, verb))
      (asked : verb.request? state.machine.readSettings.1.strictMonitors = some request)
      (present : target.object ∈ state.machine.heap.objects)
      (awake : (state.outlook.stance me).awaits = none) :
      Move state
        (Deed.ofLog (state.outlook.stance me).isCalling
          (placed target.object [((state.currentToken me).1, .called request)]))
        (state.beginRequest me target.object request (state.waitDeadline verb))
  | go (alive : state.machine.ended = none)
      (stepped : (state.machine.heap.monitor object).step (state.thread me).token =
        some (note, monitor))
      (shown : state.machine.stepMonitor (state.thread me).token object = some after) :
      Move state
        (Deed.ofLog (state.outlook.stance me).isCalling
          (placed object ((state.machine.heap.monitor object).happenings (state.thread me).token
            note monitor)))
        (state.setMachine after)
  | stir (alive : state.machine.ended = none) (present : object ∈ state.machine.heap.objects)
      (moved : Monitor.Move (state.machine.heap.monitor object) log monitor)
      (silent : ∀ thread, Silent thread log) :
      Move state (Deed.ofLog false (placed object log))
        (state.setMachine { state.machine with
          heap := state.machine.heap.setMonitor object monitor })
  | elapse (alive : state.machine.ended = none) (clock : Nat) : Move state [] { state with clock }
  | switch (alive : state.machine.ended = none) (running : Nat) :
      Move state [] { state with running }

/-- A scenario that is run makes such moves, until its process ends. -/
theorem run_moves (state : State) (fuel : Nat) :
    ∃ deeds, Runs Move state deeds (state.run fuel) :=
  runs_run (fun _ index alive => ⟨_, .turn alive index⟩)
    (fun _ clock alive => ⟨_, .elapse alive clock⟩)
    (fun _ running alive => ⟨_, .switch alive running⟩) state fuel

/-- What threads do in the given order. -/
def deedsIn : State → List Nat → List Deed
  | _, [] => []
  | state, me :: order => state.deeds me ++ deedsIn (state.stepThread me) order

/-- The process has not ended before any of these turns. -/
def survives : State → List Nat → Bool
  | _, [] => true
  | state, me :: order => state.machine.ended.isNone && (state.stepThread me).survives order

theorem moves_takeTurns {state : State} {order : List Nat} (lives : state.survives order = true) :
    Runs Move state (state.deedsIn order) (state.takeTurns order) := by
  induction order generalizing state with
  | nil => exact .start state
  | cons me order ih =>
    simp only [survives, Bool.and_eq_true, Option.isNone_iff_eq_none] at lives
    exact ((Runs.start state).next (.turn lives.1 me)).append (ih lives.2)

/-- Threads at the beginning of programs that call a synchronized method of an object and use
monitors. Nobody has used a monitor yet, and there are tokens for all threads. -/
structure Sharing (first : State) (r : Ref) : Prop where
  alive : first.machine.ended = none
  present : r.object ∈ first.machine.heap.objects
  fresh : ∀ object, first.machine.heap.monitor object = {}
  unframed : ∀ me, (first.strand me).frames = []
  programs : ∀ me, me < first.threads.size → ∃ program,
    (first.strand me).control = .run program ∧ ∀ step ∈ program, Allowed first r step
  ready : ∀ me, (first.thread me).waiting = .ready
  apart : ∀ me other, (first.thread me).token ≠ nobody →
    (first.thread me).token = (first.thread other).token → me = other
  below : ∀ me, (first.thread me).token < first.machine.tokens.next
  enough : first.machine.tokens.next.toNat + first.threads.size < UInt64.size

end State

/-- All levels at monitors are told by the history, those of calls and the others. -/
structure Booked (history : List Deed) (state : State) : Prop where
  consistent : ∀ object, Consistent (state.machine.heap.monitor object)
  levels : ∀ object thread, balance (Deed.happenings true object history) thread +
    balance (Deed.happenings false object history) thread =
      credit (state.machine.heap.monitor object) thread

/-- Once all calls have returned, the field has counted them, and they hold no levels. -/
structure Settled (first : State) (r : Ref) (history : List Deed) (state : State) : Prop where
  field : state.firstField r = first.firstField r + UInt32.ofNat (history.countP Deed.isCall)
  even : ∀ thread, balance (Deed.happenings true r.object history) thread = 0

structure Sound (first : State) (r : Ref) (history : List Deed) (state : State) : Prop where
  booked : Booked history state
  orderly : state.machine.ended = none → Orderly first r (ledger r.object history) state.outlook
  settled : AllReturned history → Settled first r history state

section
variable {first state after : State} {r : Ref} {history marks : List Deed} {me : Nat}
  {log log' : Machine.Log}

theorem Booked.move (booked : Booked history state) (calling : Bool)
    (unmarked : ∀ calling object, Deed.happenings calling object marks = [])
    (runs : ∀ object, Runs Monitor.Move (state.machine.heap.monitor object) (logAt object log)
      (after.machine.heap.monitor object)) :
    Booked (history ++ (Deed.ofLog calling log ++ marks)) after := by
  constructor
  case consistent =>
    intro object
    exact (Monitor.credit_of_runs (runs object) (booked.consistent object) nobody).1
  case levels =>
    intro object thread
    have held := booked.levels object thread
    have moved := (Monitor.credit_of_runs (runs object) (booked.consistent object) thread).2
    simp only [Deed.happenings_append, Deed.happenings_ofLog, unmarked, Monitor.balance_append,
      Monitor.balance_nil]
    cases calling <;> simp [Monitor.balance_nil] <;> omega

/-- When all calls have returned, no thread is in one. -/
theorem Orderly.outside {ledger : Ledger} {now : Outlook} (orderly : Orderly first r ledger now)
    (me : Nat) (returned : ledger.calls me = ledger.returns me) :
    Stands first r ledger (now.heap.monitor r.object) ((now.heap.fields r).readWord32 0) me
      (now.stance me) .outside := by
  obtain ⟨place, stands⟩ := orderly.stands me
  have calls := stands.calls
  cases place with
  | outside => exact stands
  | _ =>
    simp only [Place.begun] at calls
    omega

theorem Orderly.settled (orderly : Orderly first r (ledger r.object history) state.outlook)
    (returned : AllReturned history) : Settled first r history state := by
  have outside (me : Nat) := orderly.outside me (returned me)
  constructor
  case field =>
    have field := orderly.ground.field
    have written : (ledger r.object history).written = history.countP Deed.isCall :=
      Deed.countP_isStore fun me => (outside me).stores.trans (returned me).symm
    rw [written] at field
    exact field
  case even =>
    intro thread
    by_cases owned : ∃ me, (state.outlook.stance me).token = thread
    · obtain ⟨me, rfl⟩ := owned
      exact (outside me).meets
    · exact orderly.owed thread (.inr fun me same => owned ⟨me, same⟩)

/-- The process may end while a thread is in a request. If all calls have returned then, the request
belongs to none. -/
theorem Orderly.settled_over (orderly : Orderly first r (ledger r.object history) state.outlook)
    (me : Nat) (fields : after.firstField r = state.firstField r)
    (returned : AllReturned (history ++ Deed.ofLog (state.outlook.stance me).isCalling log)) :
    Settled first r (history ++ Deed.ofLog (state.outlook.stance me).isCalling log) after := by
  have booked := ledger_ofLog r.object history (state.outlook.stance me).isCalling log
  have before : AllReturned history := fun me => by
    have calls := congrArg (Ledger.calls · me) booked
    have returns := congrArg (Ledger.returns · me) booked
    exact calls.symm.trans ((returned me).trans returns)
  have settled := orderly.settled before
  have calling : (state.outlook.stance me).isCalling = false := by
    have outside := (orderly.outside me (before me)).reads.isCalling_iff
    simpa using outside
  rw [calling]
  constructor
  case field =>
    have calls : (Deed.ofLog false log).countP Deed.isCall = 0 :=
      Deed.countP_ofLog false log fun _ _ _ _ => rfl
    rw [fields, List.countP_append, calls, Nat.add_zero]
    exact settled.field
  case even =>
    intro thread
    rw [Deed.happenings_append, Deed.happenings_ofLog, if_neg nofun, List.append_nil]
    exact settled.even thread

theorem happenings_marks (state after : State) (me : Nat) (calling : Bool) (object : UInt64) :
    Deed.happenings calling object (state.marks after me) = [] := by
  unfold State.marks
  cases (state.strand me).upcoming with
  | none => rfl
  | some instruction =>
    cases instruction with
    | unlock =>
      simp only [Option.map_some, Option.getD_some, Instruction.marks]
      split <;> rfl
    | _ => rfl

namespace Sound

/-- A move after which the process goes on. -/
theorem of_orderly (booked : Booked history state)
    (orderly : Orderly first r (ledger r.object history) state.outlook) :
    Sound first r history state :=
  ⟨booked, fun _ => orderly, orderly.settled⟩

theorem turn (sound : Sound first r history state) (alive : state.machine.ended = none) (me : Nat) :
    Sound first r (history ++ state.deeds me) (state.stepThread me) := by
  have orderly := sound.orderly alive
  obtain ⟨worked, run, alike, goes, stopped⟩ :=
    State.turn_orderly orderly sound.booked.consistent me
  have runs (object : UInt64) : Runs Monitor.Move (state.machine.heap.monitor object)
      (logAt object (state.happened me)) ((state.stepThread me).machine.heap.monitor object) :=
    alike.heap ▸ Machine.runs_at run object
  have booked : Booked (history ++ state.deeds me) (state.stepThread me) :=
    sound.booked.move _ (happenings_marks state _ me) runs
  by_cases ended : (state.stepThread me).machine.ended = none
  · exact .of_orderly booked (goes ended)
  · obtain ⟨fields, unmarked⟩ := stopped ended
    refine ⟨booked, fun alive => absurd alive ended, fun returned => ?_⟩
    rw [State.deeds, unmarked, List.append_nil] at returned ⊢
    exact orderly.settled_over me (congrArg (·.readWord32 0) fields) returned

/-- What happens at one monitor keeps all books. -/
theorem booked_at {log : Monitor.Log} (sound : Sound first r history state)
    (present : object ∈ state.machine.heap.objects)
    (moved : Monitor.Move (state.machine.heap.monitor object) log monitor)
    (set : after.machine.heap = state.machine.heap.setMonitor object monitor) (calling : Bool) :
    Booked (history ++ Deed.ofLog calling (placed object log)) after := by
  have runs (place : UInt64) : Runs Monitor.Move (state.machine.heap.monitor place)
      (logAt place (placed object log)) (after.machine.heap.monitor place) := by
    rw [set]
    obtain moved | ⟨silent, same⟩ := shifts_setMonitor present moved place
    · exact (Runs.start _).next moved
    · rw [silent, same]
      exact .start _
  have booked := sound.booked.move calling (fun _ _ => List.filterMap_nil) runs
  rwa [List.append_nil] at booked

theorem begin {instruction : Instruction} {request : MonitorRequest}
    (sound : Sound first r history state) (alive : state.machine.ended = none)
    (known : me < state.threads.size) (upcoming : (state.strand me).upcoming = some instruction)
    (asks : instruction.asks state = some (target, verb))
    (asked : verb.request? strict = some request)
    (present : target.object ∈ state.machine.heap.objects)
    (awake : (state.outlook.stance me).awaits = none) (deadline : Option Nat) :
    Sound first r
      (history ++ Deed.ofLog (state.outlook.stance me).isCalling
        (placed target.object [((state.currentToken me).1, .called request)]))
      (state.beginRequest me target.object request deadline) := by
  obtain ⟨drawn, real, own⟩ :=
    State.currentToken_orderly (sound.orderly alive) sound.booked.consistent known
  have token : ((state.currentToken me).2.outlook.stance me).token = (state.currentToken me).1 :=
    congrArg Stance.token own
  have awaits : ((state.currentToken me).2.outlook.stance me).awaits = none :=
    (congrArg Stance.awaits own).trans awake
  have strand : ((state.currentToken me).2.outlook.stance me).strand = state.strand me :=
    congrArg Stance.strand own
  have idle : (state.machine.heap.monitor target.object).phase (state.currentToken me).1 = .idle :=
    token ▸ drawn.discipline.asked me target.object (awaits ▸ nofun)
  have still (thread : Token) : balance (logAt r.object (placed target.object
      [((state.currentToken me).1, .called request)])) thread = 0 :=
    Machine.balance_logAt_placed (by simp [balance]) ..
  have outlook := State.outlook_beginRequest state me target.object request deadline known
  refine .of_orderly (sound.booked_at present (.call real idle) ?_ _) ?_
  · exact congrArg Outlook.heap outlook
  · rw [ledger_ofLog, Ledger.afterMove_of_balance _ _ still, outlook]
    rw [← token] at real ⊢
    exact drawn.request sound.booked.consistent (strand ▸ upcoming) asks asked present real awaits
      deadline

theorem go {log : Monitor.Log} {machine : Machine} (sound : Sound first r history state)
    (alive : state.machine.ended = none)
    (stepped : (state.machine.heap.monitor object).step (state.thread me).token =
      some (note, monitor))
    (shown : state.machine.stepMonitor (state.thread me).token object = some machine)
    (told : (state.machine.heap.monitor object).happenings (state.thread me).token note monitor =
      log) :
    Sound first r
      (history ++ Deed.ofLog (state.outlook.stance me).isCalling (placed object log))
      (state.setMachine machine) := by
  have orderly := sound.orderly alive
  have present := Machine.present_of_step shown
  obtain ⟨note', monitor', same, set⟩ := Machine.stepMonitor_eq_some shown
  cases same.symm.trans stepped
  have moved : Monitor.Move (state.machine.heap.monitor object) log monitor :=
    told ▸ .go stepped
  have booked : Booked _ (state.setMachine machine) :=
    sound.booked_at present moved set (state.outlook.stance me).isCalling
  by_cases ended : machine.ended = none
  · refine .of_orderly booked ?_
    have fits := Machine.not_overflow_of_alive shown stepped ended
    have went := orderly.go sound.booked.consistent present stepped fits told
    have tokens := Machine.tokens_stepMonitor shown
    rw [ledger_ofLog, State.outlook_setMachine_of_alive alive ended tokens, set]
    exact went
  · refine ⟨booked, fun alive => absurd alive ended, fun returned => ?_⟩
    have fields := Machine.fields_stepMonitor shown r
    exact orderly.settled_over me (congrArg (·.readWord32 0) fields) returned

theorem stir {log : Monitor.Log} (sound : Sound first r history state)
    (alive : state.machine.ended = none) (present : object ∈ state.machine.heap.objects)
    (moved : Monitor.Move (state.machine.heap.monitor object) log monitor)
    (silent : ∀ thread, Silent thread log) :
    Sound first r (history ++ Deed.ofLog false (placed object log))
      (state.setMachine { state.machine with
        heap := state.machine.heap.setMonitor object monitor }) := by
  refine .of_orderly (sound.booked_at present moved rfl false) ?_
  have still (thread : Token) : balance (logAt r.object (placed object log)) thread = 0 :=
    Machine.balance_logAt_placed (silent thread).balance ..
  rw [ledger_ofLog, Ledger.afterMove_of_balance _ _ still]
  exact (sound.orderly alive).wake sound.booked.consistent present moved silent

theorem move {deeds : List Deed} (sound : Sound first r history state)
    (moved : State.Move state deeds after) : Sound first r (history ++ deeds) after := by
  cases moved with
  | turn alive me => exact sound.turn alive me
  | begin alive known upcoming asks asked present awake =>
    exact sound.begin alive known upcoming asks asked present awake _
  | go alive stepped shown => exact sound.go alive stepped shown rfl
  | stir alive present moved silent => exact sound.stir alive present moved silent
  | elapse alive clock =>
    rw [List.append_nil]
    exact .of_orderly { sound.booked with } (sound.orderly alive)
  | switch alive running =>
    rw [List.append_nil]
    exact .of_orderly { sound.booked with } (sound.orderly alive)

end Sound

namespace State.Sharing
variable (sharing : first.Sharing r)
include sharing

theorem reads (me : Nat) : Reads first r (first.outlook.stance me) .outside := by
  have awake : (first.outlook.stance me).awaits = none := by
    simp [Stance.awaits, State.outlook, Thread.stance, sharing.ready]
  by_cases known : me < first.threads.size
  · obtain ⟨program, here, allowed⟩ := sharing.programs me known
    exact .running (sharing.unframed me) here allowed fun _ asleep => absurd awake asleep
  · refine .returned ?_ awake
    by_contra running
    exact known (State.known_of_running running)

theorem discipline : Discipline first.outlook where
  apart := sharing.apart
  below := sharing.below
  enough := by
    have few := Finset.card_filter_le (Finset.range first.threads.size) fun index =>
      (first.outlook.stance index).token = nobody
    rw [Finset.card_range] at few
    exact Nat.lt_of_le_of_lt (Nat.add_le_add_left few _) sharing.enough
  real index awaits := by
    simp [Stance.awaits, State.outlook, Thread.stance, sharing.ready] at awaits
  asked index object _ := by
    rw [State.outlook, sharing.fresh]
    rfl
  strangers thread _ object := by
    rw [State.outlook, sharing.fresh]
    rfl

theorem sound : Sound first r [] first := by
  refine .of_orderly ⟨fun object => ?_, fun object thread => ?_⟩
    ⟨⟨sharing.alive, sharing.present, rfl, rfl, ?_⟩, sharing.discipline, fun _ _ => ?_,
      fun me => ⟨.outside, sharing.reads me, ?_, rfl, rfl, ?_⟩⟩
  · rw [sharing.fresh]
    exact Monitor.consistent_initial
  · rw [sharing.fresh, ← Monitor.balance_eq_credit (.start ({} : Monitor)) thread]
    exact Int.zero_add _
  · exact (UInt32.add_zero _).symm
  · exact Monitor.balance_nil _
  · exact Monitor.balance_nil _
  · exact Nat.zero_add _

end State.Sharing

/-- Any number of threads call a synchronized method of one object, found through its vtable or an
interface, as often as they like, and they and others use its monitor besides, rightly or not. The
turns come in any order, with the read and the write in different turns. Whenever all calls have
returned, the field has its first value and one more for each call, however the calls and all other
threads have been interleaved, and owner and depth of the monitor are those of the levels that
were taken and given back outside of the calls: the ones of any monitor at which nothing else
happened. Whatever the scheduler of the scenario does is among these runs. -/
theorem synchronized_updates {last : State} (sharing : first.Sharing r)
    (run : Runs State.Move first history last) :
    (AllReturned history →
      last.firstField r = first.firstField r + UInt32.ofNat (history.countP Deed.isCall) ∧
      Accounts (Deed.happenings false r.object history) (last.machine.heap.monitor r.object) ∧
      ∀ log other, Runs Monitor.Move {} log other →
        (∀ thread, balance log thread =
          balance (Deed.happenings false r.object history) thread) →
        (∀ thread, (other.phase thread).saved =
          ((last.machine.heap.monitor r.object).phase thread).saved) →
        other.owner = (last.machine.heap.monitor r.object).owner ∧
          other.depth = (last.machine.heap.monitor r.object).depth) ∧
    (last.machine.ended = none → ∀ me,
      history.count (.called me) + callsLeft (last.strand me) = callsLeft (first.strand me)) ∧
    ∀ fuel, ∃ deeds, Runs State.Move first deeds (first.run fuel) := by
  have sound : Sound first r history last := by
    induction run with
    | start => exact sharing.sound
    | next _ moved ih => exact ih.move moved
  refine ⟨?_, ?_, first.run_moves⟩
  · intro returned
    have settled := sound.settled returned
    have accounts : Accounts (Deed.happenings false r.object history)
        (last.machine.heap.monitor r.object) := by
      refine Machine.accounts_of_credit (sound.booked.consistent _) fun thread => ?_
      have held := sound.booked.levels r.object thread
      rwa [settled.even, Int.zero_add] at held
    exact ⟨settled.field, accounts, fun log other alone levels waits =>
      accounts.unique (Machine.accounts_of_runs alone) levels waits⟩
  · intro alive me
    obtain ⟨place, stands⟩ := (sound.orderly alive).stands me
    exact stands.left

end

/-- An object with one field, and the table of its class. -/
def cell : Ref := ⟨16, 64⟩

def cellTable : Memory.Block :=
  let increment := MethodCode.address 4096 (.compiled .increment)
  let blueprint : Dispatch.Blueprint := { methods := [increment], interfaces := [⟨5, 0⟩] }
  match blueprint.build fun _ => 0 with
  | .ok table => table
  | .error _ => .zeroed 0

/-- One thread calls with the monitor held and takes it once more in the end. The other one calls
through the interface. -/
def contended : State where
  machine :=
    { heap :=
        { objects := Std.ExtTreeMap.empty.insert 16 { fields := .zeroed 4 }
          tables := Std.TreeMap.empty.insert 64 cellTable } }
  codeBase := 4096
  references := [("cell", cell)]
  threads := #[
    { strand := { control := .run [.act (.monitor .enter "cell" .direct true),
        .act (.invoke cell none 0 false), .act (.monitor .exit "cell" .direct true),
        .act (.monitor .enter "cell" .direct true)] } },
    { strand := { control := .run [.act (.invoke cell (some 5) 0 true), .act .leaveThread] } }]

/-- The second call has to wait for the first thread to let go of the monitor. -/
def contention : List Nat := [0, 1, 0, 1, 0, 0, 1, 0, 0, 0, 1, 1, 1, 1, 0]

def counted : State := contended.takeTurns contention

theorem sharing_contended : contended.Sharing cell where
  alive := rfl
  present := by decide +kernel
  fresh object := by
    simp only [contended, Heap.monitor, Std.ExtTreeMap.getElem?_insert]
    split
    · rfl
    · simp
  unframed me := by
    rcases me with _ | _ | _ <;> rfl
  programs me known := by
    rcases me with _ | _ | me
    · refine ⟨_, rfl, ?_⟩
      simp only [List.forall_mem_cons, List.not_mem_nil, false_implies, implies_true, and_true]
      refine ⟨.monitor _ _ _ _, .invoke ?_ _, .monitor _ _ _ _, .monitor _ _ _ _⟩
      show MethodCode.ofAddress _ _ = _
      decide +kernel
    · refine ⟨_, rfl, ?_⟩
      simp only [List.forall_mem_cons, List.not_mem_nil, false_implies, implies_true, and_true]
      refine ⟨.invoke ?_ _, .leaveThread⟩
      show MethodCode.ofAddress _ _ = _
      decide +kernel
    · exact absurd known (by simp [contended])
  ready me := by
    rcases me with _ | _ | _ <;> rfl
  apart me other real := by
    rcases me with _ | _ | _ <;> exact absurd rfl real
  below me := by
    rcases me with _ | _ | _
    · decide
    · decide
    · exact (by decide : (0 : UInt64) < 1)
  enough := by decide +kernel

theorem synchronized_updates_contended :
    ∃ history, Runs State.Move contended history counted ∧ AllReturned history ∧
      history.countP Deed.isCall = 2 ∧ counted.firstField cell = 2 ∧
      Accounts (Deed.happenings false cell.object history)
        (counted.machine.heap.monitor cell.object) ∧
      (counted.machine.heap.monitor cell.object).owner = 1 ∧
      (counted.machine.heap.monitor cell.object).depth = 1 := by
  have run : Runs State.Move contended (contended.deedsIn contention) counted :=
    State.moves_takeTurns (by decide +kernel)
  have two : (contended.deedsIn contention).countP Deed.isCall = 2 := by decide +kernel
  have returned : AllReturned (contended.deedsIn contention) := by decide +kernel
  obtain ⟨field, accounts, -⟩ := (synchronized_updates sharing_contended run).1 returned
  refine ⟨_, run, returned, two, ?_, accounts, by decide +kernel, by decide +kernel⟩
  rw [two] at field
  exact field.trans (by decide +kernel)

end ManagedRuntime.Scenario
