import ManagedRuntime.Proofs.Machine.Monitors
import ManagedRuntime.Proofs.Monitor.Balance
import ManagedRuntime.Proofs.Monitor.Requests

/-! Who owns the monitors of a process and how deep, told by the calls that threads have made. -/
namespace ManagedRuntime.Machine
open Monitor (balance Happening)

/-- The state of a monitor agrees with what happened at it. A thread has a saved depth from the
step of its wait that gives up the lock to the step that takes it back. -/
structure Accounts (history : Monitor.Log) (monitor : Monitor) : Prop where
  vacant : monitor.owner = nobody ↔ monitor.depth = 0
  settled : ∀ thread, (monitor.phase thread).saved = none →
    balance history thread = if monitor.owner = thread then (monitor.depth.toNat : Int) else 0
  waiting : ∀ thread depth, (monitor.phase thread).saved = some depth →
    monitor.owner ≠ thread ∧ balance history thread = depth.toNat ∧ 1 ≤ balance history thread
  alone : ∀ first second,
    (monitor.phase first).saved = none → 0 < balance history first →
    (monitor.phase second).saved = none → 0 < balance history second → first = second

/-- Counting levels stays within the numbers there are. -/
structure Counts (machine : Machine) (me : Token) (object : UInt64) (after : Machine) : Prop where
  exit : machine.monitorPhase me object = .inside .exit → (machine.heap.monitor object).owner = me →
    (after.heap.monitor object).depth.toNat + 1 = (machine.heap.monitor object).depth.toNat
  enter : machine.monitorPhase me object = .inside .enter →
    (machine.heap.monitor object).owner = me →
    (machine.heap.monitor object).depth.toNat + 1 < UInt32.size →
    (after.heap.monitor object).depth.toNat = (machine.heap.monitor object).depth.toNat + 1
  overflow : machine.monitorPhase me object = .inside .enter →
    (machine.heap.monitor object).owner = me →
    (machine.heap.monitor object).depth.toNat + 1 = UInt32.size →
    (after.heap.monitor object).depth = (machine.heap.monitor object).depth ∧
      ∃ stopped : Machine, after = stopped.trap .monitorOverflow

/-- A history accounts for a monitor when it tells what is held for each thread. -/
theorem accounts_of_credit {monitor : Monitor} (consistent : monitor.Consistent)
    (owes : ∀ thread, balance history thread = monitor.credit thread) :
    Accounts history monitor := by
  have settled (thread : Token) (none : (monitor.phase thread).saved = none) :
      balance history thread =
        if monitor.owner = thread then (monitor.depth.toNat : Int) else 0 := by
    rw [owes, Monitor.credit, none]
    exact apply_ite _ _ _ _
  refine ⟨consistent.owned, settled, ?_, ?_⟩
  · intro thread depth saved
    obtain ⟨other, real⟩ := consistent.saved thread depth saved
    have held : balance history thread = depth.toNat := by rw [owes, Monitor.credit, saved]
    have positive := Monitor.toNat_positive real
    exact ⟨other, held, by omega⟩
  · have owner {thread : Token} (none : (monitor.phase thread).saved = none)
        (inside : 0 < balance history thread) : monitor.owner = thread := by
      by_contra other
      rw [settled thread none, if_neg other] at inside
      exact absurd inside (by omega)
    intro first second none inside none' inside'
    exact (owner none inside).symm.trans (owner none' inside')

theorem accounts_of_runs {monitor : Monitor} (run : Runs Monitor.Move {} history monitor) :
    Accounts history monitor :=
  accounts_of_credit (Monitor.consistent_of_runs run) (Monitor.balance_eq_credit run)

namespace Accounts
variable {history others : Monitor.Log} {monitor other : Monitor}

/-- Who owns a monitor and how deep is told by the accounts and by who waits there. -/
theorem depth_of_owner (accounts : Accounts history monitor) (accounts' : Accounts others other)
    (levels : ∀ thread, balance others thread = balance history thread)
    (waits : ∀ thread, (other.phase thread).saved = (monitor.phase thread).saved)
    (owned : monitor.owner ≠ nobody) :
    other.owner = monitor.owner ∧ other.depth = monitor.depth := by
  have unsaved : (monitor.phase monitor.owner).saved = none := by
    by_contra saved
    obtain ⟨depth, saved⟩ := Option.ne_none_iff_exists'.mp saved
    exact (accounts.waiting _ _ saved).1 rfl
  have held := accounts.settled _ unsaved
  have held' := accounts'.settled _ ((waits _).trans unsaved)
  rw [if_pos rfl] at held
  rw [levels, held] at held'
  have deep : monitor.depth.toNat ≠ 0 := fun zero =>
    owned (accounts.vacant.mpr (UInt32.toNat_inj.mp zero))
  split at held'
  · next owner => exact ⟨owner, (UInt32.toNat_inj.mp (Int.ofNat_inj.mp held')).symm⟩
  · omega

theorem unique (accounts : Accounts history monitor) (accounts' : Accounts others other)
    (levels : ∀ thread, balance others thread = balance history thread)
    (waits : ∀ thread, (other.phase thread).saved = (monitor.phase thread).saved) :
    other.owner = monitor.owner ∧ other.depth = monitor.depth := by
  by_cases owned : monitor.owner = nobody
  · by_cases owned' : other.owner = nobody
    · exact ⟨owned'.trans owned.symm,
        (accounts'.vacant.mp owned').trans (accounts.vacant.mp owned).symm⟩
    · obtain ⟨owner, depth⟩ := accounts'.depth_of_owner accounts
        (fun thread => (levels thread).symm) (fun thread => (waits thread).symm) owned'
      exact ⟨owner.symm, depth.symm⟩
  · exact accounts.depth_of_owner accounts' levels waits owned

end Accounts

theorem counts_of_step {machine after : Machine}
    (consistent : (machine.heap.monitor object).Consistent)
    (shown : machine.stepMonitor me object = some after) : Counts machine me object after := by
  obtain ⟨note, monitor, stepped, set⟩ := stepMonitor_eq_some shown
  have here : after.heap.monitor object = monitor := by
    rw [monitor_of_set (present_of_step shown) set, if_pos rfl]
  have taken := Monitor.step_advance stepped
  rw [← here] at taken
  constructor
  · intro exits owns
    exact Monitor.depth_of_exit consistent taken exits owns
  · intro enters owns fits
    obtain ⟨-, deeper⟩ | ⟨full, -⟩ := Monitor.depth_of_enter taken enters owns
    · exact deeper
    · exact absurd fits (Nat.not_lt.mpr full)
  · intro enters owns full
    obtain ⟨fits, -⟩ | ⟨-, kept, rfl⟩ := Monitor.depth_of_enter taken enters owns
    · exact absurd full (Nat.ne_of_lt fits)
    · simp only [stepMonitor, stepped, Option.map_some, Option.some.injEq] at shown
      exact ⟨kept, _, shown.symm⟩

/-- Threads call the monitors of a process in any order, rightly or not. Then every monitor has an
owner exactly when it has a depth, each thread has the levels it took and did not give back, at
most one of them is inside, and no level is miscounted: an exit always has one to take away and
an enter past the last one ends the process. The wait of an owner gives back what it took, and
without the lock an exit or a wait changes neither owner nor depth. What the process does about a
request is made of such moves. -/
theorem monitor_ownership {first machine : Machine} (run : Runs Move first history machine)
    (fresh : ∀ object, first.heap.monitor object = {}) (object : UInt64)
    (present : object ∈ machine.heap.objects) :
    Accounts (logAt object history) (machine.heap.monitor object) ∧
    (∀ me after, machine.stepMonitor me object = some after → Counts machine me object after) ∧
    (∀ me late before, me ≠ nobody → machine.monitorPhase me object = .idle →
      (machine.heap.monitor object).owner = me →
      Runs Move (machine.call me object .wait) late before →
      (me, .returned) ∉ logAt object late →
      Monitor.Waits me (machine.heap.monitor object).depth (before.heap.monitor object) ∧
      ∀ now after, Move before now after → (me, .returned) ∈ logAt object now →
        (after.heap.monitor object).owner = me ∧
          (after.heap.monitor object).depth = (machine.heap.monitor object).depth) ∧
    (∀ me request late before after, me ≠ nobody → machine.monitorPhase me object = .idle →
      request = .exit ∨ request = .wait → (machine.heap.monitor object).owner ≠ me →
      Runs Move (machine.call me object request) late before →
      (me, .returned) ∉ logAt object late →
      before.stepMonitor me object = some after →
      (after.heap.monitor object).owner = (before.heap.monitor object).owner ∧
        (after.heap.monitor object).depth = (before.heap.monitor object).depth) ∧
    (∀ me request, machine.ended = none → me ≠ nobody → machine.monitorPhase me object = .idle →
      ∃ now, Runs Move machine now (machine.request me object request)) := by
  have alone : Runs Monitor.Move {} (logAt object history) (machine.heap.monitor object) := by
    have alone := runs_at run object
    rwa [fresh] at alone
  have consistent := Monitor.consistent_of_runs alone
  have called (me : Token) (request : MonitorRequest) :
      (machine.call me object request).heap.monitor object =
        (machine.heap.monitor object).begin me request := by
    rw [monitor_of_set present rfl, if_pos rfl]
  refine ⟨accounts_of_runs alone, fun me after shown => counts_of_step consistent shown,
    ?_, ?_, ?_⟩
  · intro me late before real idle owns rest unreturned
    have began := runs_at rest object
    rw [called] at began
    obtain ⟨consistent, waits⟩ :=
      (Monitor.waits_begin owns).until_returned (consistent.begin real idle) began unreturned
    refine ⟨waits, fun now after moved returns => ?_⟩
    obtain moves | ⟨silent, -⟩ := move_at moved object
    · exact waits.returned consistent moves returns
    · simp [silent] at returns
  · intro me request late before after real idle wrong other rest unreturned shown
    have began := runs_at rest object
    rw [called] at began
    obtain ⟨-, misuses⟩ := (Monitor.misuses_begin wrong other).until_returned
      (consistent.begin real idle) began unreturned
    obtain ⟨note, monitor, stepped, set⟩ := stepMonitor_eq_some shown
    have here : after.heap.monitor object = monitor := by
      rw [monitor_of_set (present_of_step shown) set, if_pos rfl]
    obtain ⟨owner, depth, -⟩ := misuses.advance (Monitor.step_advance stepped)
    rw [here]
    exact ⟨owner, depth⟩
  · intro me request alive real idle
    exact request_runs request alive present real idle

/-- Lets threads have their turns at one object; there is nothing if one of them cannot. -/
def follow (machine : Machine) (object : UInt64) : List Monitor.Turn → Option (Log × Machine)
  | [] => some ([], machine)
  | .call me request :: rest =>
    if machine.ended = none ∧ object ∈ machine.heap.objects ∧ me ≠ nobody ∧
        machine.monitorPhase me object = .idle then do
      let (log, after) ← (machine.call me object request).follow object rest
      some (placed object [(me, .called request)] ++ log, after)
    else none
  | .go me :: rest =>
    if machine.ended = none then do
      let (note, monitor) ← (machine.heap.monitor object).step me
      let stepped ← machine.stepMonitor me object
      let (log, after) ← stepped.follow object rest
      some (placed object ((machine.heap.monitor object).happenings me note monitor) ++ log, after)
    else none

theorem runs_of_follow {machine after : Machine} {turns : List Monitor.Turn} {history : Log}
    (followed : machine.follow object turns = some (history, after)) :
    Runs Move machine history after := by
  induction turns generalizing machine history with
  | nil =>
    cases followed
    exact .start _
  | cons turn rest ih =>
    cases turn with
    | call me request =>
      simp only [follow, Option.ite_none_right_eq_some, Option.bind_eq_bind,
        Option.bind_eq_some_iff, Option.some.injEq, Prod.mk.injEq] at followed
      obtain ⟨⟨alive, present, real, idle⟩, ⟨later, last⟩, followed, rfl, rfl⟩ := followed
      exact ((Runs.start machine).next (.call request alive present real idle)).append (ih followed)
    | go me =>
      simp only [follow, Option.ite_none_right_eq_some, Option.bind_eq_bind,
        Option.bind_eq_some_iff, Option.some.injEq, Prod.mk.injEq] at followed
      obtain ⟨alive, ⟨note, monitor⟩, steps, stepped, shown, ⟨later, last⟩, followed, rfl, rfl⟩ :=
        followed
      exact ((Runs.start machine).next (.go alive steps shown)).append (ih followed)

/-- A process with one object, at address 16. -/
def lone : Machine where
  heap := { objects := Std.ExtTreeMap.empty.insert 16 { fields := .zeroed 0 } }

theorem fresh_lone (object : UInt64) : lone.heap.monitor object = {} := by
  simp only [lone, Heap.monitor, Std.ExtTreeMap.getElem?_insert]
  split
  · rfl
  · simp

theorem present_lone : 16 ∈ lone.heap.objects := by simp [lone]

example : (lone.request 1 16 .enter).heap.monitor 16 = { owner := 1, depth := 1 } := by rfl

/-- What comes of turns at the object of a process, if all of them can be had. -/
def played (machine : Machine) (turns : List Monitor.Turn) : Log × Machine :=
  (machine.follow 16 turns).getD ([], machine)

theorem runs_played {machine : Machine} {turns : List Monitor.Turn}
    (had : (machine.follow 16 turns).isSome = true) :
    Runs Move machine (machine.played turns).1 (machine.played turns).2 := by
  obtain ⟨⟨history, after⟩, followed⟩ := Option.isSome_iff_exists.mp had
  rw [played, followed]
  exact runs_of_follow followed

/-- A thread enters twice. -/
def entered : Log × Machine :=
  lone.played [.call 1 .enter, .go 1, .go 1, .go 1, .call 1 .enter, .go 1, .go 1]

/-- While it waits another one takes the lock. -/
def barged : Log × Machine :=
  (entered.2.call 1 16 .wait).played [.go 1, .go 1, .go 1, .go 1, .call 2 .enter, .go 2, .go 2,
    .go 2]

/-- A third one is about to leave what it never entered. -/
def misused : Log × Machine := (barged.2.call 3 16 .exit).played [.go 3]

/-- The second one notifies, and leaves only when the first has found the lock taken. -/
def handedOver : Log × Machine :=
  (entered.2.call 1 16 .wait).played [.go 1, .go 1, .go 1, .go 1, .call 2 .enter, .go 2, .go 2,
    .go 2, .call 2 (.notify false false), .go 2, .go 2, .go 1, .go 1, .call 2 .exit, .go 2, .go 2,
    .go 2, .go 1]

theorem monitor_ownership_barged : ∃ history left returned,
    Accounts history (barged.2.heap.monitor 16) ∧ (barged.2.heap.monitor 16).owner = 2 ∧
      Monitor.Waits 1 2 (barged.2.heap.monitor 16) ∧
      misused.2.stepMonitor 3 16 = some left ∧ (left.heap.monitor 16).owner = 2 ∧
      (left.heap.monitor 16).depth = 1 ∧
      handedOver.2.stepMonitor 1 16 = some returned ∧ (returned.heap.monitor 16).owner = 1 ∧
      (returned.heap.monitor 16).depth = 2 := by
  have present {machine : Machine} (there : (machine.heap.objects[(16 : UInt64)]?).isSome = true) :
      16 ∈ machine.heap.objects :=
    Std.ExtTreeMap.mem_iff_isSome_getElem?.mpr there
  have early : Runs Move lone entered.1 entered.2 := runs_played (by decide +kernel)
  have owns : (entered.2.heap.monitor 16).owner = 1 := by decide +kernel
  have deep : (entered.2.heap.monitor 16).depth = 2 := by decide +kernel
  have idle : entered.2.monitorPhase 1 16 = .idle := by decide +kernel
  have there : 16 ∈ entered.2.heap.objects := present (by decide +kernel)
  have waiting := (monitor_ownership early fresh_lone 16 there).2.2.1 1
  rw [deep] at waiting
  have late : Runs Move (entered.2.call 1 16 .wait) barged.1 barged.2 :=
    runs_played (by decide +kernel)
  obtain ⟨waits, -⟩ := waiting _ _ (by decide) idle owns late (by decide +kernel)
  have later : Runs Move (entered.2.call 1 16 .wait) handedOver.1 handedOver.2 :=
    runs_played (by decide +kernel)
  obtain ⟨-, returns⟩ := waiting _ _ (by decide) idle owns later (by decide +kernel)
  have whole := (early.next (.call .wait (by decide +kernel) there (by decide) idle)).append late
  obtain ⟨accounts, -, -, misuses, -⟩ :=
    monitor_ownership whole fresh_lone 16 (present (by decide +kernel))
  have rest : Runs Move (barged.2.call 3 16 .exit) misused.1 misused.2 :=
    runs_played (by decide +kernel)
  obtain ⟨left, leaves⟩ : ∃ left, misused.2.stepMonitor 3 16 = some left :=
    Option.isSome_iff_exists.mp (by decide +kernel)
  obtain ⟨owner, depth⟩ := misuses 3 .exit _ _ left (by decide) (by decide +kernel) (.inl rfl)
    (by decide +kernel) rest (by decide +kernel) leaves
  obtain ⟨returned, shown⟩ : ∃ returned, handedOver.2.stepMonitor 1 16 = some returned :=
    Option.isSome_iff_exists.mp (by decide +kernel)
  have stepped : (handedOver.2.heap.monitor 16).step 1 =
      some (none, { owner := 1, depth := 2 }) := by
    decide +kernel
  obtain ⟨owner', depth'⟩ := returns _ returned (.go (by decide +kernel) stepped shown)
    (by decide +kernel)
  refine ⟨_, left, returned, accounts, by decide +kernel, waits, leaves, ?_, ?_, shown, owner',
    depth'⟩
  · rw [owner]
    decide +kernel
  · rw [depth]
    decide +kernel

end ManagedRuntime.Machine
