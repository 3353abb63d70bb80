import ManagedRuntime.Proofs.Scenario.Requests

/-! Turns of threads that call a synchronized method of one object and use monitors besides. Each
turn is a run of moves of the process and leaves the threads in order. -/
namespace ManagedRuntime.Scenario
open Exception Machine
open Monitor (Within Consistent balance)

/-- A thread that is through with an unlock has returned from its call. -/
def Ledger.afterRequest (ledger : Ledger) (me : Nat) : Instruction → Ledger
  | .unlock _ => ledger.afterReturn me
  | _ => ledger

section
variable {first : State} {r target : Ref} {ledger after : Ledger} {now : Outlook} {me : Nat}
  {place : Place}

/-- A thread that has been through a request goes on with its code. -/
theorem Orderly.settle {state : State} {instruction : Instruction} {todo : List Step}
    (orderly : Orderly first r ledger now)
    (here : (now.stance me).strand.control = .run (.act instruction :: todo))
    (asks : instruction.asks state = some (target, verb))
    (asked : (now.stance me).awaits = none → ∃ verb name route quiet,
      instruction = .monitor verb name route quiet)
    (idle : ∀ object, (now.stance me).awaits = some object →
      (now.heap.monitor object).phase (now.stance me).token = .idle) :
    Orderly first r (ledger.afterRequest me instruction)
      (now.setStance me { now.stance me with
        waiting := .ready
        strand := { (now.stance me).strand with control := .run todo } }) := by
  obtain ⟨place, stands⟩ := orderly.stands me
  have upcoming : (now.stance me).strand.upcoming = some instruction := by
    simp only [Strand.upcoming, here]
  have cases := stands.reads.asks upcoming asks
  have meets := stands.meets
  cases stands.reads with
  | returned returned => simp [here] at returned
  | running frames shown allowed sleeps =>
    rename_i rest
    have same := here.symm.trans shown
    have left := stands.left_of_running here
    obtain ⟨rfl, verb, name, route, quiet, rfl⟩ | ⟨rfl, rfl, rfl⟩ | ⟨rfl, rfl, rfl⟩ := cases
    · cases same
      refine orderly.setStance rfl (.inr ⟨rfl, idle⟩) .rfl
        ⟨.outside, { stands with reads := ?_, meets := meets, left }⟩
      exact .running frames rfl (fun step later => allowed step (List.mem_cons_of_mem _ later))
        fun _ awake => absurd rfl awake
    · cases same
      obtain ⟨awake, -⟩ | ⟨awaits, within⟩ := meets
      · obtain ⟨_, _, _, _, ⟨⟩⟩ := asked awake
      · refine orderly.setStance rfl (.inr ⟨rfl, idle⟩) .rfl
          ⟨.loading,
            { stands with reads := ?_, meets := ⟨rfl, within.arrive (idle _ awaits)⟩, left }⟩
        exact .running frames rfl allowed (by rintro ⟨⟩)
    · cases same
      obtain ⟨awake, -⟩ | ⟨awaits, within⟩ := meets
      · obtain ⟨_, _, _, _, ⟨⟩⟩ := asked awake
      · refine orderly.setStance rfl (.inr ⟨rfl, idle⟩) .afterReturn ⟨.outside,
          { reads := ?_, meets := within.out (idle _ awaits), calls := ?_, stores := ?_, left }⟩
        · exact .running frames rfl allowed fun _ awake => absurd rfl awake
        · exact stands.calls.trans (ledger.returns_afterReturn me).symm
        · exact stands.stores.trans (ledger.returns_afterReturn me).symm

theorem Place.Meets.congr {stance other : Stance} {monitor : Monitor} {field : UInt32}
    {level : Int} (meets : place.Meets r monitor field stance level)
    (token : other.token = stance.token) (awaits : other.awaits = stance.awaits)
    (scratch : other.scratch = stance.scratch) : place.Meets r monitor field other level := by
  cases place <;> simpa only [Meets, token, awaits, scratch] using meets

/-- A thread that sleeps may change its mind about how long. -/
theorem Orderly.sleep (orderly : Orderly first r ledger now) (me : Nat) (waiting : Waiting)
    (awaits : Stance.awaits { now.stance me with waiting } = (now.stance me).awaits) :
    Orderly first r ledger (now.setStance me { now.stance me with waiting }) := by
  obtain ⟨place, stands⟩ := orderly.stands me
  refine orderly.setStance rfl (.inl awaits) .rfl ⟨place, { stands with reads := ?_, meets := ?_ }⟩
  · exact stands.reads.congr rfl awaits
  · exact stands.meets.congr rfl awaits rfl

end

/-- What an instruction means for calls. A call begins with the lookup of the method; it returns
when the thread is `through` with the unlock. -/
def Instruction.marks (me : Nat) (through : Bool) : Instruction → List Deed
  | .invoke _ _ _ _ => [.called me]
  | .store _ => [.stored me]
  | .unlock _ => if through then [.returned me] else []
  | _ => []

namespace State

/-- Whether the thread has still to give the lock back. -/
def isLeaving (state : State) (me : Nat) : Bool :=
  match (state.strand me).upcoming with
  | some (.unlock _) => true
  | _ => false

/-- What a turn of a thread means for its calls. -/
def marks (before after : State) (me : Nat) : List Deed :=
  let through := after.machine.ended.isNone && !after.isLeaving me
  ((before.strand me).upcoming.map (Instruction.marks me through)).getD []

/-- All that a thread does in its turn. -/
def deeds (state : State) (me : Nat) : List Deed :=
  Deed.ofLog (state.outlook.stance me).isCalling (state.happened me) ++
    state.marks (state.stepThread me) me

/-- A turn is a run of moves, and leaves the threads in order. One that ends the process has been in
a request, and no call has returned in it. -/
def Turned (first : State) (r : Ref) (history : List Deed) (state : State) (me : Nat) : Prop :=
  ∃ worked, Runs Machine.Move state.machine (state.happened me) worked ∧
    Machine.Alike worked (state.stepThread me).machine ∧
    ((state.stepThread me).machine.ended = none →
      Orderly first r (ledger r.object (history ++ state.deeds me)) (state.stepThread me).outlook) ∧
    ((state.stepThread me).machine.ended ≠ none →
      (state.stepThread me).machine.heap.fields r = state.machine.heap.fields r ∧
        state.marks (state.stepThread me) me = [])

section
variable {first state later : State} {r : Ref} {history : List Deed} {me : Nat}

/-- A turn without any business at monitors. -/
theorem Turned.of_outlook (alive : state.machine.ended = none)
    (quiet : (state.strand me).upcoming.bind (Instruction.asks state) = none)
    (goes : (state.stepThread me).machine.ended = none)
    (monitors : ∀ object, (state.stepThread me).machine.heap.monitor object =
      state.machine.heap.monitor object)
    (orderly : Orderly first r
      (ledger r.object (history ++ state.marks (state.stepThread me) me))
      (state.stepThread me).outlook) : Turned first r history state me := by
  have silent : state.happened me = [] := by
    rw [happened, quiet]
  refine ⟨_, ?_, ⟨rfl, rfl, rfl⟩, fun _ => ?_, fun stopped => absurd goes stopped⟩
  · rw [silent]
    exact (Runs.start _).next (.elsewhere alive monitors)
  · rw [deeds, silent]
    exact orderly

theorem known_of_running (running : (state.strand me).control ≠ .returned) :
    me < state.threads.size := by
  by_contra beyond
  refine running ?_
  have none : state.strands[me]? = none := by
    simp [strands, Nat.le_of_not_lt beyond]
  rw [strand_eq, Array.getD_eq_getD_getElem?, none]
  rfl

theorem upcoming_of_running {instruction : Instruction} {todo : List Step}
    (here : (state.strand me).control = .run (.act instruction :: todo)) :
    (state.strand me).upcoming = some instruction := by
  simp only [Strand.upcoming, here]

/-- An instruction that asks nothing of a monitor. -/
theorem quiet_of_running {instruction : Instruction} {todo : List Step}
    (here : (state.strand me).control = .run (.act instruction :: todo))
    (asks : instruction.asks state = none) :
    (state.strand me).upcoming.bind (Instruction.asks state) = none := by
  rw [upcoming_of_running here]
  exact asks

theorem done_of_alive (alive : later.machine.ended = none) (counts : Counts) :
    done me counts later = (.done, counts, later.flushJournal me) := by
  have ended : (later.flushJournal me).machine.ended = none :=
    (congrArg Outlook.ended (outlook_flushJournal later me)).trans alive
  simp [done, ended]

/-- A turn in which a thread is done with an instruction at once. -/
theorem outlook_of_done (later : State) {instruction : Instruction} {todo : List Step}
    (here : (state.strand me).control = .run (.act instruction :: todo))
    (performed : perform me (state.strand me).counts (state.strand me).frames.length instruction
      state = done me (state.strand me).counts later)
    (alive : later.machine.ended = none) (size : later.outlook.size = state.outlook.size) :
    (state.stepThread me).outlook = later.outlook.setStance me
      { later.outlook.stance me with strand := { state.strand me with control := .run todo } } := by
  have known : me < state.threads.size := known_of_running (by simp [here])
  rw [done_of_alive alive] at performed
  have same := outlook_flushJournal later me
  rw [← same]
  refine outlook_stepThread state me ?_ ?_
  · simp only [Strand.step, here, Strand.enter, Strand.act, host, performed]
  · have kept := congrArg Outlook.size same
    exact Nat.lt_of_lt_of_eq known (size.symm.trans kept.symm)

/-- A turn in which nothing but the thread itself changes. -/
theorem Turned.of_stance {stance : Stance} {after : Ledger}
    (orderly : Orderly first r (ledger r.object history) state.outlook)
    (quiet : (state.strand me).upcoming.bind (Instruction.asks state) = none)
    (outlook : (state.stepThread me).outlook = state.outlook.setStance me stance)
    (token : stance.token = (state.outlook.stance me).token)
    (awaits : stance.awaits = (state.outlook.stance me).awaits)
    (marks : ledger r.object (history ++ state.marks (state.stepThread me) me) = after)
    (keeps : (ledger r.object history).Keeps after me)
    (stands : ∃ place, Stands first r after (state.outlook.heap.monitor r.object)
      ((state.outlook.heap.fields r).readWord32 0) me stance place) :
    Turned first r history state me := by
  have alive : state.machine.ended = none := orderly.ground.alive
  have goes := congrArg Outlook.ended outlook
  have heap := congrArg Outlook.heap outlook
  refine .of_outlook alive quiet (goes.trans alive) (fun object => ?_) ?_
  · exact congrArg (Heap.monitor · object) heap
  · rw [marks, outlook]
    exact orderly.setStance token (.inl awaits) keeps stands

theorem marks_of_running {instruction : Instruction} {todo : List Step}
    (here : (state.strand me).control = .run (.act instruction :: todo)) (after : State) :
    state.marks after me =
      instruction.marks me (after.machine.ended.isNone && !after.isLeaving me) := by
  simp only [marks, Strand.upcoming, here, Option.map_some, Option.getD_some]

theorem marks_of_idle {after : State} (idle : (state.strand me).upcoming = none) :
    state.marks after me = [] := by
  simp only [marks, idle, Option.map_none, Option.getD_none]

theorem turn_load (orderly : Orderly first r (ledger r.object history) state.outlook)
    (stands : Stands first r (ledger r.object history) (state.outlook.heap.monitor r.object)
      ((state.outlook.heap.fields r).readWord32 0) me (state.outlook.stance me) .loading) :
    Turned first r history state me := by
  cases stands.reads with
  | running frames here allowed sleeps =>
    have known : me < state.threads.size := known_of_running (here ▸ nofun)
    have loaded : (state.loadField me r).outlook = state.outlook.setStance me
        { state.outlook.stance me with scratch := state.firstField r } :=
      outlook_updateThread state me (fun stance => { stance with scratch := state.firstField r })
        (fun _ => rfl) known
    have after := outlook_of_done (state.loadField me r) here rfl orderly.ground.alive
      (by rw [loaded]; rfl)
    rw [loaded, Outlook.stance_setStance_self, Outlook.setStance_setStance] at after
    have silent : state.marks (state.stepThread me) me = [] := marks_of_running here _
    refine .of_stance orderly (quiet_of_running here rfl) after rfl rfl
      (by rw [silent, List.append_nil]) .rfl
      ⟨.storing,
        { stands with reads := ?_, meets := ⟨stands.meets.1, stands.meets.2, rfl⟩, left := ?_ }⟩
    · exact .running frames rfl allowed nofun
    · exact (stands.left_of_running here :)

theorem turn_store (orderly : Orderly first r (ledger r.object history) state.outlook)
    (stands : Stands first r (ledger r.object history) (state.outlook.heap.monitor r.object)
      ((state.outlook.heap.fields r).readWord32 0) me (state.outlook.stance me) .storing) :
    Turned first r history state me := by
  cases stands.reads with
  | running frames here allowed sleeps =>
    have alive : state.machine.ended = none := orderly.ground.alive
    have after := outlook_of_done (state.storeField me r) here rfl alive rfl
    have stored : state.marks (state.stepThread me) me = [.stored me] := marks_of_running here _
    have monitors (object : UInt64) : (state.stepThread me).machine.heap.monitor object =
        state.machine.heap.monitor object :=
      (congrArg (·.heap.monitor object) after).trans (Heap.monitor_setFields ..)
    refine .of_outlook alive (quiet_of_running here rfl)
      ((congrArg Outlook.ended after).trans alive) monitors ?_
    rw [stored, ledger_stored, after]
    exact orderly.store stands rfl rfl (.running frames rfl allowed nofun)
      (callsLeft_of_running here).symm

/-- Telling of a call, or coming to an end, changes nothing that matters here. -/
theorem turn_quiet {instruction : Instruction} {rest : List Step}
    (orderly : Orderly first r (ledger r.object history) state.outlook)
    (stands : Stands first r (ledger r.object history) (state.outlook.heap.monitor r.object)
      ((state.outlook.heap.fields r).readWord32 0) me (state.outlook.stance me) .outside)
    (frames : (state.outlook.stance me).strand.frames = [])
    (here : (state.strand me).control = .run (.act instruction :: rest))
    (allowed : ∀ step ∈ rest, Allowed first r step)
    (awake : (state.outlook.stance me).awaits = none) (later : State)
    (performed : perform me (state.strand me).counts (state.strand me).frames.length instruction
      state = done me (state.strand me).counts later)
    (same : later.outlook = state.outlook) (asks : instruction.asks state = none)
    (unmarked : ∀ through, instruction.marks me through = []) :
    Turned first r history state me := by
  have alive : state.machine.ended = none := orderly.ground.alive
  have after := outlook_of_done later here performed ((congrArg Outlook.ended same).trans alive)
    (congrArg Outlook.size same)
  rw [same] at after
  have silent : state.marks (state.stepThread me) me = [] :=
    (marks_of_running here _).trans (unmarked _)
  refine .of_stance orderly (quiet_of_running here asks) after rfl rfl
    (by rw [silent, List.append_nil]) .rfl
    ⟨.outside, { stands with reads := ?_, meets := stands.meets, left := ?_ }⟩
  · exact .running frames rfl allowed fun _ asleep => absurd awake asleep
  · have left := stands.left_of_running here
    have unlike : ¬isInvoke (.act instruction) := by
      cases instruction with
      | invoke => exact absurd (unmarked true) nofun
      | _ => exact Bool.false_ne_true
    rwa [List.countP_cons_of_neg unlike] at left

theorem turn_end (orderly : Orderly first r (ledger r.object history) state.outlook)
    (stands : Stands first r (ledger r.object history) (state.outlook.heap.monitor r.object)
      ((state.outlook.heap.fields r).readWord32 0) me (state.outlook.stance me) .outside)
    (frames : (state.strand me).frames = [])
    (here : (state.strand me).control = .run [])
    (awake : (state.outlook.stance me).awaits = none) : Turned first r history state me := by
  have known : me < state.threads.size := known_of_running (here ▸ nofun)
  have stepped : (state.strand me).step (host me) state =
      ({ state.strand me with control := .returned }, state) := by
    simp only [Strand.step, here, frames]
  have after := outlook_stepThread state me stepped known
  have idle : (state.strand me).upcoming = none := by
    simp only [Strand.upcoming, here]
  refine .of_stance orderly (by rw [idle]; rfl) after rfl rfl
    (by rw [marks_of_idle idle, List.append_nil]) .rfl
    ⟨.outside, { stands with reads := ?_, meets := stands.meets, left := ?_ }⟩
  · exact .returned rfl awake
  · exact stands.left_of_running here

/-- A thread that has returned takes empty turns, and so does one that is not there. -/
theorem turn_returned (orderly : Orderly first r (ledger r.object history) state.outlook)
    (here : (state.strand me).control = .returned) : Turned first r history state me := by
  have stepped : (state.strand me).step (host me) state = (state.strand me, state) := by
    simp only [Strand.step, here]
  have same : (state.stepThread me).outlook = state.outlook := by
    by_cases known : me < state.threads.size
    · exact (outlook_stepThread state me stepped known).trans (Outlook.setStance_self ..)
    · have turn : state.stepThread me = (state.updateThread me fun thread =>
          { thread with strand := state.strand me }).buryThread me := by
        simp only [strand] at stepped ⊢
        simp only [stepThread, stepped]
      rw [turn, outlook_buryThread, updateThread_of_unknown _ _ known]
  have idle : (state.strand me).upcoming = none := by
    simp only [Strand.upcoming, here]
  have alive : state.machine.ended = none := orderly.ground.alive
  refine .of_outlook alive (by rw [idle]; rfl) ((congrArg Outlook.ended same).trans alive)
    (fun object => ?_) ?_
  · exact congrArg (·.heap.monitor object) same
  · rwa [marks_of_idle idle, List.append_nil, same]

/-- The lookup goes by the dispatch tables and by where the code begins, and these stay. -/
theorem Finds.congr {interface : Option UInt64} {index : Nat}
    (finds : first.Finds r interface index)
    (tables : state.machine.heap.tables = first.machine.heap.tables)
    (codeBase : state.codeBase = first.codeBase) : state.Finds r interface index := by
  have table : state.machine.heap.table r = first.machine.heap.table r := by
    simp only [Heap.table, tables]
  unfold Finds at finds ⊢
  rw [codeBase]
  cases interface with
  | none =>
    simp only [EntryPoint.vtableLookup, Machine.vtableLookup, table]
    exact finds
  | some interface =>
    have found (machine : Machine) :
        (EntryPoint.itableLookup machine r interface (UInt64.ofNat index)).1 =
          (machine.itableLookup r interface (UInt64.ofNat index).toNat).getD 0 := by
      unfold EntryPoint.itableLookup
      split
      · next method found => rw [found, Option.getD_some]
      · next missing => rw [missing, Option.getD_none]
    simp only [found, Machine.itableLookup, table] at finds ⊢
    exact finds

/-- Compiled code that finds the increment runs its steps. -/
theorem invoke_of_finds (me : Nat) {interface : Option UInt64} {index : Nat}
    (finds : state.Finds r interface index) (announced : Bool) (height : Nat) (counts : Counts) :
    ∃ method later, later.outlook = state.outlook ∧
      state.invoke me r interface index announced height counts =
        (.run (incrementSteps r ++ if announced then [.act (.tellCall method)] else []), counts,
          later) := by
  unfold Finds at finds
  cases interface with
  | none =>
    refine ⟨EntryPoint.vtableLookup state.machine r (UInt64.ofNat index), state, rfl, ?_⟩
    simp only at finds
    simp only [invoke, setMachine, finds]
  | some interface =>
    have alike : Machine.Alike state.machine
        (EntryPoint.itableLookup state.machine r interface (UInt64.ofNat index)).2 := by
      unfold EntryPoint.itableLookup
      split
      · exact ⟨rfl, rfl, rfl⟩
      · exact Machine.alike_log ..
    refine ⟨(EntryPoint.itableLookup state.machine r interface (UInt64.ofNat index)).1,
      state.setMachine (EntryPoint.itableLookup state.machine r interface (UInt64.ofNat index)).2,
      ?_, ?_⟩
    · rw [outlook_setMachine, alike.heap, alike.ended, alike.tokens]
      rfl
    · simp only at finds
      simp only [invoke, setMachine, finds]

theorem turn_invoke {interface : Option UInt64} {index : Nat} {announced : Bool}
    {rest : List Step} (orderly : Orderly first r (ledger r.object history) state.outlook)
    (stands : Stands first r (ledger r.object history) (state.outlook.heap.monitor r.object)
      ((state.outlook.heap.fields r).readWord32 0) me (state.outlook.stance me) .outside)
    (frames : (state.outlook.stance me).strand.frames = [])
    (here : (state.strand me).control =
      .run (.act (.invoke r interface index announced) :: rest))
    (finds : first.Finds r interface index) (allowed : ∀ step ∈ rest, Allowed first r step)
    (awake : (state.outlook.stance me).awaits = none) : Turned first r history state me := by
  have known : me < state.threads.size := known_of_running (here ▸ by rintro ⟨⟩)
  have found : state.Finds r interface index :=
    finds.congr orderly.ground.tables orderly.ground.codeBase
  obtain ⟨method, later, same, invoked⟩ := invoke_of_finds me found announced
    (state.strand me).frames.length (state.strand me).counts
  have stepped : (state.strand me).step (host me) state =
      ({ state.strand me with control := .run ((incrementSteps r ++
        if announced then [.act (.tellCall method)] else []) ++ rest) }, later) := by
    simp only [Strand.step, here, Strand.enter, Strand.act, host, perform, invoked]
  have after := outlook_stepThread state me stepped
    (Nat.lt_of_lt_of_eq known (congrArg Outlook.size same).symm)
  rw [same] at after
  have called : state.marks (state.stepThread me) me = [.called me] := marks_of_running here _
  refine .of_stance orderly (quiet_of_running here rfl) after rfl rfl (called ▸ ledger_called ..)
    .afterCall
    ⟨.locking, ?_, .inl ⟨awake, stands.meets⟩, ?_, stands.stores, ?_⟩
  · refine .running frames (congrArg Control.run (List.append_assoc ..)) ?_ (by rintro ⟨⟩)
    intro step member
    obtain tells | later := List.mem_append.mp member
    · cases announced with
      | false => contradiction
      | true =>
        cases List.mem_singleton.mp tells
        exact .tellCall method
    · exact allowed step later
  · have before := stands.calls
    simp only [Place.begun] at before
    rw [Ledger.calls_afterCall, before]
    rfl
  · have left := stands.left_of_running here
    rw [List.countP_cons_of_pos rfl] at left
    have tells : (if announced then [Code.act (Instruction.tellCall method)] else [] :
        List Step).countP isInvoke = 0 := by
      cases announced <;> rfl
    have program (tail : List Step) (quiet : tail.countP isInvoke = 0) :
        ((incrementSteps r ++ tail) ++ rest).countP isInvoke = rest.countP isInvoke := by
      rw [List.countP_append, List.countP_append, quiet, Nat.add_zero]
      exact Nat.zero_add _
    rw [callsLeft_of_running rfl, program _ tells, Ledger.calls_afterCall, Nat.add_right_comm]
    exact left

/-- A thread draws its token before its first request; that disturbs nobody. -/
theorem currentToken_orderly {ledger : Ledger} (orderly : Orderly first r ledger state.outlook)
    (consistent : ∀ object, Consistent (state.outlook.heap.monitor object))
    (known : me < state.threads.size) :
    Orderly first r ledger (state.currentToken me).2.outlook ∧
      (state.currentToken me).1 ≠ nobody ∧
      (state.currentToken me).2.outlook.stance me =
        { state.outlook.stance me with token := (state.currentToken me).1 } := by
  have drawn := outlook_currentToken state me known
  have own := congrArg (·.stance me) drawn
  simp only [Outlook.stance_setStance_self] at own
  refine ⟨?_, ?_, own⟩
  · rw [drawn, currentToken_fst]
    by_cases none : (state.outlook.stance me).token = nobody
    · simp only [TokenCounter.current, none, if_true]
      exact orderly.draw consistent known none
    · simp only [TokenCounter.current, none, if_false]
      exact (Outlook.setStance_self state.outlook me).symm ▸ orderly
  · rw [currentToken_fst]
    by_cases none : (state.outlook.stance me).token = nobody
    · have positive := none ▸ orderly.discipline.below me
      simp only [TokenCounter.current, none, if_true]
      exact (UInt64.ne_of_lt positive).symm
    · simp only [TokenCounter.current, none, if_false]
      exact none

/-- A thread that is through with an unlock is not about to make another one. -/
theorem not_leaving {stance : Stance} {place : Place} {todo : List Step}
    (reads : Reads first r stance place)
    (here : stance.strand.control = .run (.act (.unlock target) :: todo))
    {strand : Strand Instruction Site} (goes : strand.control = .run todo) (receiver : Ref) :
    strand.upcoming ≠ some (.unlock receiver) := by
  have allowed : ∀ step ∈ todo, Allowed first r step := by
    cases reads with
    | running frames shown allowed sleeps =>
      have same := here.symm.trans shown
      cases place with
      | outside =>
        rename_i rest
        have member : Code.act (Instruction.unlock target) ∈ rest := by
          have code : _ = rest := Control.run.inj same
          rw [← code]
          exact List.mem_cons_self
        exact nomatch allowed _ member
      | unlocking =>
        cases same
        exact allowed
      | locking | loading | storing => cases same
    | returned returned => simp [here] at returned
  simp only [Strand.upcoming, goes]
  cases todo with
  | nil => simp
  | cons step later => cases allowed step List.mem_cons_self <;> simp

section
variable {instruction : Instruction} {todo : List Step}

theorem ledger_of_asleep (here : (state.strand me).control = .run (.act instruction :: todo))
    (asks : instruction.asks state = some (target, verb)) {after : State}
    (asleep : (after.strand me).upcoming = some instruction) (object : UInt64)
    (history : List Deed) :
    ledger object (history ++ state.marks after me) = ledger object history := by
  rw [marks_of_running here]
  cases instruction with
  | lock | monitor => simp [Instruction.marks]
  | unlock => simp [Instruction.marks, isLeaving, asleep]
  | _ => contradiction

theorem ledger_of_through (here : (state.strand me).control = .run (.act instruction :: todo))
    (asks : instruction.asks state = some (target, verb)) {after : State}
    (alive : after.machine.ended = none)
    (left : ∀ receiver, instruction = .unlock receiver → after.isLeaving me = false)
    (object : UInt64) (history : List Deed) :
    ledger object (history ++ state.marks after me) =
      (ledger object history).afterRequest me instruction := by
  rw [marks_of_running here]
  cases instruction with
  | lock | monitor => simp [Instruction.marks, Ledger.afterRequest]
  | unlock receiver =>
    simp only [Instruction.marks, alive, left receiver rfl, Option.isNone_none, Bool.not_false,
      Bool.and_self, if_true, Ledger.afterRequest]
    exact ledger_returned ..
  | _ => contradiction

theorem marks_of_over (here : (state.strand me).control = .run (.act instruction :: todo))
    (asks : instruction.asks state = some (target, verb)) {after : State}
    (stopped : after.machine.ended ≠ none) : state.marks after me = [] := by
  rw [marks_of_running here]
  cases instruction with
  | lock | monitor => rfl
  | unlock => simp [Instruction.marks, stopped]
  | _ => contradiction

end

/-- How a turn ends in which a thread was served: with the process, with the thread through its
request, or with the thread asleep. -/
inductive Rests (now : Outlook) (me : Nat) (object : UInt64) (strand : Strand Instruction Site)
    (todo : List Step) (after : Outlook) : Prop
  | stopped (ended : now.ended ≠ none)
  | through (alive : now.ended = none)
      (idle : (now.heap.monitor object).phase (now.stance me).token = .idle)
      (outlook : after = now.setStance me { now.stance me with
        waiting := .ready, strand := { strand with control := .run todo } })
  | asleep (alive : now.ended = none)
      (busy : (now.heap.monitor object).phase (now.stance me).token ≠ .idle) (deadline : Option Nat)
      (outlook : after = now.setStance me { now.stance me with
        waiting := .inMonitor object deadline, strand })

/-- When but one thread has changed, so has nothing that matters of the process. -/
theorem alike_of_outlook {served : State} {stance : Stance}
    (outlook : later.outlook = served.outlook.setStance me stance) :
    Machine.Alike served.machine later.machine :=
  ⟨congrArg Outlook.heap outlook, congrArg Outlook.ended outlook, congrArg Outlook.tokens outlook⟩

theorem rests_of_settles {served : State} {instruction : Instruction} {todo : List Step}
    {reply : Reply Instruction Site} {token : Token}
    (here : (state.strand me).control = .run (.act instruction :: todo))
    (performed : perform me (state.strand me).counts (state.strand me).frames.length instruction
      state = (reply, (state.strand me).counts, later))
    (settles : Settles served me object token reply later)
    (own : (served.outlook.stance me).token = token) (known : me < served.outlook.size) :
    Machine.Alike served.machine (state.stepThread me).machine ∧
      Rests served.outlook me object (state.strand me) todo (state.stepThread me).outlook := by
  have turn {moved : Strand Instruction Site}
      (stepped : (state.strand me).step (host me) state = (moved, later))
      (size : later.outlook.size = served.outlook.size) :=
    outlook_stepThread state me stepped (Nat.lt_of_lt_of_eq known size.symm)
  cases settles with
  | halted stopped same =>
    have stepped : (state.strand me).step (host me) state =
        ({ state.strand me with control := .halted }, later) := by
      simp only [Strand.step, here, Strand.enter, Strand.act, host, performed]
    have after := turn stepped (congrArg Outlook.size same)
    rw [same] at after
    exact ⟨alike_of_outlook after, .stopped stopped⟩
  | done alive idle settled =>
    have stepped : (state.strand me).step (host me) state =
        ({ state.strand me with control := .run todo }, later) := by
      simp only [Strand.step, here, Strand.enter, Strand.act, host, performed]
    have after := turn stepped (by rw [settled]; rfl)
    rw [settled, Outlook.stance_setStance_self, Outlook.setStance_setStance] at after
    refine ⟨alike_of_outlook after, .through alive ?_ after⟩
    rw [own]
    exact idle
  | pending alive busy deadline settled =>
    have stepped : (state.strand me).step (host me) state = (state.strand me, later) := by
      simp only [Strand.step, here, Strand.enter, Strand.act, host, performed]
      rw [← here]
    have after := turn stepped (by rw [settled]; rfl)
    rw [settled, Outlook.stance_setStance_self, Outlook.setStance_setStance] at after
    refine ⟨alike_of_outlook after, .asleep alive ?_ deadline after⟩
    rw [own]
    exact busy

/-- Order among threads, one of which has been served, is order after its turn. -/
theorem orderly_of_rests {instruction : Instruction} {todo : List Step} {now : Outlook}
    {waiting : Waiting} {after : State}
    (orderly : Orderly first r (ledger r.object history)
      (now.setStance me { now.stance me with waiting }))
    (asks : instruction.asks state = some (target, verb))
    (here : (state.strand me).control = .run (.act instruction :: todo))
    (strand : (now.stance me).strand = state.strand me)
    (sleeps : Stance.awaits { now.stance me with waiting } = some object ∨
      Stance.awaits { now.stance me with waiting } = none ∧
        ∃ verb name route quiet, instruction = .monitor verb name route quiet)
    (rests : Rests now me object (state.strand me) todo after.outlook)
    (alive : after.machine.ended = none) (goes : now.ended = none) :
    Orderly first r (ledger r.object (history ++ state.marks after me)) after.outlook := by
  have own := Outlook.stance_setStance_self now me { now.stance me with waiting }
  cases rests with
  | stopped ended => exact absurd goes ended
  | through _ idle outlook =>
    have control : ((now.setStance me { now.stance me with waiting }).stance me).strand.control =
        .run (.act instruction :: todo) := by
      rw [own]
      exact strand ▸ here
    have settled := orderly.settle control asks
      (fun awake => by
        rw [own] at awake
        obtain asleep | ⟨-, verb⟩ := sleeps
        · exact absurd (asleep.symm.trans awake) nofun
        · exact verb)
      (fun place awaits => by
        rw [own] at awaits ⊢
        obtain asleep | ⟨awake, -⟩ := sleeps
        · cases asleep.symm.trans awaits
          exact idle
        · exact absurd (awake.symm.trans awaits) nofun)
    rw [own, Outlook.setStance_setStance] at settled
    have moved : after.strand me = { state.strand me with control := .run todo } := by
      have shown : (after.outlook.stance me).strand = _ := congrArg (·.stance me |>.strand) outlook
      rwa [Outlook.stance_setStance_self] at shown
    have left (receiver : Ref) (unlock : instruction = .unlock receiver) :
        after.isLeaving me = false := by
      obtain ⟨place, stands⟩ := orderly.stands me
      rw [own] at stands
      subst unlock
      have gone := not_leaving stands.reads (strand ▸ here) (congrArg Strand.control moved)
      unfold isLeaving
      split
      · next found => exact absurd found (gone _)
      · rfl
    rw [ledger_of_through here asks alive left, outlook, ← strand]
    exact settled
  | asleep _ busy deadline outlook =>
    have awaits : Stance.awaits { now.stance me with waiting } = some object := by
      obtain asleep | ⟨awake, -⟩ := sleeps
      · exact asleep
      · refine absurd (orderly.discipline.asked me object ?_) (by rw [own]; exact busy)
        rw [own, awake]
        nofun
    have slept := orderly.sleep me (.inMonitor object deadline)
      (by rw [own]; exact awaits.symm)
    rw [own, Outlook.setStance_setStance] at slept
    have upcoming : (after.strand me).upcoming = some instruction := by
      have shown : (after.outlook.stance me).strand = _ := congrArg (·.stance me |>.strand) outlook
      rw [Outlook.stance_setStance_self] at shown
      have same : after.strand me = state.strand me := shown
      simp only [same, Strand.upcoming, here]
    rw [ledger_of_asleep here asks upcoming, outlook, ← strand]
    exact slept

/-- As long as the process goes on, nothing but the heap changes. -/
theorem outlook_setMachine_of_alive {machine : Machine} (alive : state.machine.ended = none)
    (ended : machine.ended = none) (tokens : machine.tokens = state.machine.tokens) :
    (state.setMachine machine).outlook = { state.outlook with heap := machine.heap } := by
  rw [outlook_setMachine, ended, tokens]
  exact congrArg (fun stopped => { state.outlook with heap := machine.heap, ended := stopped })
    alive.symm

/-- A request of a thread, from the first turn it takes to the last. -/
theorem turn_request {instruction : Instruction} {todo : List Step} {place : Place}
    (orderly : Orderly first r (ledger r.object history) state.outlook)
    (consistent : ∀ object, Consistent (state.machine.heap.monitor object))
    (reads : Reads first r (state.outlook.stance me) place)
    (here : (state.strand me).control = .run (.act instruction :: todo))
    (asks : instruction.asks state = some (target, verb)) : Turned first r history state me := by
  have known : me < state.threads.size := known_of_running (here ▸ by rintro ⟨⟩)
  have alive : state.machine.ended = none := orderly.ground.alive
  obtain ⟨drawn, real, own⟩ := currentToken_orderly orderly consistent known
  obtain ⟨object, machine, reply, later, serves, performed, settles⟩ :=
    perform_asks known asks (state.strand me).counts (state.strand me).frames.length
  have begun : Runs Machine.Move state.machine [] (state.currentToken me).2.machine :=
    (Runs.start state.machine).next (.elsewhere alive fun _ => rfl)
  have same : (state.currentToken me).2.machine.heap = state.machine.heap := rfl
  have goes : (state.currentToken me).2.machine.ended = none := alive
  have size : (state.currentToken me).2.outlook.size = state.outlook.size := by
    rw [outlook_currentToken state me known]
    rfl
  generalize (state.currentToken me).2 = middle at *
  have token : (middle.outlook.stance me).token = (state.currentToken me).1 := by
    rw [own]
  have awaits : (middle.outlook.stance me).awaits = (state.outlook.stance me).awaits := by
    rw [own]
    rfl
  have calling : (middle.outlook.stance me).isCalling = (state.outlook.stance me).isCalling := by
    rw [own]
    rfl
  have strand : (middle.outlook.stance me).strand = state.strand me := by
    rw [own]
    rfl
  have upcoming : (middle.outlook.stance me).strand.upcoming = some instruction := by
    simp only [strand, Strand.upcoming, here]
  obtain ⟨alike, rests⟩ := rests_of_settles here performed settles token
    (Nat.lt_of_lt_of_eq known size.symm)
  rw [← token, ← awaits] at serves
  have reads : Reads first r (middle.outlook.stance me) place := reads.congr strand awaits
  have consistent (object : UInt64) : Consistent (middle.machine.heap.monitor object) :=
    same ▸ consistent object
  have happens : state.happened me = state.useLog me target verb := by
    rw [happened, upcoming_of_running here, Option.bind_some, asks]
  obtain ⟨run, fields, held⟩ | ⟨outside, awake, silent, kept⟩ :=
    drawn.serve rfl goes consistent reads upcoming asks (token ▸ real) serves
  · refine ⟨machine, happens ▸ begun.append run, alike, fun ended => ?_, fun stopped => ⟨?_, ?_⟩⟩
    · have on : machine.ended = none := alike.ended.symm.trans ended
      obtain ⟨tokens, waiting, awaits, orderly⟩ := held on
      rw [calling] at orderly
      rw [← ledger_ofLog] at orderly
      have now := outlook_setMachine_of_alive goes on tokens
      rw [deeds, happens, ← List.append_assoc]
      rw [now] at rests
      exact orderly_of_rests orderly asks here strand (.inl awaits) rests ended goes
    · exact (congrArg (·.fields r) alike.heap).trans (fields.trans (congrArg (·.fields r) same))
    · exact marks_of_over here asks stopped
  · have on : machine.ended = none := kept.ended.trans goes
    have now := outlook_setMachine_of_alive goes on kept.tokens
    rw [kept.heap] at now
    have unchanged : (middle.setMachine machine).outlook = middle.outlook := now
    rw [unchanged] at rests
    have ended : (state.stepThread me).machine.ended = none := alike.ended.trans on
    obtain ⟨-, verb⟩ | ⟨locking, -⟩ | ⟨unlocking, -⟩ := reads.asks upcoming asks
    · have run := begun.next (.elsewhere goes fun place => by rw [kept.heap])
      rw [List.append_nil, ← silent, ← happens] at run
      refine ⟨machine, run, alike, fun _ => ?_, fun stopped => absurd ended stopped⟩
      rw [deeds, happens, silent]
      have still : middle.outlook.setStance me { middle.outlook.stance me with
          waiting := (middle.outlook.stance me).waiting } = middle.outlook :=
        Outlook.setStance_self ..
      exact orderly_of_rests (still.symm ▸ drawn) asks here strand (.inr ⟨awake, verb⟩) rests
        ended goes
    · cases outside.symm.trans locking
    · cases outside.symm.trans unlocking

/-- Whatever a thread is about to do, its turn is in order. -/
theorem turn_orderly (orderly : Orderly first r (ledger r.object history) state.outlook)
    (consistent : ∀ object, Consistent (state.machine.heap.monitor object)) (me : Nat) :
    Turned first r history state me := by
  obtain ⟨place, stands⟩ := orderly.stands me
  cases stands.reads with
  | returned here => exact turn_returned orderly here
  | running frames here allowed sleeps =>
    rename_i rest
    cases place with
    | locking | unlocking => exact turn_request orderly consistent stands.reads here rfl
    | loading => exact turn_load orderly stands
    | storing => exact turn_store orderly stands
    | outside =>
      have awake (quiet : ∀ verb name route quiet, rest.head? ≠
          some (.act (.monitor verb name route quiet))) :
          (state.outlook.stance me).awaits = none := by
        by_contra asleep
        obtain ⟨verb, name, route, _, later, rfl⟩ := sleeps rfl asleep
        exact quiet _ _ _ _ rfl
      cases rest with
      | nil => exact turn_end orderly stands frames here (awake nofun)
      | cons step later =>
        have onward : ∀ step ∈ later, Allowed first r step :=
          fun step member => allowed step (List.mem_cons_of_mem _ member)
        cases allowed step List.mem_cons_self with
        | invoke finds announced =>
          exact turn_invoke orderly stands frames here finds onward (awake nofun)
        | monitor verb name route quiet =>
          exact turn_request orderly consistent stands.reads here rfl
        | tellCall method =>
          exact turn_quiet orderly stands frames here onward (awake nofun) _ rfl
            (outlook_tell ..) rfl fun _ => rfl
        | leaveThread =>
          exact turn_quiet orderly stands frames here onward (awake nofun) _ rfl
            (outlook_leaveThread ..) rfl fun _ => rfl

end

end State

end ManagedRuntime.Scenario
