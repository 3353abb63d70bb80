import ManagedRuntime.Proofs.Scenario.Synchronized

/-! Requests to monitors, step by step, among threads that share an object. Every step leaves them
in order, as long as the process goes on. -/
namespace ManagedRuntime

namespace Monitor

theorem uncalled_happenings {monitor after : Monitor} (thread other : Token)
    (note : Option MonitorNote) (request : MonitorRequest) :
    (other, .called request) ∉ monitor.happenings thread note after := by
  intro member
  simp only [happenings, List.mem_append, mem_roused, or_assoc] at member
  obtain entered | left | returned | ⟨woken, -, -⟩ := member
  · split at entered <;> simp at entered
  · split at left <;> simp at left
  · split at returned <;> simp at returned
  · contradiction

end Monitor

namespace Scenario
open Exception Machine
open Monitor (Within Consistent balance isEntering)

def Outlook.setMonitor (outlook : Outlook) (object : UInt64) (monitor : Monitor) : Outlook :=
  { outlook with heap := outlook.heap.setMonitor object monitor }

/-- About to do something inside of a call. -/
def Stance.isCalling (stance : Stance) : Bool :=
  match stance.strand.upcoming with
  | some (.lock _) | some (.load _) | some (.store _) | some (.unlock _) => true
  | _ => false

section
variable {first : State} {r target : Ref} {ledger : Ledger} {now : Outlook} {me : Nat}
  {stance : Stance} {place : Place}

theorem Reads.isCalling_iff (reads : Reads first r stance place) :
    stance.isCalling = true ↔ place ≠ .outside := by
  cases reads with
  | running frames here allowed sleeps =>
    rename_i rest
    have upcoming : stance.strand.upcoming = (Strand.upcoming
        { stance.strand with control := .run (place.todo r ++ rest) }) := by
      simp only [Strand.upcoming, here]
    cases place with
    | outside =>
      rw [Stance.isCalling, upcoming]
      cases rest with
      | nil => simp [Place.todo, Strand.upcoming]
      | cons step later =>
        cases allowed step List.mem_cons_self <;> simp [Place.todo, Strand.upcoming]
    | locking | loading | storing | unlocking =>
      rw [Stance.isCalling, upcoming]
      exact iff_of_true rfl (by rintro ⟨⟩)
  | returned here =>
    simp [Stance.isCalling, Strand.upcoming, here]

theorem shifts_setMonitor {heap : Heap} {monitor : Monitor} {log : Monitor.Log}
    (present : object ∈ heap.objects) (moved : Monitor.Move (heap.monitor object) log monitor) :
    Shifts heap (placed object log) (heap.setMonitor object monitor) := by
  intro other
  rw [logAt_placed, Heap.monitor_setMonitor present]
  by_cases same : other = object
  · subst same
    simpa only [if_true] using .inl moved
  · simp only [same, if_false, and_self, or_true]

theorem Ledger.afterMove_append (calling : Bool) (early late : Monitor.Log) :
    (ledger.afterMove calling early).afterMove calling late =
      ledger.afterMove calling (early ++ late) := by
  cases calling with
  | false => simp [afterMove]
  | true => simp [afterMove, Monitor.balance_append, Int.add_assoc]

/-- A log in which nobody takes or leaves levels. -/
theorem Ledger.afterMove_of_balance (ledger : Ledger) {log : Monitor.Log} (calling : Bool)
    (still : ∀ thread, balance log thread = 0) : ledger.afterMove calling log = ledger := by
  simp [afterMove, still]

/-- Moves that are no calls leave all threads where they stand. -/
theorem Orderly.shift {heap : Heap} {log : Machine.Log} (orderly : Orderly first r ledger now)
    (me : Nat) (consistent : ∀ object, Consistent (now.heap.monitor object))
    (shifts : Shifts now.heap log heap) (done : DoneBy (now.stance me).token log)
    (present : r.object ∈ heap.objects) (fields : heap.fields r = now.heap.fields r)
    (tables : heap.tables = now.heap.tables)
    (uncalled : ∀ object request, ((now.stance me).token, .called request) ∉ logAt object log)
    (through : isEntering ((now.heap.monitor r.object).phase (now.stance me).token) = true →
      (heap.monitor r.object).phase (now.stance me).token = .idle →
      ((now.stance me).token, .entered) ∈ logAt r.object log) :
    Orderly first r (ledger.afterMove (now.stance me).isCalling (logAt r.object log))
      { now with heap } := by
  obtain ⟨place, stands⟩ := orderly.stands me
  have calling := stands.reads.isCalling_iff
  have level : (ledger.afterMove (now.stance me).isCalling (logAt r.object log)).levels
      (now.stance me).token = ledger.levels (now.stance me).token +
        if place = .outside then 0 else balance (logAt r.object log) (now.stance me).token := by
    by_cases outside : place = .outside
    · simp [Ledger.afterMove, calling, outside]
    · simp [Ledger.afterMove, calling.mpr outside, outside]
  have asked (object : UInt64) (elsewhere : (now.stance me).awaits ≠ some object) :=
    shifts.idle consistent (uncalled object) (orderly.discipline.asked me object elsewhere)
  have meets : place.Meets r (heap.monitor r.object) ((now.heap.fields r).readWord32 0)
      (now.stance me) ((ledger.afterMove (now.stance me).isCalling (logAt r.object log)).levels
        (now.stance me).token) := by
    rw [level]
    obtain moved | ⟨silent, same⟩ := shifts r.object
    · exact stands.meets.move (consistent r.object) moved (uncalled r.object) through
        (orderly.discipline.real me) (fun empty => orderly.owed _ (.inl empty))
        (fun ready => orderly.discipline.asked me r.object (by simp [ready]))
    · rw [silent, same, Monitor.balance_nil, ite_self, Int.add_zero]
      exact stands.meets
  have kept := orderly.move me (now.stance me) consistent shifts done present fields tables rfl
    (orderly.discipline.real me) asked (now.stance me).isCalling
    ⟨place, stands.of_meets rfl rfl rfl meets⟩
  exact Outlook.setStance_self { now with heap } me ▸ kept

/-- One step of a request at whichever monitor. -/
theorem Orderly.go {log : Monitor.Log} {note : Option MonitorNote}
    {monitor : Monitor} (orderly : Orderly first r ledger now)
    (consistent : ∀ object, Consistent (now.heap.monitor object))
    (present : object ∈ now.heap.objects)
    (stepped : (now.heap.monitor object).step (now.stance me).token = some (note, monitor))
    (fits : note ≠ some .overflow)
    (told : (now.heap.monitor object).happenings (now.stance me).token note monitor = log) :
    Orderly first r
      (ledger.afterMove (now.stance me).isCalling (logAt r.object (placed object log)))
      (now.setMonitor object monitor) := by
  have monitors (other : UInt64) : (now.heap.setMonitor object monitor).monitor other =
      if other = object then monitor else now.heap.monitor other :=
    Heap.monitor_setMonitor present other
  have busy : (now.heap.monitor object).phase (now.stance me).token ≠ .idle := fun idle =>
    Monitor.not_advance_of_idle idle (Monitor.step_advance stepped)
  have at_object {place : UInt64} {entry : Token × Monitor.Happening}
      (member : entry ∈ logAt place (placed object log)) : place = object ∧ entry ∈ log := by
    rw [logAt_placed] at member
    split at member
    · next here => exact ⟨here, member⟩
    · contradiction
  refine orderly.shift me consistent (shifts_setMonitor present (told ▸ .go stepped)) ?_
    (Heap.mem_setMonitor orderly.ground.present _ _) (Heap.fields_setMonitor ..)
    (Heap.tables_setMonitor ..) ?_ ?_
  · intro place other happened member
    have happens := told ▸ (at_object member).2
    by_cases own : other = (now.stance me).token
    · exact .inr ⟨own, (consistent object).real busy⟩
    · exact .inl (Monitor.mem_roused.mp (Monitor.mem_happenings_other own happens)).1
  · intro place request member
    exact Monitor.uncalled_happenings _ _ _ request (told ▸ (at_object member).2)
  · intro on idle
    rw [monitors] at idle
    split at idle
    · next here =>
      rw [here] at on ⊢
      rw [logAt_placed, if_pos rfl, ← told]
      exact Monitor.entered_of_step (consistent object) stepped fits on idle
    · rw [idle] at on
      contradiction

/-- A sleeper wakes. -/
theorem Orderly.wake {log : Monitor.Log} {monitor : Monitor} (orderly : Orderly first r ledger now)
    (consistent : ∀ object, Consistent (now.heap.monitor object))
    (present : object ∈ now.heap.objects)
    (moved : Monitor.Move (now.heap.monitor object) log monitor)
    (silent : ∀ thread, Monitor.Silent thread log) :
    Orderly first r ledger (now.setMonitor object monitor) := by
  have silence (place : UInt64) (thread : Token) :
      Monitor.Silent thread (logAt place (placed object log)) := by
    rw [logAt_placed]
    split
    · exact silent thread
    · exact fun _ member => nomatch member
  have shifts := shifts_setMonitor present moved
  -- Thread 0 stands for any: nobody in particular wakes a sleeper.
  have kept := orderly.shift 0 consistent shifts
    (fun place other happened member => .inl (silence place other happened member))
    (Heap.mem_setMonitor orderly.ground.present _ _) (Heap.fields_setMonitor ..)
    (Heap.tables_setMonitor ..) (fun place => (silence place _).uncalled)
    (fun on idle => by
      obtain moved | ⟨-, same⟩ := shifts r.object
      · exact absurd idle (Monitor.busy_of_silent (consistent _) moved (silence _ _) on)
      · rw [same] at idle
        rw [idle] at on
        contradiction)
  rwa [ledger.afterMove_of_balance _ fun thread => (silence r.object thread).balance] at kept

/-- Code that asks something of a monitor is a verb, or the lock or the unlock of a call. -/
theorem Reads.asks {state : State} {instruction : Instruction} (reads : Reads first r stance place)
    (upcoming : stance.strand.upcoming = some instruction)
    (asks : instruction.asks state = some (target, verb)) :
    place = .outside ∧ (∃ verb name route quiet, instruction = .monitor verb name route quiet) ∨
      place = .locking ∧ target = r ∧ verb = .enter ∨
      place = .unlocking ∧ target = r ∧ verb = .exit := by
  cases reads with
  | running frames here allowed sleeps =>
    simp only [Strand.upcoming, here] at upcoming
    cases place with
    | outside =>
      rename_i rest
      cases rest with
      | nil => contradiction
      | cons step later =>
        cases allowed step List.mem_cons_self with
        | monitor verb name route quiet =>
          cases upcoming
          exact .inl ⟨rfl, verb, name, route, quiet, rfl⟩
        | invoke | tellCall | leaveThread =>
          cases upcoming
          contradiction
    | locking =>
      cases upcoming
      cases asks
      exact .inr (.inl ⟨rfl, rfl, rfl⟩)
    | loading | storing =>
      cases upcoming
      contradiction
    | unlocking =>
      cases upcoming
      cases asks
      exact .inr (.inr ⟨rfl, rfl, rfl⟩)
  | returned here =>
    simp only [Strand.upcoming, here] at upcoming
    contradiction

/-- A thread that makes a request stands where it stood, and sleeps if it has to. -/
theorem Reads.sleep (reads : Reads first r stance place)
    (upcoming : stance.strand.upcoming = some instruction)
    (verbs : place = .outside → ∃ verb name route quiet,
      instruction = .monitor verb name route quiet) (waiting : Waiting) :
    Reads first r { stance with waiting } place := by
  cases reads with
  | running frames here allowed sleeps =>
    rename_i rest
    refine .running frames here allowed fun outside _ => ?_
    obtain ⟨verb, name, route, quiet, rfl⟩ := verbs outside
    subst outside
    simp only [Strand.upcoming, here] at upcoming
    cases rest with
    | nil => contradiction
    | cons step later =>
      cases allowed step List.mem_cons_self <;> cases upcoming
      exact ⟨verb, name, route, quiet, later, rfl⟩
  | returned here =>
    simp only [Strand.upcoming, here] at upcoming
    contradiction

theorem Orderly.request {state : State} {instruction : Instruction} {request : MonitorRequest}
    (orderly : Orderly first r ledger now)
    (consistent : ∀ object, Consistent (now.heap.monitor object))
    (upcoming : (now.stance me).strand.upcoming = some instruction)
    (asks : instruction.asks state = some (target, verb))
    (asked : verb.request? strict = some request) (present : target.object ∈ now.heap.objects)
    (real : (now.stance me).token ≠ nobody) (awake : (now.stance me).awaits = none)
    (deadline : Option Nat) :
    Orderly first r ledger
      ((now.setMonitor target.object ((now.heap.monitor target.object).begin
          (now.stance me).token request)).setStance me
        { now.stance me with waiting := .inMonitor target.object deadline }) := by
  have idle (object : UInt64) : (now.heap.monitor object).phase (now.stance me).token = .idle :=
    orderly.discipline.asked me object (by simp [awake])
  have moved : Monitor.Move (now.heap.monitor target.object)
      [((now.stance me).token, .called request)]
      ((now.heap.monitor target.object).begin (now.stance me).token request) :=
    .call real (idle target.object)
  have monitors (other : UInt64) : (now.heap.setMonitor target.object
      ((now.heap.monitor target.object).begin (now.stance me).token request)).monitor other =
      if other = target.object then
        (now.heap.monitor target.object).begin (now.stance me).token request
      else now.heap.monitor other :=
    Heap.monitor_setMonitor present other
  have silent (thread : Token) : balance (logAt r.object (placed target.object
      [((now.stance me).token, .called request)])) thread = 0 :=
    balance_logAt_placed (by simp [balance]) ..
  have same := ledger.afterMove_of_balance true silent
  obtain ⟨place, stands⟩ := orderly.stands me
  have cases := stands.reads.asks upcoming asks
  rw [← same]
  refine orderly.move me { now.stance me with waiting := .inMonitor target.object deadline }
    consistent (shifts_setMonitor present moved) ?_
    (Heap.mem_setMonitor orderly.ground.present _ _) (Heap.fields_setMonitor ..)
    (Heap.tables_setMonitor ..) rfl (fun _ => real) ?_ true ⟨place, ?_⟩
  · intro object other happened member
    rw [logAt_placed] at member
    split at member
    · cases List.mem_singleton.mp member
      exact .inr ⟨rfl, real⟩
    · contradiction
  · intro object elsewhere
    have different : object ≠ target.object := by
      rintro rfl
      exact elsewhere rfl
    rw [monitors, if_neg different]
    exact idle object
  · rw [same]
    refine { stands with reads := stands.reads.sleep upcoming ?_ _, meets := ?_ }
    · intro outside
      obtain ⟨-, verb⟩ | ⟨rfl, -⟩ | ⟨rfl, -⟩ := cases
      · exact verb
      · contradiction
      · contradiction
    · have meets := stands.meets
      obtain ⟨rfl, -⟩ | ⟨rfl, rfl, rfl⟩ | ⟨rfl, rfl, rfl⟩ := cases
      · exact meets
      · cases asked
        obtain ⟨-, none⟩ | ⟨awaits, -⟩ := meets
        · refine .inr ⟨rfl, ?_⟩
          rw [monitors, if_pos rfl, none]
          exact .begin_enter
        · rw [awake] at awaits
          contradiction
      · cases asked
        obtain ⟨-, within⟩ | ⟨awaits, -⟩ := meets
        · refine .inr ⟨rfl, ?_⟩
          rw [monitors, if_pos rfl]
          exact within.begin_exit
        · rw [awake] at awaits
          contradiction

theorem Shifts.consistent {heap later : Heap} {log : Machine.Log} (shifts : Shifts heap log later)
    (consistent : ∀ object, Consistent (heap.monitor object)) (object : UInt64) :
    Consistent (later.monitor object) := by
  obtain moved | ⟨-, same⟩ := shifts object
  · exact (consistent object).move moved
  · exact same ▸ consistent object

/-- A request goes on until its thread sleeps or is through. -/
theorem Orderly.advance {machine : Machine}
    (orderly : Orderly first r ledger { now with heap := machine.heap })
    (consistent : ∀ object, Consistent (machine.heap.monitor object)) (me : Nat) (object : UInt64)
    (fuel : Nat) :
    Runs Machine.Move machine (machine.monitorLog (now.stance me).token object fuel)
        (machine.runMonitor (now.stance me).token object fuel) ∧
      ((machine.runMonitor (now.stance me).token object fuel).ended = none →
        Orderly first r (ledger.afterMove (now.stance me).isCalling
            (logAt r.object (machine.monitorLog (now.stance me).token object fuel)))
            { now with heap := (machine.runMonitor (now.stance me).token object fuel).heap } ∧
          (machine.runMonitor (now.stance me).token object fuel).tokens = machine.tokens) := by
  let holds (log : Machine.Log) (later : Machine) : Prop :=
    (∀ object, Consistent (later.heap.monitor object)) ∧
    Orderly first r (ledger.afterMove (now.stance me).isCalling (logAt r.object log))
      { now with heap := later.heap } ∧ later.tokens = machine.tokens
  have initial : holds [] machine := by
    refine ⟨consistent, ?_, rfl⟩
    have same := ledger.afterMove_of_balance (now.stance me).isCalling Monitor.balance_nil
    exact same.symm ▸ orderly
  have keeps {history : Machine.Log} {before after : Machine} {note : Option MonitorNote}
      {monitor : Monitor} (held : holds history before)
      (stepped : (before.heap.monitor object).step (now.stance me).token = some (note, monitor))
      (shown : before.stepMonitor (now.stance me).token object = some after)
      (alive : after.ended = none) :
      holds (history ++ placed object
        ((before.heap.monitor object).happenings (now.stance me).token note monitor)) after := by
    obtain ⟨consistent, orderly, tokens⟩ := held
    have fits := not_overflow_of_alive shown stepped alive
    obtain ⟨note, monitor, same, set⟩ := stepMonitor_eq_some shown
    cases same.symm.trans stepped
    have present := present_of_step shown
    have shifts := shifts_setMonitor present (.go stepped)
    refine ⟨?_, ?_, (tokens_stepMonitor shown).trans tokens⟩
    · rw [set]
      exact shifts.consistent consistent
    · have went := orderly.go consistent present stepped fits rfl
      rw [Ledger.afterMove_append, ← logAt_append] at went
      rw [set]
      exact went
  obtain ⟨run, held⟩ := runMonitor_keeps holds keeps initial fuel
  exact ⟨run, fun alive => (held alive).2⟩

/-- What the process has done about a request of a thread: a run of moves, which leave the fields
alone, and order among the threads if it goes on. -/
def Served (first : State) (r : Ref) (ledger : Ledger) (now : Outlook) (me : Nat)
    (object : UInt64) (machine : Machine) (log : Machine.Log) (served : Machine) : Prop :=
  Runs Machine.Move machine log served ∧ served.heap.fields r = now.heap.fields r ∧
    (served.ended = none → served.tokens = machine.tokens ∧
      ∃ waiting, Stance.awaits { now.stance me with waiting } = some object ∧
        Orderly first r (ledger.afterMove (now.stance me).isCalling (logAt r.object log))
          ({ now with heap := served.heap }.setStance me { now.stance me with waiting }))

/-- What comes before the request takes no levels. -/
theorem Served.prepend {machine middle served : Machine} {early log : Machine.Log}
    (rest : Served first r ledger now me object middle log served)
    (run : Runs Machine.Move machine early middle) (tokens : middle.tokens = machine.tokens)
    (still : ∀ thread, balance (logAt r.object early) thread = 0) :
    Served first r ledger now me object machine (early ++ log) served := by
  obtain ⟨after, fields, held⟩ := rest
  refine ⟨run.append after, fields, fun alive => ?_⟩
  obtain ⟨kept, waiting, awaits, orderly⟩ := held alive
  refine ⟨kept.trans tokens, waiting, awaits, ?_⟩
  rw [logAt_append, ← Ledger.afterMove_append, ledger.afterMove_of_balance _ still]
  exact orderly

/-- What the thread slept for before does not matter afterwards. -/
theorem Served.of_setStance {machine served : Machine} {log : Machine.Log} {heap : Heap}
    {waiting : Waiting}
    (rest : Served first r ledger
      ({ now with heap }.setStance me { now.stance me with waiting }) me object machine log served)
    (fields : heap.fields r = now.heap.fields r) :
    Served first r ledger now me object machine log served := by
  obtain ⟨run, kept, held⟩ := rest
  refine ⟨run, kept.trans fields, fun alive => ?_⟩
  obtain ⟨tokens, later, awaits, orderly⟩ := held alive
  rw [Outlook.stance_setStance_self] at awaits orderly
  refine ⟨tokens, later, awaits, ?_⟩
  simp only [Outlook.setStance, Function.update_idem] at orderly ⊢
  exact orderly

section
variable {machine : Machine}

theorem Orderly.resume (orderly : Orderly first r ledger now) (heap : machine.heap = now.heap)
    (consistent : ∀ object, Consistent (now.heap.monitor object))
    (awaits : (now.stance me).awaits = some object) :
    Served first r ledger now me object machine
      (machine.monitorLog (now.stance me).token object 8)
      (machine.advance (now.stance me).token object) := by
  have orderly : Orderly first r ledger { now with heap := machine.heap } := heap ▸ orderly
  obtain ⟨run, held⟩ := orderly.advance (heap ▸ consistent) me object 8
  refine ⟨run, ?_, fun alive => ?_⟩
  · rw [← heap]
    exact fields_runMonitor ..
  · obtain ⟨orderly, tokens⟩ := held alive
    exact ⟨tokens, (now.stance me).waiting, awaits, (Outlook.setStance_self _ me).symm ▸ orderly⟩

/-- A thread whose time is over goes on like one that was woken. -/
theorem Orderly.timeOut (orderly : Orderly first r ledger now) (heap : machine.heap = now.heap)
    (alive : machine.ended = none) (consistent : ∀ object, Consistent (now.heap.monitor object))
    (awaits : (now.stance me).awaits = some object) :
    Served first r ledger now me object machine
      (machine.timeOutLog (now.stance me).token object)
      ((machine.timeOut (now.stance me).token object).advance (now.stance me).token object) := by
  by_cases present : object ∈ machine.heap.objects
  · have roused := Machine.Move.rouse alive present (now.stance me).token
    rw [heap] at roused present
    have silent (thread : Token) : Monitor.Silent thread
        ((now.heap.monitor object).roused ((now.heap.monitor object).rouse
          (now.stance me).token)) := fun _ member => (Monitor.mem_roused.mp member).1
    have moved : Monitor.Move (now.heap.monitor object) _ _ := .rouse (now.stance me).token
    have woken := orderly.wake consistent present moved silent
    have set : (machine.timeOut (now.stance me).token object).heap =
        (now.setMonitor object ((now.heap.monitor object).rouse (now.stance me).token)).heap := by
      simp only [Machine.timeOut, heap, Outlook.setMonitor]
    have shifts := shifts_setMonitor present moved
    obtain ⟨run, fields, held⟩ := woken.resume set (shifts.consistent consistent) awaits
    have served : Served first r ledger now me object (machine.timeOut (now.stance me).token object)
        ((machine.timeOut (now.stance me).token object).monitorLog (now.stance me).token object 8)
        ((machine.timeOut (now.stance me).token object).advance (now.stance me).token object) :=
      ⟨run, fields.trans (Heap.fields_setMonitor ..), held⟩
    rw [timeOutLog, heap]
    exact served.prepend ((Runs.start machine).next roused) rfl fun thread =>
      balance_logAt_placed (silent thread).balance ..
  · have same : machine.timeOut (now.stance me).token object = machine := by
      simp only [Machine.timeOut, Heap.setMonitor_of_absent present]
    have fresh : machine.heap.monitor object = {} := Heap.monitor_of_absent present
    have silent : machine.timeOutLog (now.stance me).token object =
        machine.monitorLog (now.stance me).token object 8 := by
      rw [timeOutLog, same, fresh]
      rfl
    rw [same, silent]
    exact orderly.resume heap consistent awaits

theorem Orderly.beginRequest {state : State} {instruction : Instruction}
    {request : MonitorRequest} (orderly : Orderly first r ledger now)
    (heap : machine.heap = now.heap) (alive : machine.ended = none)
    (consistent : ∀ object, Consistent (now.heap.monitor object))
    (upcoming : (now.stance me).strand.upcoming = some instruction)
    (asks : instruction.asks state = some (target, verb))
    (asked : verb.request? strict = some request) (present : target.object ∈ now.heap.objects)
    (real : (now.stance me).token ≠ nobody) (awake : (now.stance me).awaits = none) :
    Served first r ledger now me target.object machine
      (machine.requestLog (now.stance me).token target.object request)
      (machine.request (now.stance me).token target.object request) := by
  have idle : machine.monitorPhase (now.stance me).token target.object = .idle := by
    rw [Machine.monitorPhase, heap]
    exact orderly.discipline.asked me target.object (by simp [awake])
  have called := Machine.Move.call request alive (heap ▸ present) real idle
  have begun := orderly.request consistent upcoming asks asked present real awake none
  have moved : Monitor.Move (now.heap.monitor target.object)
      [((now.stance me).token, .called request)] _ :=
    .call real (by rwa [Machine.monitorPhase, heap] at idle)
  have shifts := shifts_setMonitor present moved
  have set : (machine.call (now.stance me).token target.object request).heap =
      now.heap.setMonitor target.object
        ((now.heap.monitor target.object).begin (now.stance me).token request) := by
    simp only [Machine.call, heap]
  have own := Outlook.stance_setStance_self
    (now.setMonitor target.object ((now.heap.monitor target.object).begin
      (now.stance me).token request)) me
    { now.stance me with waiting := .inMonitor target.object none }
  have resumed := begun.resume set (shifts.consistent consistent) (congrArg Stance.awaits own)
  rw [own] at resumed
  rw [requestLog, if_pos (heap ▸ present)]
  exact (resumed.of_setStance (Heap.fields_setMonitor ..)).prepend
    ((Runs.start machine).next called) rfl fun thread =>
      balance_logAt_placed (by simp [balance]) ..

/-- However a thread asks for it, the process serves it in order. Nothing is to be done for a look,
and for an object that is not there. -/
theorem Orderly.serve {log : Machine.Log} {served : Machine} {state : State}
    {instruction : Instruction}
    (orderly : Orderly first r ledger now) (heap : machine.heap = now.heap)
    (alive : machine.ended = none) (consistent : ∀ object, Consistent (now.heap.monitor object))
    (reads : Reads first r (now.stance me) place)
    (upcoming : (now.stance me).strand.upcoming = some instruction)
    (asks : instruction.asks state = some (target, verb)) (real : (now.stance me).token ≠ nobody)
    (serves : State.Serves machine (now.stance me).token target verb (now.stance me).awaits object
      log served) :
    Served first r ledger now me object machine log served ∨
      place = .outside ∧ (now.stance me).awaits = none ∧ log = [] ∧
        Machine.Alike machine served := by
  generalize woken : (now.stance me).awaits = awaits at serves
  cases serves with
  | resume => exact .inl (orderly.resume heap consistent woken)
  | timeOut => exact .inl (orderly.timeOut heap alive consistent woken)
  | @request request prepared _ strict asked alike =>
    by_cases present : target.object ∈ now.heap.objects
    · have requested := orderly.beginRequest (alike.heap.trans heap) (alike.ended.trans alive)
        consistent upcoming asks asked present real woken
      have kept := Machine.Move.elsewhere alive fun object => by rw [alike.heap]
      exact .inl (requested.prepend ((Runs.start machine).next kept) alike.tokens fun thread =>
        Monitor.balance_nil thread)
    · have absent : target.object ∉ prepared.heap.objects := by
        rwa [alike.heap, heap]
      rw [Machine.request_of_absent absent, requestLog, if_neg absent]
      obtain ⟨outside, -⟩ | ⟨-, rfl, -⟩ | ⟨-, rfl, -⟩ := reads.asks upcoming asks
      · exact .inr ⟨outside, rfl, rfl, alike⟩
      · exact absurd orderly.ground.present present
      · exact absurd orderly.ground.present present
  | look =>
    obtain ⟨outside, -⟩ | ⟨-, -, look⟩ | ⟨-, -, look⟩ := reads.asks upcoming asks
    · exact .inr ⟨outside, rfl, rfl, rfl, rfl, rfl⟩
    · contradiction
    · contradiction

end

end

end Scenario
end ManagedRuntime
