import Mathlib.Data.Finset.Card
import ManagedRuntime.Proofs.Scenario.Deeds
import ManagedRuntime.Proofs.Scenario.Outlook

/-! Threads that call a synchronized method of one object and use monitors besides. What they have
done so far tells where each of them stands and which levels of the lock its call holds. -/
namespace ManagedRuntime.Scenario
open Exception Machine
open Monitor (Within Consistent balance isEntering)

/-- The address that compiled code finds for a method is that of the increment. -/
def State.Finds (state : State) (r : Ref) (interface : Option UInt64) (index : Nat) : Prop :=
  let method := match interface with
    | none => EntryPoint.vtableLookup state.machine r (UInt64.ofNat index)
    | some interface =>
        (EntryPoint.itableLookup state.machine r interface (UInt64.ofNat index)).1
  MethodCode.ofAddress state.codeBase method = .compiled .increment

/-- What the threads may do: call the method, use monitors, tell of calls and come to their end. -/
inductive Allowed (first : State) (r : Ref) : Step → Prop
  | invoke (finds : first.Finds r interface index) (announced : Bool) :
      Allowed first r (.act (.invoke r interface index announced))
  | monitor (verb : MonitorVerb) (name : String) (route : Route) (quiet : Bool) :
      Allowed first r (.act (.monitor verb name route quiet))
  | tellCall (method : UInt64) : Allowed first r (.act (.tellCall method))
  | leaveThread : Allowed first r (.act .leaveThread)

/-- Where a thread is with a call: what it is about to do. -/
inductive Place
  | outside
  | locking
  | loading
  | storing
  | unlocking
deriving DecidableEq, Repr

namespace Place

/-- What is left of the call. -/
def todo (r : Ref) : Place → List Step
  | .outside => []
  | .locking => State.incrementSteps r
  | .loading => (State.incrementSteps r).drop 1
  | .storing => (State.incrementSteps r).drop 2
  | .unlocking => (State.incrementSteps r).drop 3

/-- Calls that were begun and have not returned. -/
def begun : Place → Nat
  | .outside => 0
  | _ => 1

/-- Writes of calls that have not returned. -/
def written : Place → Nat
  | .unlocking => 1
  | _ => 0

/-- A thread at its place has what it needs there: the lock between its requests, and the current
value of the field when it is about to write. -/
def Meets (r : Ref) (monitor : Monitor) (field : UInt32) (stance : Stance) (level : Int) :
    Place → Prop
  | .outside => level = 0
  | .locking => stance.awaits = none ∧ level = 0 ∨
      stance.awaits = some r.object ∧ Within monitor stance.token .entering level
  | .loading => stance.awaits = none ∧ Within monitor stance.token .inside level
  | .storing => stance.awaits = none ∧ Within monitor stance.token .inside level ∧
      stance.scratch = field
  | .unlocking => stance.awaits = none ∧ Within monitor stance.token .inside level ∨
      stance.awaits = some r.object ∧ Within monitor stance.token .leaving level

end Place

/-- The code of a thread at its place. Outside of calls it sleeps for a verb only. -/
inductive Reads (first : State) (r : Ref) (stance : Stance) : Place → Prop
  | running (frames : stance.strand.frames = [])
      (here : stance.strand.control = .run (place.todo r ++ rest))
      (allowed : ∀ step ∈ rest, Allowed first r step)
      (sleeps : place = .outside → stance.awaits ≠ none →
        ∃ verb name route quiet later, rest = .act (.monitor verb name route quiet) :: later) :
      Reads first r stance place
  | returned (here : stance.strand.control = .returned) (ready : stance.awaits = none) :
      Reads first r stance .outside

/-- A call of a method by compiled code. -/
def isInvoke : Step → Bool
  | .act (.invoke _ _ _ _) => true
  | _ => false

/-- Calls that a thread has not come to. -/
def callsLeft (strand : Strand Instruction Site) : Nat :=
  match strand.control with
  | .run todo => todo.countP isInvoke
  | _ => 0

theorem callsLeft_of_running {strand : Strand Instruction Site}
    (here : strand.control = .run todo) : callsLeft strand = todo.countP isInvoke := by
  simp only [callsLeft, here]

structure Stands (first : State) (r : Ref) (ledger : Ledger) (monitor : Monitor) (field : UInt32)
    (me : Nat) (stance : Stance) (place : Place) : Prop where
  reads : Reads first r stance place
  meets : place.Meets r monitor field stance (ledger.levels stance.token)
  calls : ledger.calls me = ledger.returns me + place.begun
  stores : ledger.stores me = ledger.returns me + place.written
  left : ledger.calls me + callsLeft stance.strand = callsLeft (first.strand me)

/-- The object is there, the lookup finds what it found, and each write added one. -/
structure Ground (first : State) (r : Ref) (ledger : Ledger) (now : Outlook) : Prop where
  alive : now.ended = none
  present : r.object ∈ now.heap.objects
  tables : now.heap.tables = first.machine.heap.tables
  codeBase : now.codeBase = first.codeBase
  field : (now.heap.fields r).readWord32 0 = first.firstField r + UInt32.ofNat ledger.written

/-- Threads have tokens of their own, and are in a monitor only while they wait for it. -/
structure Discipline (now : Outlook) : Prop where
  apart : ∀ first second, (now.stance first).token ≠ nobody →
    (now.stance first).token = (now.stance second).token → first = second
  below : ∀ index, (now.stance index).token < now.tokens.next
  enough : now.tokens.next.toNat +
    ((Finset.range now.size).filter fun index => (now.stance index).token = nobody).card <
      UInt64.size
  real : ∀ index, (now.stance index).awaits ≠ none → (now.stance index).token ≠ nobody
  asked : ∀ index object, (now.stance index).awaits ≠ some object →
    (now.heap.monitor object).phase (now.stance index).token = .idle
  strangers : ∀ thread, (∀ index, (now.stance index).token ≠ thread) →
    ∀ object, (now.heap.monitor object).phase thread = .idle

structure Orderly (first : State) (r : Ref) (ledger : Ledger) (now : Outlook) : Prop where
  ground : Ground first r ledger now
  discipline : Discipline now
  /-- Calls hold levels only for threads, and not before they have a token. -/
  owed : ∀ thread, thread = nobody ∨ (∀ index, (now.stance index).token ≠ thread) →
    ledger.levels thread = 0
  stands : ∀ me, ∃ place, Stands first r ledger (now.heap.monitor r.object)
    ((now.heap.fields r).readWord32 0) me (now.stance me) place

namespace Place.Meets
variable {r : Ref} {monitor after : Monitor} {field : UInt32} {stance : Stance} {level : Int}
  {now : Monitor.Log} {place : Place}

theorem real_of_within (within : Within monitor thread .inside level)
    (drawn : thread = nobody → level = 0) : thread ≠ nobody := by
  intro none
  cases within with
  | works => exact absurd (drawn none) (by decide)

/-- What the field holds matters to the thread that is about to write. -/
theorem of_ne_storing (meets : place.Meets r monitor field stance level) (other : place ≠ .storing)
    (value : UInt32) : place.Meets r monitor value stance level := by
  cases place with
  | storing => contradiction
  | outside | locking | loading | unlocking => exact meets

/-- Moves of the monitor leave a thread at its place, whoever makes them. -/
theorem move (meets : place.Meets r monitor field stance level) (consistent : Consistent monitor)
    (moved : Monitor.Move monitor now after)
    (uncalled : ∀ request, (stance.token, .called request) ∉ now)
    (through : isEntering (monitor.phase stance.token) = true →
      after.phase stance.token = .idle → (stance.token, .entered) ∈ now)
    (real : stance.awaits ≠ none → stance.token ≠ nobody)
    (drawn : stance.token = nobody → level = 0)
    (asked : stance.awaits = none → monitor.phase stance.token = .idle) :
    place.Meets r after field stance
      (level + if place = .outside then 0 else balance now stance.token) := by
  have moves {stage : Monitor.Stage} (within : Within monitor stance.token stage level)
      (real : stance.token ≠ nobody) :=
    within.move consistent moved real uncalled through
  cases place with
  | outside => exact (Int.add_zero level).trans meets
  | locking =>
    obtain ⟨ready, none⟩ | ⟨awaits, within⟩ := meets
    · have still := (Monitor.idle_move consistent moved (asked ready) uncalled).2
      exact .inl ⟨ready, by rw [none, if_neg nofun, still]; rfl⟩
    · exact .inr ⟨awaits, moves within (real (by simp [awaits]))⟩
  | loading => exact ⟨meets.1, moves meets.2 (real_of_within meets.2 drawn)⟩
  | storing =>
    obtain ⟨ready, within, loaded⟩ := meets
    exact ⟨ready, moves within (real_of_within within drawn), loaded⟩
  | unlocking =>
    obtain ⟨ready, within⟩ | ⟨awaits, within⟩ := meets
    · exact .inl ⟨ready, moves within (real_of_within within drawn)⟩
    · exact .inr ⟨awaits, moves within (real (by simp [awaits]))⟩

end Place.Meets

/-- The accounts of all but one thread, and the levels, are as before. -/
structure Ledger.Keeps (ledger after : Ledger) (me : Nat) : Prop where
  levels : after.levels = ledger.levels
  written : after.written = ledger.written
  calls : ∀ other, other ≠ me → after.calls other = ledger.calls other
  stores : ∀ other, other ≠ me → after.stores other = ledger.stores other
  returns : ∀ other, other ≠ me → after.returns other = ledger.returns other

namespace Ledger.Keeps
variable {ledger : Ledger} {me : Nat}

theorem rfl : ledger.Keeps ledger me :=
  ⟨Eq.refl _, Eq.refl _, fun _ _ => Eq.refl _, fun _ _ => Eq.refl _, fun _ _ => Eq.refl _⟩

theorem afterCall : ledger.Keeps (ledger.afterCall me) me :=
  { rfl with calls := fun _ different => Function.update_of_ne different .. }

theorem afterReturn : ledger.Keeps (ledger.afterReturn me) me :=
  { rfl with returns := fun _ different => Function.update_of_ne different .. }

end Ledger.Keeps

section
variable {first : State} {r : Ref} {ledger after : Ledger} {now : Outlook} {me : Nat}
  {stance : Stance}

theorem Stands.left_of_running {monitor : Monitor} {field : UInt32}
    (stands : Stands first r ledger monitor field me stance place)
    (here : stance.strand.control = .run todo) :
    ledger.calls me + todo.countP isInvoke = callsLeft (first.strand me) :=
  callsLeft_of_running here ▸ stands.left

/-- A thread stands where it stood when nothing it depends on has changed for the worse. -/
theorem Stands.of_meets {monitor later : Monitor} {field value : UInt32}
    (stands : Stands first r ledger monitor field me stance place)
    (calls : after.calls me = ledger.calls me) (stores : after.stores me = ledger.stores me)
    (returns : after.returns me = ledger.returns me)
    (meets : place.Meets r later value stance (after.levels stance.token)) :
    Stands first r after later value me stance place where
  reads := stands.reads
  meets := meets
  calls := by rw [calls, returns, stands.calls]
  stores := by rw [stores, returns, stands.stores]
  left := by rw [calls, stands.left]

theorem Outlook.token_setStance (now : Outlook) (token : stance.token = (now.stance me).token)
    (index : Nat) :
    ((now.setStance me stance).stance index).token = (now.stance index).token := by
  by_cases same : index = me
  · rw [same, stance_setStance_self, token]
  · rw [stance_setStance_of_ne _ _ _ same]

/-- A thread has no token, or none of another thread. -/
theorem Discipline.foreign {index : Nat} (discipline : Discipline now) (other : index ≠ me) :
    (now.stance index).token = nobody ∨ (now.stance index).token ≠ (now.stance me).token := by
  by_cases empty : (now.stance index).token = nobody
  · exact .inl empty
  · exact .inr fun equal => other (discipline.apart index me empty equal)

/-- A thread keeps its token and stays asleep, or wakes up when its request is over. -/
theorem Discipline.setStance (discipline : Discipline now)
    (token : stance.token = (now.stance me).token)
    (sleeps : stance.awaits = (now.stance me).awaits ∨ stance.awaits = none ∧
      ∀ object, (now.stance me).awaits = some object →
        (now.heap.monitor object).phase stance.token = .idle) :
    Discipline (now.setStance me stance) := by
  have tokens := Outlook.token_setStance now token
  constructor
  case apart =>
    simp only [tokens]
    exact discipline.apart
  case below =>
    simp only [tokens]
    exact discipline.below
  case enough =>
    simp only [tokens]
    exact discipline.enough
  case strangers =>
    simp only [tokens]
    exact discipline.strangers
  case real =>
    intro index awaits
    rw [tokens]
    by_cases same : index = me
    · subst same
      rw [Outlook.stance_setStance_self] at awaits
      obtain kept | ⟨none, -⟩ := sleeps
      · exact discipline.real index (kept ▸ awaits)
      · exact absurd none awaits
    · rw [Outlook.stance_setStance_of_ne _ _ _ same] at awaits
      exact discipline.real index awaits
  case asked =>
    intro index object elsewhere
    rw [tokens]
    by_cases same : index = me
    · subst same
      rw [Outlook.stance_setStance_self] at elsewhere
      obtain kept | ⟨-, idle⟩ := sleeps
      · exact discipline.asked index object (kept ▸ elsewhere)
      · by_cases before : (now.stance index).awaits = some object
        · exact token ▸ idle object before
        · exact discipline.asked index object before
    · rw [Outlook.stance_setStance_of_ne _ _ _ same] at elsewhere
      exact discipline.asked index object elsewhere

namespace Orderly

/-- A thread goes on by itself, and may notice that a request of its own is over. -/
theorem setStance (orderly : Orderly first r ledger now)
    (token : stance.token = (now.stance me).token)
    (sleeps : stance.awaits = (now.stance me).awaits ∨ stance.awaits = none ∧
      ∀ object, (now.stance me).awaits = some object →
        (now.heap.monitor object).phase stance.token = .idle)
    (keeps : ledger.Keeps after me)
    (stands : ∃ place, Stands first r after (now.heap.monitor r.object)
      ((now.heap.fields r).readWord32 0) me stance place) :
    Orderly first r after (now.setStance me stance) where
  ground := { orderly.ground with field := keeps.written ▸ orderly.ground.field }
  discipline := orderly.discipline.setStance token sleeps
  owed := by
    simp only [Outlook.token_setStance now token, keeps.levels]
    exact orderly.owed
  stands := by
    intro index
    by_cases same : index = me
    · subst same
      rw [Outlook.stance_setStance_self]
      exact stands
    · rw [Outlook.stance_setStance_of_ne _ _ _ same]
      obtain ⟨place, stands⟩ := orderly.stands index
      have meets : place.Meets r (now.heap.monitor r.object) ((now.heap.fields r).readWord32 0)
          (now.stance index) (after.levels (now.stance index).token) :=
        keeps.levels ▸ stands.meets
      exact ⟨place, stands.of_meets (keeps.calls index same) (keeps.stores index same)
        (keeps.returns index same) meets⟩

end Orderly

/-- The outlook once a thread without a token has drawn one. -/
def Outlook.draw (outlook : Outlook) (me : Nat) : Outlook :=
  { outlook with tokens := ⟨outlook.tokens.next + 1⟩ }.setStance me
    { outlook.stance me with token := outlook.tokens.next }

/-- There are tokens left for all threads without one. -/
theorem Discipline.draw (discipline : Discipline now)
    (consistent : ∀ object, Consistent (now.heap.monitor object)) (known : me < now.size)
    (none : (now.stance me).token = nobody) : Discipline (now.draw me) := by
  have without : me ∈ (Finset.range now.size).filter fun index =>
      (now.stance index).token = nobody := by simp [known, none]
  have left := Finset.card_pos.mpr ⟨me, without⟩
  have enough := discipline.enough
  have fresh : now.tokens.next ≠ nobody := (UInt64.ne_of_lt (none ▸ discipline.below me)).symm
  have step : (now.tokens.next + 1).toNat = now.tokens.next.toNat + 1 := by
    rw [UInt64.toNat_add, UInt64.toNat_one, Nat.mod_eq_of_lt]
    simp only [UInt64.size] at enough
    omega
  have others {index : Nat} (different : index ≠ me) :
      (now.draw me).stance index = now.stance index :=
    Outlook.stance_setStance_of_ne _ _ _ different
  have own : (now.draw me).stance me = { now.stance me with token := now.tokens.next } :=
    Outlook.stance_setStance_self ..
  have unowned (index : Nat) : (now.stance index).token ≠ now.tokens.next :=
    fun same => absurd (discipline.below index) (by simp [same])
  constructor
  case apart =>
    intro first second real same
    by_cases one : first = me <;> by_cases two : second = me
    · rw [one, two]
    · rw [one, own, others two] at same
      exact absurd same.symm (unowned second)
    · rw [two, own, others one] at same
      exact absurd same (unowned first)
    · rw [others one] at real same
      rw [others two] at same
      exact discipline.apart first second real same
  case below =>
    intro index
    have next : now.tokens.next < now.tokens.next + 1 := by
      rw [UInt64.lt_iff_toNat_lt, step]
      omega
    by_cases same : index = me
    · rw [same, own]
      exact next
    · rw [others same]
      exact UInt64.lt_trans (discipline.below index) next
  case enough =>
    have others_left : ((Finset.range (now.draw me).size).filter fun index =>
        ((now.draw me).stance index).token = nobody) =
        ((Finset.range now.size).filter fun index =>
          (now.stance index).token = nobody).erase me := by
      ext index
      simp only [Finset.mem_filter, Finset.mem_range, Finset.mem_erase]
      by_cases same : index = me
      · subst same
        simp [own, fresh]
      · rw [others same]
        simp [same, Outlook.draw, Outlook.setStance]
    rw [others_left, Finset.card_erase_of_mem without]
    have next : (now.draw me).tokens.next.toNat = now.tokens.next.toNat + 1 := step
    omega
  case real =>
    intro index awaits
    by_cases same : index = me
    · rw [same, own]
      exact fresh
    · rw [others same] at awaits ⊢
      exact discipline.real index awaits
  case asked =>
    intro index object elsewhere
    by_cases same : index = me
    · rw [same, own]
      exact discipline.strangers _ unowned object
    · rw [others same] at elsewhere ⊢
      exact discipline.asked index object elsewhere
  case strangers =>
    intro thread unowned object
    by_cases empty : thread = nobody
    · rw [empty]
      exact (consistent object).nobody_idle
    · refine discipline.strangers thread (fun index => ?_) object
      by_cases same : index = me
      · rw [same, none]
        exact Ne.symm empty
      · rw [← others same]
        exact unowned index

theorem Reads.congr (reads : Reads first r (now.stance me) place)
    (strand : stance.strand = (now.stance me).strand)
    (awaits : stance.awaits = (now.stance me).awaits) : Reads first r stance place := by
  cases reads with
  | running frames here allowed sleeps =>
    exact .running (strand ▸ frames) (strand ▸ here) allowed (awaits ▸ sleeps)
  | returned here ready => exact .returned (strand ▸ here) (awaits ▸ ready)

namespace Orderly

theorem draw (orderly : Orderly first r ledger now)
    (consistent : ∀ object, Consistent (now.heap.monitor object)) (known : me < now.size)
    (none : (now.stance me).token = nobody) : Orderly first r ledger (now.draw me) where
  ground := { orderly.ground with }
  discipline := orderly.discipline.draw consistent known none
  owed := by
    intro thread unowned
    by_cases empty : thread = nobody
    · exact orderly.owed thread (.inl empty)
    · refine orderly.owed thread (.inr fun index => ?_)
      by_cases same : index = me
      · rw [same, none]
        exact Ne.symm empty
      · have kept := unowned.resolve_left empty index
        rwa [Outlook.draw, Outlook.stance_setStance_of_ne _ _ _ same] at kept
  stands := by
    intro index
    by_cases same : index = me
    · subst same
      obtain ⟨place, stands⟩ := orderly.stands index
      have unowned (other : Nat) : (now.stance other).token ≠ now.tokens.next :=
        fun same => absurd (orderly.discipline.below other) (by simp [same])
      have before : ledger.levels (now.stance index).token = 0 := orderly.owed _ (.inl none)
      have after : ledger.levels now.tokens.next = 0 := orderly.owed _ (.inr unowned)
      have asleep : (now.stance index).awaits = Option.none := by
        by_contra awaits
        exact orderly.discipline.real index awaits none
      refine ⟨place, ?_⟩
      rw [Outlook.draw, Outlook.stance_setStance_self]
      refine { stands with reads := stands.reads.congr rfl rfl, meets := ?_ }
      have meets := stands.meets
      rw [before] at meets
      cases place with
      | outside => exact after
      | locking => exact .inl ⟨asleep, after⟩
      | loading => exact nomatch meets.2
      | storing => exact nomatch meets.2.1
      | unlocking =>
        obtain ⟨-, within⟩ | ⟨awaits, -⟩ := meets
        · exact nomatch within
        · rw [asleep] at awaits
          contradiction
    · rw [Outlook.draw, Outlook.stance_setStance_of_ne _ _ _ same]
      exact orderly.stands index

end Orderly

/-- Every monitor makes a move, or nothing happens to it. -/
def Shifts (heap : Heap) (log : Machine.Log) (later : Heap) : Prop :=
  ∀ object, Monitor.Move (heap.monitor object) (logAt object log) (later.monitor object) ∨
    logAt object log = [] ∧ later.monitor object = heap.monitor object

/-- Whatever happens is done by the thread with this token, or is a sleeper's waking. -/
def DoneBy (thread : Token) (log : Machine.Log) : Prop :=
  ∀ object other happened, (other, happened) ∈ logAt object log →
    happened = .roused ∨ other = thread ∧ thread ≠ nobody

section
variable {heap : Heap} {log : Machine.Log}

theorem DoneBy.silent (done : DoneBy thread log) (different : other = nobody ∨ other ≠ thread)
    (object : UInt64) : Monitor.Silent other (logAt object log) := by
  intro happened member
  obtain woken | ⟨same, real⟩ := done object other happened member
  · exact woken
  · obtain none | different := different
    · exact absurd (same ▸ none) real
    · exact absurd same different

theorem Shifts.idle (shifts : Shifts now.heap log heap)
    (consistent : ∀ object, Consistent (now.heap.monitor object))
    (uncalled : ∀ request, (thread, .called request) ∉ logAt object log)
    (idle : (now.heap.monitor object).phase thread = .idle) :
    (heap.monitor object).phase thread = .idle := by
  obtain moved | ⟨-, same⟩ := shifts object
  · exact (Monitor.idle_move (consistent object) moved idle uncalled).1
  · rw [same, idle]

theorem Discipline.move (discipline : Discipline now)
    (consistent : ∀ object, Consistent (now.heap.monitor object))
    (shifts : Shifts now.heap log heap) (done : DoneBy (now.stance me).token log)
    (token : stance.token = (now.stance me).token)
    (real : stance.awaits ≠ none → stance.token ≠ nobody)
    (asked : ∀ object, stance.awaits ≠ some object →
      (heap.monitor object).phase stance.token = .idle) :
    Discipline ({ now with heap }.setStance me stance) := by
  have tokens := Outlook.token_setStance { now with heap } token
  constructor
  case apart =>
    simp only [tokens]
    exact discipline.apart
  case below =>
    simp only [tokens]
    exact discipline.below
  case enough =>
    simp only [tokens]
    exact discipline.enough
  case real =>
    intro index awaits
    by_cases same : index = me
    · subst same
      rw [Outlook.stance_setStance_self] at awaits ⊢
      exact real awaits
    · rw [Outlook.stance_setStance_of_ne _ _ _ same] at awaits ⊢
      exact discipline.real index awaits
  case asked =>
    intro index object elsewhere
    by_cases same : index = me
    · subst same
      rw [Outlook.stance_setStance_self] at elsewhere ⊢
      exact asked object elsewhere
    · rw [Outlook.stance_setStance_of_ne _ _ _ same] at elsewhere ⊢
      have idle := discipline.asked index object elsewhere
      exact shifts.idle consistent (done.silent (discipline.foreign same) object).uncalled idle
  case strangers =>
    intro thread unowned object
    simp only [tokens] at unowned
    have idle := discipline.strangers thread unowned object
    exact shifts.idle consistent (done.silent (.inr (unowned me).symm) object).uncalled idle

/-- A monitor's moves leave all threads but one where they stand. -/
theorem Orderly.move (orderly : Orderly first r ledger now) (me : Nat) (stance : Stance)
    (consistent : ∀ object, Consistent (now.heap.monitor object))
    (shifts : Shifts now.heap log heap) (done : DoneBy (now.stance me).token log)
    (present : r.object ∈ heap.objects) (fields : heap.fields r = now.heap.fields r)
    (tables : heap.tables = now.heap.tables) (token : stance.token = (now.stance me).token)
    (real : stance.awaits ≠ none → stance.token ≠ nobody)
    (asked : ∀ object, stance.awaits ≠ some object →
      (heap.monitor object).phase stance.token = .idle) (calling : Bool)
    (stands : ∃ place, Stands first r (ledger.afterMove calling (logAt r.object log))
      (heap.monitor r.object) ((now.heap.fields r).readWord32 0) me stance place) :
    Orderly first r (ledger.afterMove calling (logAt r.object log))
      ({ now with heap }.setStance me stance) where
  ground :=
    { orderly.ground with
      present
      tables := tables.trans orderly.ground.tables
      field := fields.symm ▸ orderly.ground.field }
  discipline := orderly.discipline.move consistent shifts done token real asked
  owed := by
    intro thread unowned
    have tokens := Outlook.token_setStance { now with heap } token
    simp only [tokens] at unowned
    have different : thread = nobody ∨ thread ≠ (now.stance me).token :=
      unowned.imp_right fun others => (others me).symm
    have silent := done.silent different r.object
    simp only [Ledger.afterMove, orderly.owed thread unowned, silent.balance, ite_self]
    rfl
  stands := by
    intro index
    by_cases same : index = me
    · subst same
      rw [Outlook.stance_setStance_self]
      exact fields.symm ▸ stands
    · obtain ⟨place, stands⟩ := orderly.stands index
      have different := orderly.discipline.foreign same
      have silent := done.silent different r.object
      have level : (ledger.afterMove calling (logAt r.object log)).levels
          (now.stance index).token = ledger.levels (now.stance index).token := by
        simp only [Ledger.afterMove, silent.balance, ite_self, Int.add_zero]
      refine ⟨place, ?_⟩
      rw [Outlook.stance_setStance_of_ne _ _ _ same]
      refine stands.of_meets rfl rfl rfl ?_
      rw [level]
      change place.Meets r (heap.monitor r.object) ((heap.fields r).readWord32 0) _ _
      rw [fields]
      obtain moved | ⟨-, kept⟩ := shifts r.object
      · have meets := stands.meets.move (consistent r.object) moved silent.uncalled
          (fun on idle => absurd idle
            (Monitor.busy_of_silent (consistent r.object) moved silent on))
          (orderly.discipline.real index) (fun empty => orderly.owed _ (.inl empty))
          (fun ready => orderly.discipline.asked index r.object (by simp [ready]))
        simpa only [silent.balance, ite_self, Int.add_zero] using meets
      · exact kept.symm ▸ stands.meets

end

/-- The outlook once the number in the first field has been written. -/
def Outlook.setField (outlook : Outlook) (r : Ref) (value : UInt32) : Outlook :=
  { outlook with
    heap := outlook.heap.setFields r ((outlook.heap.fields r).writeWord32 0 value) }

namespace Orderly

/-- Only one thread is about to write. -/
theorem storing_unique (orderly : Orderly first r ledger now)
    (storing : Stands first r ledger (now.heap.monitor r.object) ((now.heap.fields r).readWord32 0)
      me (now.stance me) .storing)
    (other : Stands first r ledger (now.heap.monitor r.object) ((now.heap.fields r).readWord32 0)
      index (now.stance index) .storing) : me = index := by
  obtain ⟨-, within, -⟩ := storing.meets
  obtain ⟨-, within', -⟩ := other.meets
  have real := Place.Meets.real_of_within within fun empty => orderly.owed _ (.inl empty)
  have owns : (now.heap.monitor r.object).owner = (now.stance me).token := by
    generalize ledger.levels _ = level at within
    cases within with
    | works _ owns => exact owns
  have owns' : (now.heap.monitor r.object).owner = (now.stance index).token := by
    generalize ledger.levels _ = level at within'
    cases within' with
    | works _ owns => exact owns
  exact orderly.discipline.apart me index real (owns.symm.trans owns')

/-- The thread that is about to write adds one to what the field holds. -/
theorem store (orderly : Orderly first r ledger now)
    (storing : Stands first r ledger (now.heap.monitor r.object) ((now.heap.fields r).readWord32 0)
      me (now.stance me) .storing)
    (token : stance.token = (now.stance me).token)
    (awaits : stance.awaits = (now.stance me).awaits)
    (reads : Reads first r stance .unlocking)
    (left : callsLeft stance.strand = callsLeft (now.stance me).strand) :
    Orderly first r (ledger.afterStore me)
      ((now.setField r ((now.stance me).scratch + 1)).setStance me stance) := by
  have monitors (object : UInt64) :
      (now.setField r ((now.stance me).scratch + 1)).heap.monitor object =
        now.heap.monitor object := Heap.monitor_setFields ..
  have written : ((now.setField r ((now.stance me).scratch + 1)).heap.fields r).readWord32 0 =
      (now.stance me).scratch + 1 := by
    rw [Outlook.setField, Heap.fields_setFields _ orderly.ground.present,
      Memory.Block.readWord32_writeWord32]
  constructor
  case ground =>
    obtain ⟨-, -, loaded⟩ := storing.meets
    refine { orderly.ground with
      present := Heap.mem_setFields _ orderly.ground.present
      tables := (Heap.tables_setFields _).trans orderly.ground.tables
      field := written.trans ?_ }
    rw [loaded, orderly.ground.field]
    simp only [Ledger.afterStore, UInt32.ofNat_add, UInt32.add_assoc]
    rfl
  case discipline =>
    have kept := orderly.discipline.setStance token (.inl awaits)
    refine { kept with asked := ?_, strangers := ?_ }
    · intro index object elsewhere
      have idle := kept.asked index object elsewhere
      exact (congrArg (Monitor.phase · _) (monitors object)).trans idle
    · intro thread unowned object
      have idle := kept.strangers thread unowned object
      exact (congrArg (Monitor.phase · _) (monitors object)).trans idle
  case owed =>
    have tokens := Outlook.token_setStance (now.setField r ((now.stance me).scratch + 1)) token
    simp only [tokens]
    exact orderly.owed
  case stands =>
    intro index
    change ∃ place, Stands first r _
      ((now.setField r ((now.stance me).scratch + 1)).heap.monitor r.object)
      (((now.setField r ((now.stance me).scratch + 1)).heap.fields r).readWord32 0) index
      ((now.setStance me stance).stance index) place
    rw [monitors]
    by_cases same : index = me
    · subst same
      rw [Outlook.stance_setStance_self]
      obtain ⟨ready, within, -⟩ := storing.meets
      refine ⟨.unlocking, reads, .inl ⟨awaits.trans ready, ?_⟩, storing.calls, ?_,
        left ▸ storing.left⟩
      · rw [token]
        exact within
      · have before := storing.stores
        simp only [Place.written] at before
        rw [Ledger.stores_afterStore, before]
        rfl
    · obtain ⟨place, stands⟩ := orderly.stands index
      refine ⟨place, ?_⟩
      rw [Outlook.stance_setStance_of_ne _ _ _ same]
      have elsewhere : place ≠ .storing := by
        rintro rfl
        exact same (orderly.storing_unique storing stands).symm
      exact stands.of_meets rfl (Function.update_of_ne same ..) rfl
        (stands.meets.of_ne_storing elsewhere _)

end Orderly

end

end ManagedRuntime.Scenario
