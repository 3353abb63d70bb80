import ManagedRuntime.Proofs.Runs
import ManagedRuntime.Proofs.Scenario.Core
import ManagedRuntime.Scenario.Run

/-! Threads of a scenario take turns in any order. A turn moves one of them: the others stay where
they are, and new ones are at their beginning. -/
namespace ManagedRuntime.Scenario.State
open Exception

/-- A thread at the beginning of its program. -/
def IsFresh (strand : Strand Instruction Site) : Prop :=
  ∃ program, strand = { control := .run program }

/-- New threads join behind the others, which are where they were. -/
def Joins (before after : State) : Prop :=
  ∃ fresh, after.strands = before.strands ++ fresh ∧ ∀ strand ∈ fresh, IsFresh strand

namespace Joins

theorem of_strands {before after : State} (same : after.strands = before.strands) :
    Joins before after :=
  ⟨#[], by simpa using same, fun _ member => absurd member (Array.not_mem_empty _)⟩

theorem trans {first middle last : State} (early : Joins first middle) (late : Joins middle last) :
    Joins first last := by
  obtain ⟨before, joined, freshBefore⟩ := early
  obtain ⟨after, followed, freshAfter⟩ := late
  refine ⟨before ++ after, by rw [followed, joined, Array.append_assoc], fun strand member => ?_⟩
  rcases Array.mem_append.mp member with earlier | later
  · exact freshBefore strand earlier
  · exact freshAfter strand later

end Joins

theorem joins_perform (state : State) (me : Nat) (counts : Counts) (height : Nat)
    (instruction : Instruction) :
    Joins state ((host me).perform counts height instruction state).2.2 := by
  have still {later : State} {records : List (String × ExceptionRecord)}
      (same : later.core = (state.strands, records)) : Joins state later :=
    .of_strands (congrArg Prod.fst same)
  cases instruction with
  | capture name reference depth =>
    exact still ((core_flushJournal _ me).trans (core_capture state me name _ depth height counts))
  | release name =>
    exact still ((core_flushJournal _ me).trans (core_releaseRecord state me name counts))
  | raiseCaptured name =>
    simp only [host, perform]
    split
    · next taken => exact still (taken ▸ core_takeRecord state name)
    · next taken => exact still (taken ▸ core_takeRecord state name)
  | spawn label name managed asked =>
    refine ⟨#[{ control := .run (threadProgram managed) }], ?_, fun strand member => ?_⟩
    · have core := core_spawn state me label name managed asked
      exact congrArg Prod.fst ((core_flushJournal _ me).trans core)
    · exact ⟨_, by simpa using member⟩
  | stress name index threads times =>
    obtain ⟨started, core⟩ :=
      core_stress state me (state.reference name) index threads times counts
    refine ⟨_, congrArg Prod.fst core, fun strand member => ?_⟩
    have same := (Array.mem_replicate.mp member).2
    exact ⟨_, same⟩
  | _ => exact .of_strands (congrArg Prod.fst (core_perform state me counts height rfl rfl))

theorem joins_step (state : State) (me : Nat) (strand : Strand Instruction Site) :
    Joins state (strand.step (host me) state).2 :=
  strand.step_relates Joins (fun _ => .of_strands rfl) Joins.trans
    (fun counts signal state => .of_strands (congrArg Prod.fst (core_hear state me counts signal)))
    state fun _ _ => joins_perform ..

def strand (state : State) (index : Nat) : Strand Instruction Site := (state.thread index).strand

/-- A number that no thread has stands for one that has returned. -/
def absent : Strand Instruction Site := { control := .returned }

theorem strand_eq (state : State) (index : Nat) :
    state.strand index = state.strands.getD index absent := by
  simp only [strand, thread, strands, Array.getD_eq_getD_getElem?, Array.getElem?_map]
  cases state.threads[index]? <;> rfl

theorem core_buryThread (state : State) (index : Nat) :
    (state.buryThread index).core = state.core := by
  unfold buryThread
  split
  · exact core_leaveThread ..
  · rfl

theorem strands_moveThread (state : State) (index : Nat) (moved : Strand Instruction Site) :
    (state.updateThread index fun thread => { thread with strand := moved }).strands =
      state.strands.setIfInBounds index moved := by
  refine Array.ext_getElem? fun position => ?_
  simp only [strands, updateThread, Array.getElem?_map, Array.getElem?_modify]
  by_cases here : index = position
  · subst here
    by_cases inside : index < state.threads.size
    · simp [inside]
    · simp [Nat.le_of_not_lt inside]
  · simp [here]

section
variable (state : State) (index : Nat)

theorem core_stepThread :
    (state.stepThread index).core =
      (((state.strand index).step (host index) state).2.strands.setIfInBounds index
        ((state.strand index).step (host index) state).1,
        ((state.strand index).step (host index) state).2.records) := by
  exact (core_buryThread _ index).trans (Prod.ext (strands_moveThread ..) rfl)

/-- The thread whose turn it is makes a step in its surroundings. -/
theorem strand_stepThread :
    (state.stepThread index).strand index = ((state.strand index).step (host index) state).1 := by
  obtain ⟨fresh, joined, -⟩ := joins_step state index (state.strand index)
  have moved := congrArg Prod.fst (core_stepThread state index)
  simp only [core, joined] at moved
  rw [strand_eq, moved, Array.getD_eq_getD_getElem?, Array.getElem?_setIfInBounds_self]
  split
  · rfl
  · next beyond =>
    have none : state.strand index = absent := by
      rw [strand_eq, Array.getD_eq_getD_getElem?, Array.getElem?_eq_none, Option.getD_none]
      simp only [Array.size_append] at beyond
      omega
    rw [none]
    rfl

/-- The others stay where they are. -/
theorem strand_stepThread_of_ne {other : Nat} (different : other ≠ index) :
    (state.stepThread index).strand other = state.strand other ∨
      state.strand other = absent ∧ IsFresh ((state.stepThread index).strand other) := by
  obtain ⟨fresh, joined, begins⟩ := joins_step state index (state.strand index)
  have moved := congrArg Prod.fst (core_stepThread state index)
  simp only [core, joined] at moved
  have found : ((state.stepThread index).strands)[other]? = (state.strands ++ fresh)[other]? := by
    rw [moved, Array.getElem?_setIfInBounds_ne different.symm]
  rw [strand_eq, strand_eq, Array.getD_eq_getD_getElem?, found, Array.getD_eq_getD_getElem?]
  rcases Nat.lt_or_ge other state.strands.size with known | new
  · exact .inl (by rw [Array.getElem?_append_left known])
  · rw [Array.getElem?_append_right new, Array.getElem?_eq_none new]
    cases joins : fresh[other - state.strands.size]? with
    | none => exact .inl rfl
    | some strand => exact .inr ⟨rfl, begins strand (Array.mem_of_getElem? joins)⟩

theorem frames_stepThread_of_ne {other : Nat} (different : other ≠ index) :
    ((state.stepThread index).strand other).frames = (state.strand other).frames := by
  rcases strand_stepThread_of_ne state index different with same | ⟨none, program, fresh⟩
  · rw [same]
  · rw [none, fresh]
    rfl

end

/-- Where a step leaves the threads as they are, the others do not move. -/
theorem strand_of_kept {state : State} {me index : Nat}
    (kept : ((state.strand me).step (host me) state).2.strands = state.strands)
    (other : index ≠ me) : (state.stepThread me).strand index = state.strand index := by
  have moved := congrArg Prod.fst (core_stepThread state me)
  simp only [core, kept] at moved
  rw [strand_eq, strand_eq, moved, Array.getD_eq_getD_getElem?,
    Array.getElem?_setIfInBounds_ne (Ne.symm other), Array.getD_eq_getD_getElem?]

/-- The names of records that a thread is about to deal with, and the thread itself. -/
def touchedBy (state : State) (index : Nat) : List (Nat × String) :=
  ((state.strand index).upcoming.elim [] Instruction.touches).map (index, ·)

/-- Threads take turns in any order, whatever time it is. -/
inductive Turn : State → List (Nat × String) → State → Prop
  | step (state : State) (index : Nat) :
      Turn state (state.touchedBy index) (state.stepThread index)
  | elapse (state : State) (clock : Nat) : Turn state [] { state with clock }
  | switch (state : State) (running : Nat) : Turn state [] { state with running }

/-- The scheduler of a scenario is one way to take turns, and they are taken while the process
lives, whatever is followed of them. -/
theorem runs_run {Move : State → List ε → State → Prop}
    (step : ∀ state index, state.machine.ended = none →
      ∃ label, Move state label (state.stepThread index))
    (elapse : ∀ state clock, state.machine.ended = none →
      ∃ label, Move state label { state with clock })
    (switch : ∀ state running, state.machine.ended = none →
      ∃ label, Move state label { state with running })
    (state : State) (fuel : Nat) : ∃ history, Runs Move state history (state.run fuel) := by
  induction fuel generalizing state with
  | zero => exact ⟨[], .start state⟩
  | succ fuel ih =>
    unfold run
    split
    · exact ⟨[], .start state⟩
    · next going =>
      have alive : state.machine.ended = none := by
        simp only [isOver, Bool.or_eq_true, not_or] at going
        simpa using going.1
      split
      · next index _ =>
        obtain ⟨_, chosen⟩ := switch state index alive
        obtain ⟨_, moved⟩ := step { state with running := index } index alive
        obtain ⟨_, rest⟩ := ih ({ state with running := index }.stepThread index)
        exact ⟨_, ((Runs.one chosen).next moved).append rest⟩
      · split
        · next moment _ =>
          obtain ⟨_, passed⟩ := elapse state moment alive
          obtain ⟨_, rest⟩ := ih { state with clock := moment }
          exact ⟨_, (Runs.one passed).append rest⟩
        · exact ⟨[], .start state⟩

def takeTurns (state : State) (order : List Nat) : State := order.foldl stepThread state

def touchedIn : State → List Nat → List (Nat × String)
  | _, [] => []
  | state, index :: order => state.touchedBy index ++ touchedIn (state.stepThread index) order

theorem runs_takeTurns (state : State) (order : List Nat) :
    Runs Turn state (state.touchedIn order) (state.takeTurns order) := by
  induction order generalizing state with
  | nil => exact .start state
  | cons index order ih =>
    exact (Runs.next (.start state) (.step state index)).append (ih (state.stepThread index))

/-- Every thread is at the beginning of its program, and no record is kept. -/
structure AtStart (state : State) : Prop where
  fresh : ∀ strand ∈ state.strands, IsFresh strand
  records : state.records = []

theorem AtStart.strand_cases {state : State} (begins : AtStart state) (index : Nat) :
    IsFresh (state.strand index) ∨ state.strand index = absent := by
  rw [strand_eq, Array.getD_eq_getD_getElem?]
  cases found : state.strands[index]? with
  | none => exact .inr rfl
  | some strand => exact .inl (begins.fresh strand (Array.mem_of_getElem? found))

theorem counted_fresh {strand : Strand Instruction Site} (fresh : IsFresh strand) :
    Counted strand := by
  obtain ⟨program, rfl⟩ := fresh
  exact ⟨rfl, trivial, trivial⟩

/-- The counter of regions is right on every thread, in whatever order they take turns. -/
theorem counted_of_turns {start last : State} {touched : List (Nat × String)}
    (begins : AtStart start) (run : Runs Turn start touched last) (index : Nat) :
    Counted (last.strand index) := by
  refine run.invariant (fun state => ∀ index, Counted (state.strand index)) ?_ ?_ index
  · intro state now after counted turn index
    cases turn with
    | elapse | switch => exact counted index
    | step moved =>
      by_cases own : index = moved
      · subst own
        rw [strand_stepThread]
        exact counted_step (steady_host index) _ state (counted index)
      · rcases strand_stepThread_of_ne state moved own with same | ⟨-, fresh⟩
        · rw [same]
          exact counted index
        · exact counted_fresh fresh
  · intro index
    rcases begins.strand_cases index with fresh | none
    · exact counted_fresh fresh
    · exact none ▸ ⟨rfl, trivial, trivial⟩

end ManagedRuntime.Scenario.State
