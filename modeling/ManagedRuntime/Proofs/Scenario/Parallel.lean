import ManagedRuntime.Proofs.Scenario.Commuting

/-! Two scenarios side by side that are in guises of one another. As long as their instructions are
answered alike, every step of the one is a step of the other. -/
namespace ManagedRuntime.Scenario
open Exception

namespace State

/-- One step of a scenario: a thread goes on, or time passes. -/
def advance (state : State) : State :=
  if state.isOver then state
  else
    match state.choose with
    | some index => { state with running := index }.stepThread index
    | none =>
      match state.nextMoment with
      | some moment => { state with clock := moment }
      | none => state

theorem run_succ (state : State) (fuel : Nat) : state.run (fuel + 1) = state.advance.run fuel := by
  have stays (still : ∀ fuel, state.run (fuel + 1) = state) : state = state.run fuel := by
    cases fuel with
    | zero => rfl
    | succ fuel => exact (still fuel).symm
  cases stopped : state.isOver with
  | true =>
    have still (fuel : Nat) : state.run (fuel + 1) = state := by simp only [run, stopped, if_true]
    simp only [still, advance, stopped, if_true]
    exact stays still
  | false =>
    cases chosen : state.choose with
    | some index => simp only [run, advance, stopped, chosen, Bool.false_eq_true, if_false]
    | none =>
      cases next : state.nextMoment with
      | some moment => simp only [run, advance, stopped, chosen, next, Bool.false_eq_true, if_false]
      | none =>
        have still (fuel : Nat) : state.run (fuel + 1) = state := by
          simp only [run, stopped, chosen, next, Bool.false_eq_true, if_false]
        simp only [still, advance, stopped, chosen, next, Bool.false_eq_true, if_false]
        exact stays still

theorem run_advance (state : State) (fuel : Nat) :
    state.run (fuel + 1) = (state.run fuel).advance := by
  induction fuel generalizing state with
  | zero => exact run_succ state 0
  | succ fuel ih => rw [run_succ, ih, run_succ state fuel]

theorem run_add (state : State) (early late : Nat) :
    state.run (early + late) = (state.run early).run late := by
  induction late with
  | zero => rfl
  | succ late ih => rw [← Nat.add_assoc, run_advance, ih, ← run_advance]

/-- The thread that makes the next step, and what it is about to carry out. -/
def upNext (state : State) : Option (Nat × Instruction) :=
  if state.isOver then none
  else state.choose.bind fun index => ((state.thread index).strand.upcoming).map (index, ·)

theorem upNext_eq_some {state : State} {me : Nat} {instruction : Instruction}
    (next : state.upNext = some (me, instruction)) :
    state.isOver = false ∧ state.choose = some me ∧
      (state.thread me).strand.upcoming = some instruction := by
  unfold upNext at next
  split at next
  · cases next
  · next going =>
    obtain ⟨index, chosen, found⟩ := Option.bind_eq_some_iff.mp next
    obtain ⟨upcoming, here, same⟩ := Option.map_eq_some_iff.mp found
    obtain ⟨rfl, rfl⟩ := Prod.mk.inj same
    exact ⟨Bool.eq_false_iff.mpr going, chosen, here⟩

/-- How the thread `me` is answered when it carries out an instruction now. -/
def answer (state : State) (me : Nat) (instruction : Instruction) :
    Reply Instruction Site × Counts × State :=
  let strand := (state.thread me).strand
  (host me).perform strand.counts strand.frames.length instruction { state with running := me }

end State

/-- The second state, behind a veil, is the first one in a guise. -/
def Matches (guise veil : Guise) (first second : State) : Prop :=
  second.under veil = first.under guise

namespace Matches
open State

section
variable {guise veil : Guise} {first second : State} (alike : Matches guise veil first second)
include alike

theorem threads (me : Nat) : veil.thread (second.thread me) = guise.thread (first.thread me) := by
  have same := congrArg (fun state => thread state me) alike
  simpa only [thread_under] using same

theorem isOver : second.isOver = first.isOver := by
  have same := congrArg State.isOver alike
  simpa only [isOver_under] using same

theorem choose (shown : guise.SameTokens) (seen : veil.SameTokens) :
    second.choose = first.choose := by
  have same := congrArg State.choose alike
  rwa [choose_under _ _ seen, choose_under _ _ shown] at same

theorem nextMoment : second.nextMoment = first.nextMoment := by
  have same := congrArg State.nextMoment alike
  simpa only [nextMoment_under] using same

theorem setRunning (running : Nat) :
    Matches guise veil { first with running } { second with running } := by
  have same := congrArg (fun state : State => { state with running }) alike
  exact same

theorem setClock (clock : Nat) :
    Matches guise veil { first with clock } { second with clock } := by
  have same := congrArg (fun state : State => { state with clock }) alike
  exact same

theorem strands (plain : veil.route = id) (me : Nat) :
    (second.thread me).strand = (rerouting guise.route).strand (first.thread me).strand := by
  have same := congrArg Thread.strand (alike.threads me)
  simp only [Guise.thread, plain] at same
  rwa [rerouting_id_strand] at same

/-- A strand is put in its place. -/
theorem setStrand (plain : veil.route = id) (me : Nat) (strand : Strand Instruction Site) :
    Matches guise veil (first.updateThread me fun thread => { thread with strand })
      (second.updateThread me fun thread =>
        { thread with strand := (rerouting guise.route).strand strand }) := by
  have shown (thread : Thread) :
      veil.thread { thread with strand := (rerouting guise.route).strand strand } =
        { veil.thread thread with strand := (rerouting guise.route).strand strand } := by
    simp only [Guise.thread, plain, rerouting_id_strand]
  have behind := updateThread_under veil second me (fun thread =>
    { thread with strand := (rerouting guise.route).strand strand }) fun thread =>
      (shown thread).symm
  have beneath := @updateThread_under_of guise first me (fun thread => { thread with strand })
    (fun thread => { thread with strand := (rerouting guise.route).strand strand }) fun _ => rfl
  refine behind.symm.trans (Eq.trans ?_ beneath)
  exact congrArg (fun state : State => state.updateThread me _) alike

theorem buryThread (me : Nat) : Matches guise veil (first.buryThread me) (second.buryThread me) :=
  (buryThread_under veil second me).symm.trans
    ((congrArg (fun state : State => state.buryThread me) alike).trans
      (buryThread_under guise first me))

/-- Threads that make a step alike leave the states alike. -/
theorem stepThread (plain : veil.route = id) (me : Nat)
    (heard : (rerouting guise.route).Hears (host me) (Matches guise veil))
    (answers : ∀ instruction, (first.thread me).strand.upcoming = some instruction →
      (rerouting guise.route).Answers (Matches guise veil)
        ((host me).perform (first.thread me).strand.counts
          (first.thread me).strand.frames.length instruction first)
        ((host me).perform (first.thread me).strand.counts
          (first.thread me).strand.frames.length (instruction.reroute guise.route) second)) :
    Matches guise veil (first.stepThread me) (second.stepThread me) := by
  have stepped := Translation.step_alike heard (first.thread me).strand alike answers
  rw [← alike.strands plain me] at stepped
  obtain ⟨strand, surroundings⟩ := stepped
  simp only [State.stepThread, strand]
  exact (surroundings.setStrand plain me _).buryThread me

/-- A step of two scenarios whose instructions are answered alike. -/
theorem advance (plain : veil.route = id) (shown : guise.SameTokens) (seen : veil.SameTokens)
    (heard : ∀ me, (rerouting guise.route).Hears (host me) (Matches guise veil))
    (answers : ∀ me instruction, first.upNext = some (me, instruction) →
      (rerouting guise.route).Answers (Matches guise veil) (first.answer me instruction)
        (second.answer me (instruction.reroute guise.route))) :
    Matches guise veil first.advance second.advance := by
  have strands := alike.strands plain
  simp only [State.advance, alike.isOver, alike.choose shown seen, alike.nextMoment]
  cases stopped : first.isOver with
  | true => exact alike
  | false =>
    cases chosen : first.choose with
    | none =>
      cases next : first.nextMoment with
      | none => exact alike
      | some moment => exact alike.setClock moment
    | some me =>
      refine (alike.setRunning me).stepThread plain me (heard me) fun instruction upcoming => ?_
      have asked := answers me instruction (by
        have upcoming : (first.thread me).strand.upcoming = some instruction := upcoming
        simp [upNext, stopped, chosen, upcoming])
      simp only [State.answer, strands me, Translation.strand, List.length_map] at asked
      exact asked

end
end Matches

/-! How scenarios begin. -/

/-- A process in which one thread begins these steps. -/
def State.beginning (process : State) (steps : List Step) : State :=
  { process with threads := #[{ strand := { control := .run steps } }] }

/-- The first thread of a scenario may have been asked for its token already. -/
def State.askFirst (state : State) (asked : Bool) : State :=
  if asked then state.askToken 0 "main" else state

theorem State.beginning_under (guise : Guise) (process : State) (steps : List Step) :
    (process.beginning steps).under guise =
      (process.setMachine (process.machine.under guise.machine)).beginning
        (rerouteAll guise.route steps) := by
  have first : guise.thread { strand := { control := .run steps } } =
      { strand := { control := .run (rerouteAll guise.route steps) } } := by
    simp only [Guise.thread, guise.empty, rerouteAll_eq_map]
    rfl
  simp only [State.beginning, State.under, List.map_toArray, List.map_cons, List.map_nil, first]
  rfl

theorem State.askFirst_under {guise : Guise} (same : guise.SameTokens) (state : State)
    (asked : Bool) : (state.under guise).askFirst asked = (state.askFirst asked).under guise := by
  cases asked with
  | false => rfl
  | true => exact State.askToken_under 0 same "main"

theorem initialState_eq (setting : Setting) (steps : List Step) :
    initialState setting steps =
      ((initialProcess setting (placement steps)).beginning steps).askFirst setting.asked := rfl

end ManagedRuntime.Scenario
