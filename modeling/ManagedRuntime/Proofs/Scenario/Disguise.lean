import ManagedRuntime.Proofs.Scenario.Attempts
import ManagedRuntime.Proofs.Scenario.Parallel
import ManagedRuntime.Proofs.Scenario.Turns

/-! Guises that hide nothing but records of the log. What a thread does in such a guise is what it
does without, whole turns at a time; and what is the same in the guise stays so. -/
namespace ManagedRuntime.Scenario
open Exception

/-- Takes no other routes, and tells everything but records of the log as it is. -/
structure Guise.Faithful (guise : Guise) : Prop where
  route : guise.route = id
  status : ∀ status, guise.event (.status status) = some (.status status)
  started : ∀ status, guise.event (.started status) = some (.started status)

namespace Guise.Faithful
variable {guise : Guise} (faithful : guise.Faithful)
include faithful

theorem answer (answer : Reply Instruction Site × Counts × State) :
    guise.answer answer = (answer.1, answer.2.1, answer.2.2.under guise) := by
  simp only [Guise.answer, faithful.route, rerouting_id_reply]

theorem strand (thread : Thread) : (guise.thread thread).strand = thread.strand := by
  simp only [Guise.thread, faithful.route, rerouting_id_strand]

/-- Of a thread, only its account and what it shows of its token are changed. -/
theorem thread (thread : Thread) :
    guise.thread thread = { thread with
      told := thread.told.filterMap guise.entry, token := guise.cell thread.token } := by
  have inbox : thread.inbox.map (·.map (Step.reroute guise.route)) = thread.inbox := by
    rw [faithful.route]
    cases thread.inbox with
    | none => rfl
    | some steps => simp only [Option.map_some, ← rerouteAll_eq_map, rerouteAll_id]
  have strand := faithful.strand thread
  simp only [Guise.thread] at strand
  simp only [Guise.thread, strand, inbox]

end Guise.Faithful

namespace State

section
variable {guise : Guise} (faithful : guise.Faithful) (state : State) (me : Nat)
include faithful

theorem regionLeft_faithful (counts : Counts) (site : Site) (caught : Option Ref) :
    (state.under guise).regionLeft me counts site caught =
      (state.regionLeft me counts site caught).under guise := by
  cases site with
  | attempt route name ignore =>
    cases route with
    | direct => exact regionLeft_attempt_under _ state me counts name ignore caught
    | stub => exact regionLeft_attempt_under _ state me counts name ignore caught
    | entryPoint =>
      rw [regionLeft_entryPoint, regionLeft_entryPoint, ← regionLeft_attempt_under,
        ← tell_under_of guise state me (faithful.status _)]
  | level nest => cases caught <;> rfl
  | guarded | intercept | outermost | entry | threadBottom | levelFrame => rfl

theorem hear_faithful (counts : Counts) (signal : Signal Site) :
    (host me).signal counts signal (state.under guise) =
      ((host me).signal counts signal state).under guise := by
  cases stopped : regionOver signal with
  | false =>
    have heard := hear_under guise state me counts stopped
    rwa [faithful.route, rerouting_id_signal] at heard
  | true =>
    cases signal with
    | regionLeft site caught => exact regionLeft_faithful faithful state me counts site caught
    | _ => cases stopped

variable {state me}

theorem perform_faithful {counts : Counts} {height : Nat} {instruction : Instruction}
    (allows : guise.Allows state me counts height instruction) :
    (host me).perform counts height instruction (state.under guise) =
      guise.answer ((host me).perform counts height instruction state) := by
  cases instruction with
  | assign label verb patience job =>
    have given := assign_under guise state me label verb patience job counts
    rwa [faithful.route, rerouteAll_id] at given
  | start arguments count name route body =>
    have begun := perform_start_under allows
    rwa [faithful.route, rerouteAll_id] at begun
  | started route =>
    have told : (state.under guise).started me route = (state.started me route).under guise := by
      simp only [started_eq, machine_under, Machine.endStart, Machine.logText_under,
        setMachine_under]
      exact tell_under_of guise _ me (faithful.started _)
    refine Eq.trans ?_ (done_under guise _ me counts)
    exact congrArg (done me counts) told
  | _ => exact perform_under allows rfl

end

theorem matches_plain {guise : Guise} {first second : State} :
    Matches guise {} first second ↔ second = first.under guise := by
  rw [Matches, under_plain]

theorem hears_faithful {guise : Guise} (faithful : guise.Faithful) (me : Nat) :
    (rerouting guise.route).Hears (host me) (Matches guise {}) := by
  intro counts signal first second alike
  rw [matches_plain] at alike ⊢
  rw [alike, faithful.route, rerouting_id_signal, hear_faithful faithful]

theorem answers_faithful {guise : Guise} (faithful : guise.Faithful) {state : State} {me : Nat}
    {counts : Counts} {height : Nat} {instruction : Instruction}
    (allows : guise.Allows state me counts height instruction) :
    (rerouting guise.route).Answers (Matches guise {})
      ((host me).perform counts height instruction state)
      ((host me).perform counts height (instruction.reroute guise.route) (state.under guise)) := by
  rw [faithful.route, Instruction.reroute_id, perform_faithful faithful allows, faithful.answer]
  refine ⟨?_, rfl, matches_plain.mpr rfl⟩
  rw [rerouting_id_reply]

/-- A whole turn in a guise. -/
theorem stepThread_under {guise : Guise} (faithful : guise.Faithful) {state : State} {me : Nat}
    (allows : ∀ instruction, (state.strand me).upcoming = some instruction →
      guise.Allows state me (state.strand me).counts (state.strand me).frames.length instruction) :
    (state.under guise).stepThread me = (state.stepThread me).under guise :=
  matches_plain.mp ((matches_plain.mpr rfl).stepThread rfl me (hears_faithful faithful me)
    fun instruction upcoming => answers_faithful faithful (allows instruction upcoming))

/-! What stays as it is, since it is the same in a guise. -/

section
variable {state : State} (me : Nat)

/-- What a guise would change was changed in no turn, if it was so before. -/
theorem under_stepThread_of_same {guise : Guise} (faithful : guise.Faithful)
    (same : state.under guise = state)
    (allows : ∀ instruction, (state.strand me).upcoming = some instruction →
      guise.Allows state me (state.strand me).counts (state.strand me).frames.length instruction) :
    (state.stepThread me).under guise = state.stepThread me := by
  rw [← stepThread_under faithful allows, same]

/-- A process keeps what it was given from outside. -/
theorem given_stepThread :
    (state.stepThread me).machine.environment = state.machine.environment ∧
      (state.stepThread me).machine.backend = state.machine.backend := by
  let guise : Guise := { machine := {
    environment := some state.machine.environment, backend := some state.machine.backend } }
  have same : state.under guise = state := by
    rw [state.under_of_plain rfl rfl rfl, Machine.under_of_plain ⟨rfl, rfl, rfl⟩ (.inl rfl)]
    rfl
  have worn := @under_stepThread_of_same state me guise ⟨rfl, fun _ => rfl, fun _ => rfl⟩ same
    fun instruction _ => Guise.allows_of_alike ⟨rfl, rfl, rfl⟩ ⟨rfl, rfl, rfl, rfl, .inl rfl⟩ ..
  exact ⟨(congrArg (·.machine.environment) worn).symm, (congrArg (·.machine.backend) worn).symm⟩

/-- A process that has a logger keeps one. -/
theorem sink_stepThread (heard : state.machine.sink ≠ .nowhere) :
    (state.stepThread me).machine.sink ≠ .nowhere := by
  let guise : Guise := { machine := { muffled := true } }
  have same : state.under guise = state := by
    rw [state.under_of_plain rfl rfl rfl, Machine.under_of_plain ⟨rfl, rfl, rfl⟩ (.inr heard)]
    rfl
  have worn := @under_stepThread_of_same state me guise ⟨rfl, fun _ => rfl, fun _ => rfl⟩ same
    fun instruction _ => Guise.allows_of_alike ⟨rfl, rfl, rfl⟩ ⟨rfl, rfl, rfl, rfl, .inr heard⟩ ..
  intro nowhere
  have sink : (state.stepThread me).machine.sink = guise.machine.sink
    (state.stepThread me).machine.sink := (congrArg (·.machine.sink) worn).symm
  rw [nowhere] at sink
  cases sink

/-- A guise that leaves the settings to a process and suits it now will still suit it later. -/
theorem suits_stepThread {guise : Machine.Guise} (suits : Machine.Suits guise state.machine) :
    Machine.Suits guise (state.stepThread me).machine := by
  obtain ⟨environment, backend⟩ := @given_stepThread state me
  refine ⟨suits.free, Machine.fits_of_free suits.free ?_, fun silent => ?_, ?_⟩
  · rw [environment]
    exact suits.fits.environment
  · have before : state.machine.sink = .nowhere := by
      by_contra heard
      exact sink_stepThread me heard silent
    rw [environment, backend]
    exact suits.logs.logger before
  · rw [environment, backend]
    exact suits.logs.warning

end

end State
end ManagedRuntime.Scenario
