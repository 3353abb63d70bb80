import ManagedRuntime.Proofs.Exception.Counters
import ManagedRuntime.Scenario.Host

/-! What compiled code is told of a catch region that it entered: a status, and a reference in its
cell if it has one. -/
namespace ManagedRuntime.Scenario
open Exception

/-- What the region that is left returns, and what is in its caller's cell then; nothing unless a
region ends in a way that returns. -/
def regionResult (cell : Option Ref) (told : List (Counts × Signal κ)) :
    Option (Nat × Option Ref) :=
  told.findSome? fun
    | (_, .regionLeft _ caught) => some (EntryPoint.attempt cell caught)
    | _ => none

section
variable {host : Host ι κ σ} {site : κ} {handler todo : List (Code ι κ)}
  {base : List (Frame ι κ)} (cell : Option Ref)

/-- An instruction ends no region. -/
theorem regionResult_act (instruction : ι) (frames : List (Frame ι κ)) (counts : Counts)
    (state : σ) :
    regionResult cell (Strand.told host ⟨.run (.act instruction :: todo), frames, counts⟩ state) =
      none := by
  rcases answered : host.perform counts frames.length instruction state with ⟨reply, now, later⟩
  have noted : host.watched.perform counts frames.length instruction ⟨state, []⟩ =
      (reply, now, ⟨later, []⟩) := perform_watched answered
  simp only [Strand.told, Strand.step, Strand.enter, Strand.act, noted]
  cases reply with
  | done | pending | halted | run | foreign => rfl
  | throw => simp only [Strand.throw]; split <;> rfl
  | raise | raiseHeld => simp only [Strand.raise]; split <;> rfl

theorem regionResult_eq {strand : Strand ι κ} {state : σ}
    (innermost : strand.frames = .protect site handler todo :: base) :
    regionResult cell (strand.told host state) =
      match strand.control with
      | .run [] => some (0, cell)
      | .unwind (.managed record) => some (1, cell.map fun _ => record.throwable)
      | _ => none := by
  obtain ⟨control, frames, counts⟩ := strand
  obtain rfl : frames = .protect site handler todo :: base := innermost
  cases control with
  | returned | died | halted => rfl
  | exiting held => cases held <;> rfl
  | run todo =>
    cases todo with
    | nil => rfl
    | cons code todo =>
      cases code with
      | act instruction => exact regionResult_act ..
      | block | protect | guarded | intercept | outermost => rfl
  | unwind payload => cases payload <;> rfl

theorem regionResult_iff {strand : Strand ι κ} {state : σ}
    (innermost : strand.frames = .protect site handler todo :: base)
    (status : Nat) (now : Option Ref) :
    regionResult cell (strand.told host state) = some (status, now) ↔
      (strand.control = .run [] ∧ status = 0 ∧ now = cell) ∨
        ∃ record, strand.control = .unwind (.managed record) ∧ status = 1 ∧
          now = cell.map fun _ => record.throwable := by
  rw [regionResult_eq cell innermost]
  constructor
  · intro returned
    split at returned
    · next ended =>
      cases returned
      exact .inl ⟨ended, rfl, rfl⟩
    · next record thrown =>
      cases returned
      exact .inr ⟨record, thrown, rfl, rfl⟩
    · cases returned
  · rintro (⟨ended, rfl, rfl⟩ | ⟨record, thrown, rfl, rfl⟩)
    · rw [ended]
    · rw [thrown]

/-- How a thread comes to the end of its innermost region, and what the code that entered the
region is told then. -/
structure RegionReturns (host : Host ι κ σ) (cell : Option Ref) (base : List (Frame ι κ))
    (strand : Strand ι κ) (state : σ) : Prop where
  /-- Zero when the body has returned, and one when an exception has come to the region; then the
  thrown reference is in the cell, if there is a cell. -/
  result : ∀ status now, regionResult cell (strand.told host state) = some (status, now) ↔
    (strand.control = .run [] ∧ status = 0 ∧ now = cell) ∨
      ∃ record, strand.control = .unwind (.managed record) ∧ status = 1 ∧
        now = cell.map fun _ => record.throwable
  /-- A foreign unwind goes on, and nobody is told. -/
  passed : ∀ message, strand.control = .unwind (.foreign message) →
    strand.told host state = [] ∧ strand.step host state =
      (⟨.unwind (.foreign message), base, strand.counts.leaveRegion⟩, state)
  left : (strand.step host state).1.frames = base → strand.control = .run [] ∨
    (∃ record, strand.control = .unwind (.managed record)) ∨
      ∃ message, strand.control = .unwind (.foreign message)

theorem region_returns {strand : Strand ι κ} {state : σ}
    (innermost : strand.frames = .protect site handler todo :: base) :
    RegionReturns host cell base strand state := by
  constructor
  · exact regionResult_iff cell innermost
  · intro message thrown
    obtain ⟨control, frames, counts⟩ := strand
    obtain rfl : frames = .protect site handler todo :: base := innermost
    obtain rfl : control = .unwind (.foreign message) := thrown
    exact ⟨rfl, rfl⟩
  · intro left
    rcases region_ends innermost left with ⟨ended, -⟩ | ⟨record, thrown, -⟩ | ⟨message, thrown, -⟩
    · exact .inl ended
    · exact .inr (.inl ⟨record, thrown⟩)
    · exact .inr (.inr ⟨message, thrown⟩)

end

namespace State

theorem references_flushJournal (state : State) (me : Nat) :
    (state.flushJournal me).references = state.references := by
  have kept (records : List LogRecord) (told : State) : (records.foldl
      (fun told record => told.tellEntry me (state.logEntry me record)) told).references =
        told.references := by
    induction records generalizing told with
    | nil => rfl
    | cons record rest ih =>
      rw [List.foldl_cons, ih]
      rfl
  exact kept _ _

theorem nameOf_flushJournal (state : State) (me : Nat) (r : Ref) :
    (state.flushJournal me).nameOf r = state.nameOf r := by
  simp only [nameOf, references_flushJournal]

/-- A region of compiled code tells its status; then its owner looks into the cell, and goes on as
the owner of any other region. -/
theorem regionLeft_entryPoint (state : State) (me : Nat) (counts : Counts) (name : Option String)
    (ignore : Bool) (caught : Option Ref) :
    let result := EntryPoint.attempt (if ignore then none else some .null) caught
    state.regionLeft me counts (.attempt .entryPoint name ignore) caught =
      (state.tell me (.status result.1)).regionLeft me counts (.attempt .direct name ignore)
        (if result.1 = 0 then none else some (result.2.getD .null)) := by
  intro result
  have names : (state.tell me (.status result.1)).nameOf = state.nameOf :=
    funext (nameOf_flushJournal state me)
  simp only [regionLeft, names]
  rfl

end State

end ManagedRuntime.Scenario
