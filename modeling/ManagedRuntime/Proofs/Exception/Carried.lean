import ManagedRuntime.Proofs.Exception.Counters

/-! The records a thread has with it: on their way, or suspended by a cleanup. A step adds none but
the one that an answer brings along, and tells of no other. -/
namespace ManagedRuntime.Exception

def Payload.carried : Payload → List ExceptionRecord
  | .managed record => [record]
  | .foreign _ => []

def Control.carried : Control ι κ → List ExceptionRecord
  | .unwind payload | .died payload => payload.carried
  | .exiting held => held.toList
  | .run _ | .returned | .halted => []

def Frame.carried : Frame ι κ → List ExceptionRecord
  | .cleaning (some payload) _ => payload.carried
  | .cleaning none _ | .protect _ _ _ | .guarded _ _ _ | .intercept _ _ _ | .outermost _ _ => []

def Reply.carried : Reply ι κ → List ExceptionRecord
  | .throw _ record | .raise _ record | .raiseHeld _ record => [record]
  | .done | .pending | .halted | .run _ | .foreign _ => []

/-- The records that are told of as a whole. -/
def Signal.carried : Signal κ → List ExceptionRecord
  | .released record | .endOfStack _ record | .uncaught record => [record]
  | .intercepted _ (some payload) => payload.carried
  | .intercepted _ none | .raising _ | .caught _ | .regionLeft _ _ | .cleaning _
  | .interceptLeft _ | .outermostLeft _ | .exited | .foreignAtBottom | .cleanupEscaped => []

/-- All records of a thread are of one kind. -/
structure Carries (good : ExceptionRecord → Prop) (strand : Strand ι κ) : Prop where
  control : ∀ record ∈ strand.control.carried, good record
  frames : ∀ frame ∈ strand.frames, ∀ record ∈ frame.carried, good record

theorem Carries.imp {good fair : ExceptionRecord → Prop} {strand : Strand ι κ}
    (carries : Carries good strand) (weaker : ∀ record, good record → fair record) :
    Carries fair strand :=
  ⟨fun record member => weaker record (carries.control record member),
    fun frame there record member => weaker record (carries.frames frame there record member)⟩

/-- And so are those it has told of. -/
structure Discloses (good : ExceptionRecord → Prop) (control : Control ι κ)
    (frames : List (Frame ι κ)) (seen : Watched κ σ) : Prop where
  control : ∀ record ∈ control.carried, good record
  frames : ∀ frame ∈ frames, ∀ record ∈ frame.carried, good record
  told : ∀ point ∈ seen.told, ∀ record ∈ point.2.carried, good record

def DisclosesAt (good : ExceptionRecord → Prop) (moment : Strand ι κ × Watched κ σ) : Prop :=
  Discloses good moment.1.control moment.1.frames moment.2

section
variable {host : Host ι κ σ} {good : ExceptionRecord → Prop} {control : Control ι κ}
  {frames : List (Frame ι κ)} {counts : Counts} {seen : Watched κ σ} {state : σ}

/-- Nothing has been told yet. -/
theorem Discloses.silent (control : Control ι κ) {frames : List (Frame ι κ)}
    (here : ∀ record ∈ control.carried, good record)
    (outer : ∀ frame ∈ frames, ∀ record ∈ frame.carried, good record) :
    Discloses good control frames (⟨state, []⟩ : Watched κ σ) :=
  ⟨here, outer, fun _ member => (List.not_mem_nil member).elim⟩

theorem Discloses.hear (discloses : Discloses good control frames seen) (counts : Counts)
    (signal : Signal κ) (fits : ∀ record ∈ signal.carried, good record) :
    Discloses good control frames (host.watched.signal counts signal seen) := by
  obtain ⟨here, outer, told⟩ := discloses
  refine ⟨here, outer, fun point member => ?_⟩
  rcases List.mem_append.mp member with earlier | now
  · exact told point earlier
  · obtain rfl := List.mem_singleton.mp now
    exact fits

theorem discloses_act {instruction : ι} {todo : List (Code ι κ)}
    (outer : ∀ frame ∈ frames, ∀ record ∈ frame.carried, good record)
    (brought : ∀ record ∈ (host.perform counts frames.length instruction state).1.carried,
      good record) :
    DisclosesAt good (Strand.act host.watched ⟨.run (.act instruction :: todo), frames, counts⟩
      instruction todo ⟨state, []⟩) := by
  rcases answered : host.perform counts frames.length instruction state with ⟨reply, now, later⟩
  simp only [answered] at brought
  have noted : host.watched.perform counts frames.length instruction ⟨state, []⟩ =
      (reply, now, ⟨later, []⟩) := perform_watched answered
  have stays (control : Control ι κ) (none : control.carried = []) :
      Discloses good control frames (⟨later, []⟩ : Watched κ σ) :=
    .silent control (none ▸ List.forall_mem_nil _) outer
  have raises (record : ExceptionRecord) (here : good record) :
      Discloses good (.unwind (.managed record)) frames (⟨later, []⟩ : Watched κ σ) :=
    .silent _ (List.forall_mem_singleton.mpr here) outer
  simp only [Strand.act, noted]
  cases reply with
  | done | pending | halted | run | foreign => exact stays _ rfl
  | throw mode record =>
    simp only [Strand.throw]
    split
    · exact (raises record (brought record List.mem_cons_self)).hear _ (.raising _)
        (List.forall_mem_nil _)
    · have held : Discloses good (.exiting (some record)) frames (⟨later, []⟩ : Watched κ σ) :=
        .silent _ brought outer
      exact held.hear _ (.uncaught record) brought
  | raise mode record | raiseHeld mode record =>
    simp only [Strand.raise]
    split
    · exact (raises record (brought record List.mem_cons_self)).hear _ (.raising _)
        (List.forall_mem_nil _)
    · exact ((stays _ rfl).hear _ (.endOfStack _ record) brought).hear _ (.released record) brought

theorem discloses_leave {frame : Frame ι κ} (inner : ∀ record ∈ frame.carried, good record)
    (outer : ∀ frame ∈ frames, ∀ record ∈ frame.carried, good record) :
    DisclosesAt good (Strand.leave host.watched ⟨.run [], frame :: frames, counts⟩ frame frames
      ⟨state, []⟩) := by
  have stays (todo : List (Code ι κ)) :
      Discloses good (.run todo) frames (⟨state, []⟩ : Watched κ σ) :=
    .silent _ nofun outer
  cases frame with
  | protect site handler rest => exact (stays rest).hear _ (.regionLeft site none) nofun
  | outermost site rest => exact (stays rest).hear _ (.outermostLeft site) nofun
  | guarded site cleanup rest =>
    have cleaning : Discloses good (.run cleanup) (.cleaning none rest :: frames)
        (⟨state, []⟩ : Watched κ σ) :=
      .silent _ nofun (List.forall_mem_cons.mpr ⟨nofun, outer⟩)
    exact cleaning.hear _ (.cleaning site) nofun
  | cleaning suspended rest =>
    cases suspended with
    | none => exact stays rest
    | some payload => exact .silent (.unwind payload) inner outer
  | intercept site resume rest =>
    exact ((stays rest).hear _ (.intercepted site none) nofun).hear _ (.interceptLeft site) nofun

theorem discloses_unwindFrame {payload : Payload} {frame : Frame ι κ}
    (here : ∀ record ∈ payload.carried, good record)
    (outer : ∀ frame ∈ frames, ∀ record ∈ frame.carried, good record) :
    DisclosesAt good (Strand.unwindFrame host.watched ⟨.unwind payload, frame :: frames, counts⟩
      payload frame frames ⟨state, []⟩) := by
  have stays (control : Control ι κ) (none : control.carried = []) :
      Discloses good control frames (⟨state, []⟩ : Watched κ σ) :=
    .silent control (none ▸ List.forall_mem_nil _) outer
  have goesOn : Discloses good (.unwind payload) frames (⟨state, []⟩ : Watched κ σ) :=
    .silent _ here outer
  cases frame with
  | protect site handler rest =>
    cases payload with
    | managed record =>
      have taken : Discloses good (.run (handler ++ rest)) frames
          (host.watched.signal counts.leaveRegion (.caught record.throwable) ⟨state, []⟩) :=
        (stays _ rfl).hear _ _ nofun
      exact (taken.hear _ (.released record) here).hear _ (.regionLeft site _) nofun
    | foreign message => exact goesOn
  | guarded site cleanup rest =>
    have cleaning : Discloses good (.run cleanup) (.cleaning (some payload) rest :: frames)
        (⟨state, []⟩ : Watched κ σ) :=
      .silent _ nofun (List.forall_mem_cons.mpr ⟨here, outer⟩)
    exact cleaning.hear _ (.cleaning site) nofun
  | cleaning suspended rest =>
    cases suspended with
    | none => exact goesOn
    | some suspended => exact (stays .halted rfl).hear _ .cleanupEscaped nofun
  | intercept site resume rest =>
    cases resume with
    | true => exact goesOn.hear _ (.intercepted site (some payload)) here
    | false =>
      have told : Discloses good (.run rest) frames
          (host.watched.signal counts (.intercepted site (some payload)) ⟨state, []⟩) :=
        (stays _ rfl).hear _ _ here
      cases payload with
      | managed record =>
        exact (told.hear _ (.released record) here).hear _ (.interceptLeft site) nofun
      | foreign message => exact told.hear _ (.interceptLeft site) nofun
  | outermost site rest =>
    cases payload with
    | managed record =>
      have held : Discloses good (.exiting (some record)) frames (⟨state, []⟩ : Watched κ σ) :=
        .silent _ here outer
      exact held.hear _ (.uncaught record) here
    | foreign message => exact (stays .halted rfl).hear _ .foreignAtBottom nofun

theorem discloses_exit {held : Option ExceptionRecord} (here : ∀ record ∈ held.toList, good record)
    (outer : ∀ frame ∈ frames, ∀ record ∈ frame.carried, good record) :
    DisclosesAt good
      (Strand.exit host.watched ⟨.exiting held, frames, counts⟩ held ⟨state, []⟩) := by
  cases held with
  | some record =>
    have rest : Discloses good (.exiting none) frames (⟨state, []⟩ : Watched κ σ) :=
      .silent _ nofun outer
    exact rest.hear _ (.released record) here
  | none =>
    have stopped : Discloses good .halted frames (⟨state, []⟩ : Watched κ σ) :=
      .silent _ nofun outer
    exact stopped.hear _ .exited nofun

/-- What a thread carries after a step, and what it tells of, it carried before or was given. -/
theorem carries_step {strand : Strand ι κ} (carries : Carries good strand)
    (given : ∀ instruction, strand.upcoming = some instruction →
      ∀ record ∈ (host.perform strand.counts strand.frames.length instruction state).1.carried,
        good record) :
    Carries good (strand.step host state).1 ∧
      ∀ point ∈ strand.told host state, ∀ record ∈ point.2.carried, good record := by
  obtain ⟨same, -⟩ := Strand.step_watched host strand ⟨state, []⟩
  suffices discloses : DisclosesAt good (strand.step host.watched ⟨state, []⟩) by
    obtain ⟨here, outer, told⟩ := discloses
    exact ⟨⟨same ▸ here, same ▸ outer⟩, told⟩
  obtain ⟨control, frames, counts⟩ := strand
  obtain ⟨here, outer⟩ := carries
  cases control with
  | returned | died | halted => exact .silent _ here outer
  | exiting held => exact discloses_exit here outer
  | run todo =>
    cases todo with
    | nil =>
      cases frames with
      | nil => exact .silent .returned nofun outer
      | cons frame frames =>
        obtain ⟨inner, outer⟩ := List.forall_mem_cons.mp outer
        exact discloses_leave inner outer
    | cons code todo =>
      cases code with
      | act instruction =>
        exact discloses_act outer (given instruction rfl)
      | block body => exact .silent (.run (body ++ todo)) nofun outer
      | protect site body | guarded site body | intercept site resume body
      | outermost site body =>
        exact .silent (.run body) nofun (List.forall_mem_cons.mpr ⟨nofun, outer⟩)
  | unwind payload =>
    cases frames with
    | nil => exact .silent (.died payload) here outer
    | cons frame frames =>
      exact discloses_unwindFrame here (List.forall_mem_cons.mp outer).2

end
end ManagedRuntime.Exception
