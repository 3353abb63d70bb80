import ManagedRuntime.Proofs.Exception.Endings

/-! The bottom of a managed stack. It stays on the stack while its body is at work, and it is left
in one way only: when the body has returned. Whatever else reaches it ends the thread there. -/
namespace ManagedRuntime.Exception

/-- A bottom with the code that follows it and the frames below. -/
structure Bottom (ι κ : Type) where
  site : κ
  rest : List (Code ι κ)
  outer : List (Frame ι κ)

namespace Bottom

def stack (bottom : Bottom ι κ) : List (Frame ι κ) :=
  .outermost bottom.site bottom.rest :: bottom.outer

/-- The body is at work. -/
structure Holds (bottom : Bottom ι κ) (strand : Strand ι κ) : Prop where
  above : bottom.stack <:+ strand.frames
  moving : strand.control.isMoving = true

/-- Nothing of the body is left but the way it ended. -/
structure Meets (bottom : Bottom ι κ) (ending : Control ι κ) (strand : Strand ι κ) : Prop where
  control : strand.control = ending
  frames : strand.frames = bottom.stack

/-- The code behind the bottom is next. -/
structure Left (bottom : Bottom ι κ) (strand : Strand ι κ) : Prop where
  control : strand.control = .run bottom.rest
  frames : strand.frames = bottom.outer

/-- The body has returned. -/
abbrev Returned (bottom : Bottom ι κ) (strand : Strand ι κ) : Prop := bottom.Meets (.run []) strand

/-- Something has left the body on its way up the stack. -/
abbrev Escaped (bottom : Bottom ι κ) (payload : Payload) (strand : Strand ι κ) : Prop :=
  bottom.Meets (.unwind payload) strand

variable {bottom : Bottom ι κ} {strand : Strand ι κ}

theorem Holds.of_meets (meets : bottom.Meets ending strand) (moving : ending.isMoving = true) :
    bottom.Holds strand :=
  ⟨meets.frames ▸ List.suffix_rfl, meets.control ▸ moving⟩

/-- There are more frames than those below the bottom. -/
theorem Holds.deeper (holds : bottom.Holds strand) :
    bottom.outer.length < strand.frames.length := by
  have longer := holds.above.length_le
  simp only [stack, List.length_cons] at longer
  omega

theorem Holds.not_left (holds : bottom.Holds strand) : ¬bottom.Left strand := by
  intro left
  have longer := holds.deeper
  rw [left.frames] at longer
  omega

/-- Above the bottom there is the innermost frame, or the bottom is the innermost frame. -/
theorem Holds.frames_cases {control : Control ι κ} {frame : Frame ι κ}
    {frames : List (Frame ι κ)}
    (holds : bottom.Holds ⟨control, frame :: frames, counts⟩) :
    bottom.stack = frame :: frames ∨ bottom.stack <:+ frames :=
  List.suffix_cons_iff.mp holds.above

variable (host : Host ι κ σ) (state : σ)

/-- What an instruction comes to, the frames are those around it. -/
theorem act_cases (strand : Strand ι κ) (instruction : ι) (todo : List (Code ι κ))
    (moving : strand.control.isMoving = true) :
    (strand.act host instruction todo state).1.frames = strand.frames ∧
      ((strand.act host instruction todo state).1.control.isMoving = true ∨
        (strand.act host instruction todo state).1.control.isLeaving = true) := by
  unfold Strand.act
  generalize host.perform strand.counts strand.frames.length instruction state = answer
  obtain ⟨reply, counts, later⟩ := answer
  cases reply with
  | done | run | foreign => exact ⟨rfl, .inl rfl⟩
  | pending => exact ⟨rfl, .inl moving⟩
  | halted => exact ⟨rfl, .inr rfl⟩
  | throw mode record =>
    simp only [Strand.throw]
    split
    · exact ⟨rfl, .inl rfl⟩
    · exact ⟨rfl, .inr rfl⟩
  | raise mode record | raiseHeld mode record =>
    simp only [Strand.raise]
    split
    · exact ⟨rfl, .inl rfl⟩
    · exact ⟨rfl, .inl rfl⟩

theorem enter_cases (code : Code ι κ) (todo : List (Code ι κ)) (above : bottom.stack <:+ frames) :
    let after := (Strand.enter host ⟨.run (code :: todo), frames, counts⟩ code todo state).1
    bottom.Holds after ∨ after.control.isLeaving = true := by
  intro after
  have deeper (frame : Frame ι κ) : bottom.stack <:+ frame :: frames :=
    above.trans (List.suffix_cons frame frames)
  cases code with
  | act instruction =>
    obtain ⟨same, moving | leaving⟩ :=
      act_cases host state ⟨.run (.act instruction :: todo), frames, counts⟩ instruction todo rfl
    · refine .inl ⟨?_, moving⟩
      exact same.symm ▸ above
    · exact .inr leaving
  | block body => exact .inl ⟨above, rfl⟩
  | protect | guarded | intercept | outermost => exact .inl ⟨deeper _, rfl⟩

theorem leave_holds (frame : Frame ι κ) (above : bottom.stack <:+ frames) :
    bottom.Holds (Strand.leave host ⟨.run [], frame :: frames, counts⟩ frame frames state).1 := by
  cases frame with
  | protect | intercept | outermost => exact ⟨above, rfl⟩
  | guarded => exact ⟨above.trans (List.suffix_cons ..), rfl⟩
  | cleaning suspended rest => cases suspended <;> exact ⟨above, rfl⟩

theorem unwindFrame_cases (payload : Payload) (frame : Frame ι κ)
    (above : bottom.stack <:+ frames) :
    let after := (Strand.unwindFrame host ⟨.unwind payload, frame :: frames, counts⟩ payload frame
      frames state).1
    bottom.Holds after ∨ after.control.isLeaving = true := by
  cases frame with
  | protect => cases payload <;> exact .inl ⟨above, rfl⟩
  | guarded => exact .inl ⟨above.trans (List.suffix_cons ..), rfl⟩
  | cleaning suspended rest =>
    cases suspended with
    | none => exact .inl ⟨above, rfl⟩
    | some suspended => exact .inr rfl
  | intercept site resume rest =>
    cases resume with
    | true => exact .inl ⟨above, rfl⟩
    | false => cases payload <;> exact .inl ⟨above, rfl⟩
  | outermost => cases payload <;> exact .inr rfl

/-- The thread steps within the body, is to stop for good, or stands where the body has returned. -/
theorem step_cases (holds : bottom.Holds strand) :
    bottom.Holds (strand.step host state).1 ∨
      (strand.step host state).1.control.isLeaving = true ∨ bottom.Returned strand := by
  obtain ⟨control, frames, counts⟩ := strand
  cases control with
  | returned | died | exiting | halted => exact absurd holds.moving Bool.false_ne_true
  | run todo =>
    cases todo with
    | cons code todo =>
      rcases enter_cases host state code todo holds.above with within | leaving
      · exact .inl within
      · exact .inr (.inl leaving)
    | nil =>
      cases frames with
      | nil => exact absurd (List.suffix_nil.mp holds.above) (List.cons_ne_nil _ _)
      | cons frame frames =>
        rcases holds.frames_cases with here | above
        · exact .inr (.inr ⟨rfl, here.symm⟩)
        · exact .inl (leave_holds host state frame above)
  | unwind payload =>
    cases frames with
    | nil => exact absurd (List.suffix_nil.mp holds.above) (List.cons_ne_nil _ _)
    | cons frame frames =>
      rcases holds.frames_cases with here | above
      · obtain ⟨rfl, rfl⟩ := List.cons.inj here
        cases payload <;> exact .inr (.inl rfl)
      · rcases unwindFrame_cases host state payload frame above with within | leaving
        · exact .inl within
        · exact .inr (.inl leaving)

theorem step_returned (returned : bottom.Returned strand) :
    strand.step host state = (⟨.run bottom.rest, bottom.outer, strand.counts.leaveRegion⟩,
      host.signal strand.counts.leaveRegion (.outermostLeft bottom.site) state) := by
  obtain ⟨control, frames, counts⟩ := strand
  obtain ⟨rfl, rfl⟩ : control = .run [] ∧ frames = bottom.stack :=
    ⟨returned.control, returned.frames⟩
  rfl

/-- The bottom is left by a body that has returned, and by no other. -/
theorem step_left_iff (holds : bottom.Holds strand) :
    bottom.Left (strand.step host state).1 ↔ bottom.Returned strand := by
  constructor
  · intro left
    rcases step_cases host state holds with within | leaving | returned
    · exact absurd left within.not_left
    · rw [left.control] at leaving
      contradiction
    · exact returned
  · intro returned
    rw [step_returned host state returned]
    exact ⟨rfl, rfl⟩

/-- An exception that gets to the bottom is reported there. -/
theorem step_escaped_managed (escaped : bottom.Escaped (.managed record) strand) :
    strand.step host state =
      (⟨.exiting (some record), bottom.outer, strand.counts.leaveRegion⟩,
        host.signal strand.counts.leaveRegion (.uncaught record) state) := by
  obtain ⟨control, frames, counts⟩ := strand
  obtain ⟨rfl, rfl⟩ : control = .unwind (.managed record) ∧ frames = bottom.stack :=
    ⟨escaped.control, escaped.frames⟩
  rfl

theorem step_escaped_foreign (escaped : bottom.Escaped (.foreign message) strand) :
    strand.step host state = (⟨.halted, bottom.outer, strand.counts.leaveRegion⟩,
      host.signal strand.counts.leaveRegion .foreignAtBottom state) := by
  obtain ⟨control, frames, counts⟩ := strand
  obtain ⟨rfl, rfl⟩ : control = .unwind (.foreign message) ∧ frames = bottom.stack :=
    ⟨escaped.control, escaped.frames⟩
  rfl

/-- No catch region further down is told of it. -/
theorem told_escaped_managed (escaped : bottom.Escaped (.managed record) strand) :
    strand.told host state = [(strand.counts.leaveRegion, .uncaught record)] := by
  rw [Strand.told, step_escaped_managed host.watched _ escaped]
  rfl

theorem told_escaped_foreign (escaped : bottom.Escaped (.foreign message) strand) :
    strand.told host state = [(strand.counts.leaveRegion, .foreignAtBottom)] := by
  rw [Strand.told, step_escaped_foreign host.watched _ escaped]
  rfl

end Bottom
end ManagedRuntime.Exception
