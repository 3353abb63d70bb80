import ManagedRuntime.Proofs.Exception.Counters
import ManagedRuntime.Proofs.Exception.Propagation

/-! The instructions a thread may still come to. A step adds only what an answer brings along. -/
namespace ManagedRuntime.Exception

def Frame.instructions : Frame ι κ → List ι
  | .protect _ handler rest => instructionsOf handler ++ instructionsOf rest
  | .guarded _ cleanup rest => instructionsOf cleanup ++ instructionsOf rest
  | .cleaning _ rest | .intercept _ _ rest | .outermost _ rest => instructionsOf rest

def Control.instructions : Control ι κ → List ι
  | .run todo => instructionsOf todo
  | .unwind _ | .returned | .died _ | .exiting _ | .halted => []

def Reply.instructions : Reply ι κ → List ι
  | .run code => instructionsOf code
  | _ => []

theorem instructionsOf_append (early late : List (Code ι κ)) :
    instructionsOf (early ++ late) = instructionsOf early ++ instructionsOf late := by
  induction early with
  | nil => rfl
  | cons code rest ih =>
    rw [List.cons_append, instructionsOf, ih, instructionsOf, List.append_assoc]

namespace Strand

/-- Whatever the thread may come to is allowed. -/
structure Within (allowed : ι → Prop) (strand : Strand ι κ) : Prop where
  control : ∀ instruction ∈ strand.control.instructions, allowed instruction
  frames : ∀ frame ∈ strand.frames, ∀ instruction ∈ frame.instructions, allowed instruction

section
variable {allowed : ι → Prop} {host : Host ι κ σ} {state : σ}

theorem Within.upcoming {strand : Strand ι κ} (within : strand.Within allowed) {instruction : ι}
    (next : strand.upcoming = some instruction) : allowed instruction := by
  obtain ⟨control, frames, counts⟩ := strand
  cases control with
  | unwind | returned | died | exiting | halted => cases next
  | run todo =>
    match todo with
    | .act here :: todo =>
      obtain rfl : here = instruction := Option.some.inj next
      exact within.control here List.mem_cons_self

theorem within_act {instruction : ι} {todo : List (Code ι κ)} {frames : List (Frame ι κ)}
    {counts : Counts}
    (within : (⟨.run (.act instruction :: todo), frames, counts⟩ : Strand ι κ).Within allowed)
    (brought : ∀ other ∈ (host.perform counts frames.length instruction state).1.instructions,
      allowed other) :
    (Strand.act host ⟨.run (.act instruction :: todo), frames, counts⟩ instruction todo
      state).1.Within allowed := by
  obtain ⟨ahead, outer⟩ := within
  simp only [Control.instructions, instructionsOf, Code.instructions, List.forall_mem_append]
    at ahead
  rcases answered : host.perform counts frames.length instruction state with ⟨reply, now, later⟩
  simp only [answered] at brought
  simp only [act, answered]
  cases reply with
  | done => exact ⟨ahead.2, outer⟩
  | pending =>
    refine ⟨?_, outer⟩
    simpa only [Control.instructions, instructionsOf, Code.instructions, List.forall_mem_append]
      using ahead
  | halted | foreign => exact ⟨List.forall_mem_nil _, outer⟩
  | run code =>
    refine ⟨?_, outer⟩
    simp only [Control.instructions, instructionsOf_append, List.forall_mem_append]
    exact ⟨brought, ahead.2⟩
  | throw =>
    simp only [throw]
    split <;> exact ⟨List.forall_mem_nil _, outer⟩
  | raise | raiseHeld =>
    simp only [raise]
    split
    · exact ⟨List.forall_mem_nil _, outer⟩
    · exact ⟨ahead.2, outer⟩

section
variable {frame : Frame ι κ} {frames : List (Frame ι κ)} {counts : Counts}
variable (inner : ∀ instruction ∈ frame.instructions, allowed instruction)
variable (outer : ∀ frame ∈ frames, ∀ instruction ∈ frame.instructions, allowed instruction)
include inner outer

theorem within_leave :
    (Strand.leave host ⟨.run [], frame :: frames, counts⟩ frame frames state).1.Within allowed := by
  cases frame with
  | protect site handler rest =>
    simp only [Frame.instructions, List.forall_mem_append] at inner
    exact ⟨inner.2, outer⟩
  | guarded site cleanup rest =>
    simp only [Frame.instructions, List.forall_mem_append] at inner
    exact ⟨inner.1, List.forall_mem_cons.mpr ⟨inner.2, outer⟩⟩
  | cleaning pending rest =>
    cases pending with
    | none => exact ⟨inner, outer⟩
    | some payload => exact ⟨List.forall_mem_nil _, outer⟩
  | intercept | outermost => exact ⟨inner, outer⟩

theorem within_unwindFrame (payload : Payload) :
    (Strand.unwindFrame host ⟨.unwind payload, frame :: frames, counts⟩ payload frame frames
      state).1.Within allowed := by
  cases frame with
  | protect site handler rest =>
    cases payload with
    | foreign message => exact ⟨List.forall_mem_nil _, outer⟩
    | managed record =>
      refine ⟨?_, outer⟩
      simpa only [unwindFrame, handle, release, Control.instructions, instructionsOf_append,
        Frame.instructions] using inner
  | guarded site cleanup rest =>
    simp only [Frame.instructions, List.forall_mem_append] at inner
    exact ⟨inner.1, List.forall_mem_cons.mpr ⟨inner.2, outer⟩⟩
  | cleaning pending rest => cases pending <;> exact ⟨List.forall_mem_nil _, outer⟩
  | intercept site resume rest =>
    cases resume with
    | true => exact ⟨List.forall_mem_nil _, outer⟩
    | false => cases payload <;> exact ⟨inner, outer⟩
  | outermost site rest => cases payload <;> exact ⟨List.forall_mem_nil _, outer⟩

end

theorem within_enter {code : Code ι κ} {todo : List (Code ι κ)} {frames : List (Frame ι κ)}
    {counts : Counts}
    (within : (⟨.run (code :: todo), frames, counts⟩ : Strand ι κ).Within allowed)
    (brought : ∀ instruction, code = .act instruction → ∀ other ∈
      (host.perform counts frames.length instruction state).1.instructions, allowed other) :
    (Strand.enter host ⟨.run (code :: todo), frames, counts⟩ code todo state).1.Within allowed := by
  cases code with
  | act instruction => exact within_act within (brought instruction rfl)
  | block body =>
    refine ⟨?_, within.frames⟩
    simpa only [enter, Control.instructions, instructionsOf, instructionsOf_append,
      Code.instructions] using within.control
  | protect | guarded =>
    obtain ⟨ahead, outer⟩ := within
    simp only [Control.instructions, instructionsOf, Code.instructions, List.forall_mem_append]
      at ahead
    refine ⟨ahead.1.1, List.forall_mem_cons.mpr ⟨?_, outer⟩⟩
    simp only [Frame.instructions, List.forall_mem_append]
    exact ⟨ahead.1.2, ahead.2⟩
  | intercept | outermost =>
    obtain ⟨ahead, outer⟩ := within
    simp only [Control.instructions, instructionsOf, Code.instructions, List.forall_mem_append]
      at ahead
    exact ⟨ahead.1, List.forall_mem_cons.mpr ⟨ahead.2, outer⟩⟩

theorem within_step {strand : Strand ι κ} (within : strand.Within allowed)
    (brought : ∀ instruction, strand.upcoming = some instruction → ∀ other ∈
      (host.perform strand.counts strand.frames.length instruction state).1.instructions,
        allowed other) :
    (strand.step host state).1.Within allowed := by
  obtain ⟨control, frames, counts⟩ := strand
  cases control with
  | returned | died | halted => exact within
  | exiting held => cases held <;> exact ⟨List.forall_mem_nil _, within.frames⟩
  | unwind payload =>
    cases frames with
    | nil => exact ⟨List.forall_mem_nil _, List.forall_mem_nil _⟩
    | cons frame frames =>
      obtain ⟨inner, outer⟩ := List.forall_mem_cons.mp within.frames
      exact within_unwindFrame inner outer payload
  | run todo =>
    cases todo with
    | cons code todo =>
      refine within_enter within fun instruction here => ?_
      subst here
      exact brought instruction rfl
    | nil =>
      cases frames with
      | nil => exact ⟨List.forall_mem_nil _, List.forall_mem_nil _⟩
      | cons frame frames =>
        obtain ⟨inner, outer⟩ := List.forall_mem_cons.mp within.frames
        exact within_leave inner outer

end
end Strand
end ManagedRuntime.Exception
