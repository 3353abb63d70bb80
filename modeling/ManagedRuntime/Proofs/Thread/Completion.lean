import ManagedRuntime.Thread.Completion

/-! The flag of a thread that is over. Callers that wait for the thread never touch it; the thread
sets it when its body has come to an end. -/
namespace ManagedRuntime.Completion

section
variable (completion : Completion) (me : Nat)

@[simp] theorem done_setCaller (phase : JoinPhase) :
    (completion.setCaller me phase).done = completion.done := rfl

@[simp] theorem done_wake (expired : Bool) :
    (completion.wake expired me).done = completion.done := by
  unfold wake
  split <;> rfl

@[simp] theorem done_expire : (completion.expire me).done = completion.done := by
  unfold expire
  split
  · exact done_wake ..
  · rfl

theorem done_stepCaller {after : Completion} (stepped : completion.stepCaller me = some after) :
    after.done = completion.done := by
  unfold stepCaller at stepped
  split at stepped
  all_goals try split at stepped
  all_goals cases stepped <;> rfl

@[simp] theorem done_advanceCaller (fuel : Nat) :
    (completion.advanceCaller me fuel).done = completion.done := by
  induction fuel generalizing completion with
  | zero => rfl
  | succ fuel ih =>
    unfold advanceCaller
    split
    · rfl
    · next stepped shown => rw [ih, done_stepCaller completion me shown]

@[simp] theorem done_join : (completion.join me).done = completion.done :=
  done_advanceCaller ..

@[simp] theorem done_joinTimed : (completion.joinTimed me).done = completion.done :=
  done_advanceCaller ..

end

end ManagedRuntime.Completion
