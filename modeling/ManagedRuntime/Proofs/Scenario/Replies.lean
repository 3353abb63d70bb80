import ManagedRuntime.Proofs.Exception.Instructions
import ManagedRuntime.Proofs.Scenario.Turns

/-! How instructions are answered. Most of them are done, wait or end their thread; only calls and
throws throw, and only calls and handed-out work bring code along. -/
namespace ManagedRuntime

/-- An answer after which the thread goes on, waits or ends, with no new code. -/
def Exception.Reply.isIdle : Exception.Reply ι κ → Bool
  | .done | .pending | .halted => true
  | .run _ | .throw _ _ | .raise _ _ | .raiseHeld _ _ | .foreign _ => false

namespace Scenario
open Exception

/-- A step of the increment, or the event that tells its end. -/
def Instruction.isCompiled : Instruction → Bool
  | .lock _ | .load _ | .store _ | .unlock _ | .tellCall _ => true
  | _ => false

/-- Takes up steps that it was given: the entry of a program, or other work. -/
def Instruction.bringsSteps : Instruction → Bool
  | .start _ _ _ _ _ | .nextJob => true
  | _ => false

/-- Neither calls, throws nor takes up steps. -/
def Instruction.isIdle : Instruction → Bool
  | .call _ _ _ | .invoke _ _ _ _ | .throw _ _ | .rethrowLevel _ | .foreign _ | .raise _ _ _
  | .raiseCaptured _ | .start _ _ _ _ _ | .nextJob => false
  | _ => true

namespace State

section
variable (state : State) (me : Nat) (counts : Exception.Counts)

theorem idle_done : (done me counts state).1.isIdle = true := by
  unfold done
  dsimp only
  split <;> rfl

theorem idle_useMonitor (r : Ref) (verb : MonitorVerb) (route : Route)
    (finish : Token → State → State) :
    (state.useMonitor me r verb route counts finish).1.isIdle = true := by
  have settled (state : State) (object : UInt64) (token : Token) (deadline : Option Nat)
      (finish : State → State) :
      (state.settleMonitor me object token deadline counts finish).1.isIdle = true := by
    unfold settleMonitor
    split
    · rfl
    · split <;> rfl
  unfold useMonitor useMonitorAs resumeMonitor
  dsimp only
  split <;> exact settled ..

theorem idle_joinThread (label : String) (limit : Option Nat) (finish : Bool → State → State) :
    (state.joinThread me label limit counts finish).1.isIdle = true := by
  have continued (state : State) (index : Nat) (deadline : Option Nat) :
      (state.continueJoin me index deadline counts finish).1.isIdle = true := by
    unfold continueJoin
    split <;> rfl
  unfold joinThread
  split
  · rfl
  · split <;> exact continued ..

theorem idle_perform (height : Nat) {instruction : Instruction}
    (idle : instruction.isIdle = true) :
    ((host me).perform counts height instruction state).1.isIdle = true := by
  cases instruction with
  | call | invoke | throw | rethrowLevel | foreign | raise | raiseCaptured | start | nextJob =>
    cases idle
  | monitor | lock | unlock =>
    simp only [host, perform, monitorStep]
    exact idle_useMonitor ..
  | join | joinTimeout =>
    simp only [host, perform, join, joinTimeout]
    exact idle_joinThread ..
  | joinMany =>
    simp only [host, perform, joinMany]
    split
    · rfl
    · split <;> rfl
  | stress =>
    simp only [host, perform, stress]
    split <;> rfl
  | settle =>
    simp only [host, perform, settle]
    split <;> rfl
  | assign | await =>
    simp only [host, perform, assign, await]
    split
    · rfl
    · split <;> rfl
  | awaitFinished =>
    simp only [host, perform, awaitFinished]
    split <;> rfl
  | _ => exact idle_done ..

/-- A call runs the code of the increment, or throws by the settings in force, or is over. -/
theorem invoke_cases (r : Ref) (interface : Option UInt64) (index : Nat) (announced : Bool)
    (height : Nat) :
    let answer := state.invoke me r interface index announced height counts
    answer.1.isIdle = true ∨
      (∃ method, answer.1 = .run (incrementSteps r ++
        if announced then [.act (.tellCall method)] else [])) ∨
      ∃ machine, answer = (state.setMachine machine).throwReply me r .entryPoint height counts := by
  intro answer
  simp only [answer, invoke]
  split
  · exact .inl rfl
  · exact .inr (.inl ⟨_, rfl⟩)
  · exact .inr (.inr ⟨_, rfl⟩)
  · exact .inl rfl
  · split <;> exact .inl rfl
  · exact .inl rfl

/-- Only the increment brings instructions along, unless steps are taken up. -/
theorem compiled_perform (height : Nat) {instruction : Instruction}
    (other : instruction.bringsSteps = false) :
    ∀ brought ∈ ((host me).perform counts height instruction state).1.instructions,
      brought.isCompiled = true := by
  have silent {reply : Reply Instruction Site} (idle : reply.isIdle = true) :
      ∀ brought ∈ reply.instructions, brought.isCompiled = true := by
    cases reply with
    | done | pending | halted => rintro _ ⟨⟩
    | run | throw | raise | raiseHeld | foreign => cases idle
  have called (r : Ref) (interface : Option UInt64) (index : Nat) (announced : Bool) :
      ∀ brought ∈ (state.invoke me r interface index announced height counts).1.instructions,
        brought.isCompiled = true := by
    rcases invoke_cases state me counts r interface index announced height with
      idle | ⟨method, code⟩ | ⟨machine, thrown⟩
    · exact silent idle
    · rw [code]
      intro brought member
      cases announced <;>
        simp [incrementSteps, Reply.instructions, instructionsOf, Code.instructions] at member <;>
        rcases member with rfl | rfl | rfl | rfl | rfl <;> rfl
    · rw [thrown]
      rintro _ ⟨⟩
  cases instruction with
  | start | nextJob => cases other
  | call | invoke => exact called _ _ _ _
  | throw | rethrowLevel | foreign | raise => rintro _ ⟨⟩
  | raiseCaptured name =>
    simp only [host, perform]
    split <;> rintro _ ⟨⟩
  | _ => exact silent (idle_perform state me counts height rfl)

end
end State
end Scenario
end ManagedRuntime
