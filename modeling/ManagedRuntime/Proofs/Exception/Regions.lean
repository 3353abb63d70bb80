import Mathlib.Logic.Function.Iterate
import ManagedRuntime.Exception.Strand
import ManagedRuntime.Proofs.Exception.Structured

/-! The counter of active regions is the number of regions on the stack, at every step. -/
namespace ManagedRuntime.Exception

/-- Instructions leave the counter of active regions alone. -/
def Host.Steady (host : Host ι κ σ) : Prop :=
  ∀ counts height instruction state,
    (host.perform counts height instruction state).2.1.handlers = counts.handlers

namespace Frame

/-- Frames that count as a region while they are on the stack. -/
def isRegion : Frame ι κ → Bool
  | .protect _ _ _ | .outermost _ _ => true
  | .guarded _ _ _ | .cleaning _ _ | .intercept _ _ _ => false

end Frame

def regionsOn (frames : List (Frame ι κ)) : Nat := frames.countP (·.isRegion)

def Place.of (frames : List (Frame ι κ)) : Place := ⟨regionsOn frames, frames.length⟩

section
variable (site : κ) (frames : List (Frame ι κ)) (code rest : List (Code ι κ))

@[simp] theorem regionsOn_nil : regionsOn ([] : List (Frame ι κ)) = 0 := rfl

@[simp] theorem regionsOn_protect :
    regionsOn (.protect site code rest :: frames) = regionsOn frames + 1 := by
  simp [regionsOn, Frame.isRegion]

@[simp] theorem regionsOn_guarded :
    regionsOn (.guarded site code rest :: frames) = regionsOn frames := by
  simp [regionsOn, Frame.isRegion]

@[simp] theorem regionsOn_cleaning (suspended : Option Payload) :
    regionsOn (.cleaning suspended rest :: frames) = regionsOn frames := by
  simp [regionsOn, Frame.isRegion]

@[simp] theorem regionsOn_intercept (resume : Bool) :
    regionsOn (.intercept site resume rest :: frames) = regionsOn frames := by
  simp [regionsOn, Frame.isRegion]

@[simp] theorem regionsOn_outermost :
    regionsOn (.outermost site rest :: frames) = regionsOn frames + 1 := by
  simp [regionsOn, Frame.isRegion]

end

/-- A thread with the counters that its stack and its memory stand for, and its surroundings. -/
def standing (control : Control ι κ) (frames : List (Frame ι κ)) (memory : Memory σ) :
    Strand ι κ × σ :=
  (⟨control, frames, ⟨regionsOn frames, memory.live⟩⟩, memory.state)

variable {host : Host ι κ σ}

def next (host : Host ι κ σ) (moment : Strand ι κ × σ) : Strand ι κ × σ :=
  moment.1.step host moment.2

/-- Some number of steps leads from one moment of a thread to another. -/
def Reaches (host : Host ι κ σ) (first last : Strand ι κ × σ) : Prop :=
  ∃ steps : Nat, (next host)^[steps] first = last

namespace Reaches

theorem refl (moment : Strand ι κ × σ) : Reaches host moment moment := ⟨0, rfl⟩

theorem step (moment : Strand ι κ × σ) : Reaches host moment (next host moment) := ⟨1, rfl⟩

theorem trans (early : Reaches host first middle) (late : Reaches host middle last) :
    Reaches host first last := by
  obtain ⟨early, rfl⟩ := early
  obtain ⟨late, rfl⟩ := late
  exact ⟨late + early, Function.iterate_add_apply _ late early first⟩

theorem of_next (stepped : next host first = middle) (late : Reaches host middle last) :
    Reaches host first last :=
  (stepped ▸ step first).trans late

theorem invariant (holds : Strand ι κ × σ → Prop)
    (keeps : ∀ moment, holds moment → holds (next host moment))
    (reaches : Reaches host first last) (initial : holds first) : holds last := by
  obtain ⟨steps, rfl⟩ := reaches
  induction steps with
  | zero => exact initial
  | succ steps ih =>
    rw [Function.iterate_succ_apply']
    exact keeps _ ih

end Reaches

/-- An exception has a region further down to go to. -/
def Payload.hasShelter : Payload → List (Frame ι κ) → Prop
  | .managed _, frames => 0 < regionsOn frames
  | .foreign _, _ => True

/-- So has every exception that goes on after a cleanup. -/
def AllSheltered : List (Frame ι κ) → Prop
  | [] => True
  | .cleaning (some payload) _ :: frames => payload.hasShelter frames ∧ AllSheltered frames
  | _ :: frames => AllSheltered frames

/-- What is under way has shelter, and nothing that needs it left the last frame. -/
def Control.isSheltered : Control ι κ → List (Frame ι κ) → Prop
  | .unwind payload, frames => payload.hasShelter frames
  | .died payload, _ => payload.hasShelter ([] : List (Frame ι κ))
  | .run _, _ | .exiting _, _ | .returned, _ | .halted, _ => True

/-- The counter is right, so whatever it lets go will be caught. -/
structure Counted (strand : Strand ι κ) : Prop where
  handlers : strand.counts.handlers = regionsOn strand.frames
  moving : strand.control.isSheltered strand.frames
  suspended : AllSheltered strand.frames

theorem counted_act (steady : host.Steady) (strand : Strand ι κ) (instruction : ι)
    (todo : List (Code ι κ)) (state : σ) (counted : Counted strand) :
    Counted (strand.act host instruction todo state).1 := by
  obtain ⟨handlers, moving, suspended⟩ := counted
  have kept := steady strand.counts strand.frames.length instruction state
  unfold Strand.act
  generalize host.perform strand.counts strand.frames.length instruction state = answer at kept
  obtain ⟨reply, counts, later⟩ := answer
  have told : counts.handlers = regionsOn strand.frames := kept.trans handlers
  have reached {mode : UnwindMode} (found : Strand.reachesRegion mode counts = true) :
      0 < regionsOn strand.frames := by
    cases mode with
    | terminate => simp [Strand.reachesRegion] at found
    | propagate =>
      have active : counts.handlers ≠ 0 := by simpa [Strand.reachesRegion] using found
      omega
  cases reply with
  | done | halted | run | foreign => exact ⟨told, trivial, suspended⟩
  | pending => exact ⟨told, moving, suspended⟩
  | throw mode record =>
    simp only [Strand.throw]
    split
    · next found => exact ⟨told, reached found, suspended⟩
    · exact ⟨told, trivial, suspended⟩
  | raise mode record | raiseHeld mode record =>
    simp only [Strand.raise]
    split
    · next found => exact ⟨told, reached found, suspended⟩
    · exact ⟨told, trivial, suspended⟩

theorem counted_leave (frame : Frame ι κ) (frames : List (Frame ι κ)) (counts : Counts) (state : σ)
    (counted : Counted (⟨.run [], frame :: frames, counts⟩ : Strand ι κ)) :
    Counted (Strand.leave host ⟨.run [], frame :: frames, counts⟩ frame frames state).1 := by
  obtain ⟨handlers, -, suspended⟩ := counted
  cases frame with
  | cleaning pending rest =>
    cases pending with
    | none => exact ⟨by simpa [Strand.leave] using handlers, trivial, suspended⟩
    | some payload => exact ⟨by simpa [Strand.leave] using handlers, suspended.1, suspended.2⟩
  | protect | outermost =>
    exact ⟨by simp_all [Strand.leave, Counts.leaveRegion], trivial, suspended⟩
  | guarded => exact ⟨by simpa [Strand.leave] using handlers, trivial, suspended⟩
  | intercept => exact ⟨by simpa [Strand.leave] using handlers, trivial, suspended⟩

theorem counted_unwindFrame (payload : Payload) (frame : Frame ι κ) (frames : List (Frame ι κ))
    (counts : Counts) (state : σ)
    (counted : Counted (⟨.unwind payload, frame :: frames, counts⟩ : Strand ι κ)) :
    Counted (Strand.unwindFrame host ⟨.unwind payload, frame :: frames, counts⟩ payload frame
      frames state).1 := by
  obtain ⟨handlers, moving, suspended⟩ := counted
  have onward (same : regionsOn (frame :: frames) = regionsOn frames) :
      payload.hasShelter frames := by
    cases payload with
    | managed record =>
      have active : 0 < regionsOn (frame :: frames) := moving
      rwa [same] at active
    | foreign message => trivial
  cases frame with
  | protect | outermost =>
    have left : counts.leaveRegion.handlers = regionsOn frames := by
      simp_all [Counts.leaveRegion]
    cases payload <;> exact ⟨left, trivial, suspended⟩
  | guarded =>
    exact ⟨by simpa [Strand.unwindFrame] using handlers, trivial,
      onward (regionsOn_guarded ..), suspended⟩
  | cleaning pending rest =>
    have left : counts.handlers = regionsOn frames := by simpa using handlers
    cases pending with
    | none => exact ⟨left, onward (regionsOn_cleaning ..), suspended⟩
    | some pending => exact ⟨left, trivial, suspended.2⟩
  | intercept site resume rest =>
    have left : counts.handlers = regionsOn frames := by simpa using handlers
    cases resume with
    | true => exact ⟨left, onward (regionsOn_intercept ..), suspended⟩
    | false => cases payload <;> exact ⟨left, trivial, suspended⟩

theorem counted_step (steady : host.Steady) (strand : Strand ι κ) (state : σ)
    (counted : Counted strand) : Counted (strand.step host state).1 := by
  obtain ⟨control, frames, counts⟩ := strand
  cases control with
  | run todo =>
    cases todo with
    | nil =>
      cases frames with
      | nil => exact ⟨counted.handlers, trivial, counted.suspended⟩
      | cons frame frames => exact counted_leave frame frames counts state counted
    | cons code todo =>
      obtain ⟨handlers, -, suspended⟩ := counted
      cases code with
      | act instruction =>
        exact counted_act steady _ instruction todo state ⟨handlers, trivial, suspended⟩
      | block body => exact ⟨handlers, trivial, suspended⟩
      | protect | outermost =>
        exact ⟨by simp_all [Strand.step, Strand.enter, Counts.enterRegion], trivial, suspended⟩
      | guarded | intercept =>
        exact ⟨by simpa [Strand.step, Strand.enter] using handlers, trivial, suspended⟩
  | unwind payload =>
    cases frames with
    | nil => exact ⟨counted.handlers, counted.moving, counted.suspended⟩
    | cons frame frames => exact counted_unwindFrame payload frame frames counts state counted
  | exiting held => cases held <;> exact ⟨counted.handlers, trivial, counted.suspended⟩
  | returned | died | halted => exact counted

/-- Whatever a thread does from its beginning, its counter is right. -/
theorem counted_of_reaches (steady : host.Steady) {strand : Strand ι κ}
    (reaches : Reaches host (standing (.run program) [] memory) (strand, state)) :
    Counted strand :=
  reaches.invariant (fun moment => Counted moment.1)
    (fun moment counted => counted_step steady moment.1 moment.2 counted)
    ⟨rfl, trivial, trivial⟩

end ManagedRuntime.Exception
