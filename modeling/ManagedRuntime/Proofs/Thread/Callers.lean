import ManagedRuntime.Proofs.Lookup
import ManagedRuntime.Proofs.Runs
import ManagedRuntime.Proofs.Thread.Completion

/-! Everything that can happen between a thread that comes to its end and the callers that join it,
in any order. A sleeper wakes when the thread announces its end or when its own time is over. -/
namespace ManagedRuntime

/-- What happens while a thread is joined. -/
inductive Joining
  | asked (caller : Nat) (timed : Bool)
  /-- The caller took the system's handle of the thread. -/
  | attached (caller : Nat)
  /-- The caller fell asleep until the flag is announced. -/
  | parked (caller : Nat)
  | expired (caller : Nat)
  | answered (caller : Nat) (ended : Bool)
  | bodyOver
  /-- The flag was set. -/
  | flagged
  /-- All sleepers were woken. -/
  | announced
deriving DecidableEq, Repr

namespace JoinPhase

def isAsleep : JoinPhase → Bool
  | .asleep _ => true
  | _ => false

def isChecking : JoinPhase → Bool
  | .checking _ => true
  | _ => false

/-- Whether a caller that has no answer yet has a time limit. -/
def timed? : JoinPhase → Option Bool
  | .idle | .answered _ => none
  | .taking | .attached => some false
  | .locking timed | .checking timed | .asleep timed | .woken timed _ => some timed

/-- A sleeper after it was woken. -/
def wake (expired : Bool) : JoinPhase → JoinPhase
  | .asleep timed => .woken timed expired
  | phase => phase

/-- What a step of the caller brings about that leads to this phase. -/
def reached (caller : Nat) : JoinPhase → List Joining
  | .attached => [.attached caller]
  | .asleep _ => [.parked caller]
  | .answered ended => [.answered caller ended]
  | _ => []

@[simp] theorem isAsleep_wake (phase : JoinPhase) (expired : Bool) :
    (phase.wake expired).isAsleep = false := by cases phase <;> rfl
@[simp] theorem isChecking_wake (phase : JoinPhase) (expired : Bool) :
    (phase.wake expired).isChecking = phase.isChecking := by cases phase <;> rfl
@[simp] theorem timed?_wake (phase : JoinPhase) (expired : Bool) :
    (phase.wake expired).timed? = phase.timed? := by cases phase <;> rfl

end JoinPhase

namespace EndingPhase

/-- The flag has been set. -/
def isFlagged : EndingPhase → Bool
  | .announcing | .leaving | .gone => true
  | _ => false

/-- All sleepers have been woken. -/
def isAnnounced : EndingPhase → Bool
  | .leaving | .gone => true
  | _ => false

/-- What a step of the thread brings about that leads to this phase. -/
def reached : EndingPhase → List Joining
  | .returned => [.bodyOver]
  | .announcing => [.flagged]
  | .leaving => [.announced]
  | .running | .marking | .gone => []

end EndingPhase

namespace Completion

section
variable (completion : Completion) (me : Nat)

@[simp] theorem phase_setCaller (phase : JoinPhase) :
    (completion.setCaller me phase).phase = completion.phase := rfl
@[simp] theorem handleFree_setCaller (phase : JoinPhase) :
    (completion.setCaller me phase).handleFree = completion.handleFree := rfl
@[simp] theorem latch_setCaller (phase : JoinPhase) :
    (completion.setCaller me phase).latch = completion.latch := rfl
@[simp] theorem sleepers_setCaller (phase : JoinPhase) :
    (completion.setCaller me phase).sleepers = completion.sleepers := rfl

theorem caller_setCaller (other : Nat) (phase : JoinPhase) :
    (completion.setCaller me phase).caller other =
      if other = me then phase else completion.caller other :=
  getD_lookup_put ..

theorem caller_of_callers {first second : Completion} (same : first.callers = second.callers) :
    first.caller = second.caller := by
  funext other
  simp only [caller, same]

/-! Waking touches sleepers and nothing else. -/

theorem caller_wake (expired : Bool) (other : Nat) :
    (completion.wake expired me).caller other =
      if other = me then (completion.caller me).wake expired else completion.caller other := by
  unfold wake
  split
  · next timed asleep =>
    rw [caller_setCaller, asleep]
    rfl
  · next awake =>
    split
    · next same =>
      subst same
      cases here : completion.caller other with
      | asleep timed => exact absurd here (awake timed)
      | _ => rfl
    · rfl

theorem mem_sleepers_wake (expired : Bool) (other : Nat) :
    other ∈ (completion.wake expired me).sleepers ↔
      other ∈ completion.sleepers ∧ ((completion.caller me).isAsleep = true → other ≠ me) := by
  unfold wake
  split
  · next timed asleep => simp [asleep, JoinPhase.isAsleep]
  · next awake =>
    have not : (completion.caller me).isAsleep = false := by
      cases here : completion.caller me with
      | asleep timed => exact absurd here (awake timed)
      | _ => rfl
    simp [not]

/-- What waking leaves as it is. -/
structure WakesOnly (before after : Completion) : Prop where
  phase : after.phase = before.phase
  done : after.done = before.done
  handleFree : after.handleFree = before.handleFree
  latch : after.latch = before.latch

theorem wakesOnly_wake (expired : Bool) : WakesOnly completion (completion.wake expired me) := by
  unfold wake
  split <;> exact ⟨rfl, rfl, rfl, rfl⟩

theorem wakesOnly_foldl (sleepers : List Nat) :
    WakesOnly completion (sleepers.foldl (wake · false) completion) := by
  induction sleepers generalizing completion with
  | nil => exact ⟨rfl, rfl, rfl, rfl⟩
  | cons sleeper rest ih =>
    have late := ih (completion.wake false sleeper)
    have early := wakesOnly_wake completion sleeper false
    exact ⟨late.phase.trans early.phase, late.done.trans early.done,
      late.handleFree.trans early.handleFree, late.latch.trans early.latch⟩

theorem caller_foldl_wake (sleepers : List Nat) (other : Nat) :
    (sleepers.foldl (wake · false) completion).caller other =
      if other ∈ sleepers then (completion.caller other).wake false
      else completion.caller other := by
  induction sleepers generalizing completion with
  | nil => rfl
  | cons sleeper rest ih =>
    have again (phase : JoinPhase) : (phase.wake false).wake false = phase.wake false := by
      cases phase <;> rfl
    rw [List.foldl_cons, ih, caller_wake]
    by_cases same : other = sleeper
    · subst same
      simp [again]
    · simp [same]

theorem timed?_foldl_wake (sleepers : List Nat) (other : Nat) :
    ((sleepers.foldl (wake · false) completion).caller other).timed? =
      (completion.caller other).timed? := by
  rw [caller_foldl_wake]
  split
  · exact JoinPhase.timed?_wake ..
  · rfl

/-- Whoever is woken has not run out of time. -/
theorem expired_foldl_wake {sleepers : List Nat} {other : Nat} {timed : Bool}
    (woken : (sleepers.foldl (wake · false) completion).caller other = .woken timed true) :
    completion.caller other = .woken timed true := by
  rw [caller_foldl_wake] at woken
  split at woken
  · cases here : completion.caller other <;> simp_all [JoinPhase.wake]
  · exact woken

end

/-- Every way a caller's step can go, with all that it changes. -/
inductive Advance (completion : Completion) (me : Nat) : Completion → Prop
  | attach (here : completion.caller me = .taking) (free : completion.handleFree = true) :
      Advance completion me ({ completion with handleFree := false }.setCaller me .attached)
  | rely (here : completion.caller me = .taking) (taken : completion.handleFree = false) :
      Advance completion me (completion.setCaller me (.locking false))
  | outlive (here : completion.caller me = .attached) (gone : completion.phase = .gone) :
      Advance completion me (completion.setCaller me (.answered true))
  | latch (timed : Bool)
      (here : completion.caller me = .locking timed ∨
        timed = false ∧ ∃ expired, completion.caller me = .woken false expired)
      (free : completion.latch = none) :
      Advance completion me
        ({ completion with latch := some (some me) }.setCaller me (.checking timed))
  | see (timed : Bool) (here : completion.caller me = .checking timed)
      (done : completion.done = true) :
      Advance completion me ({ completion with latch := none }.setCaller me (.answered true))
  | park (timed : Bool) (here : completion.caller me = .checking timed)
      (undone : completion.done = false) :
      Advance completion me
        ({ completion with latch := none, sleepers := completion.sleepers ++ [me] }.setCaller me
          (.asleep timed))
  | resume (expired : Bool) (here : completion.caller me = .woken true expired)
      (free : completion.latch = none) :
      Advance completion me (completion.setCaller me (.answered (!expired || completion.done)))

theorem stepCaller_advance {completion after : Completion} {me : Nat}
    (stepped : completion.stepCaller me = some after) : Advance completion me after := by
  unfold stepCaller at stepped
  split at stepped
  · cases stepped
  · cases stepped
  · cases stepped
  · next here =>
    split at stepped <;> cases stepped
    · next free => exact .attach here free
    · next taken => exact .rely here (Bool.eq_false_iff.mpr taken)
  · next here =>
    split at stepped <;> cases stepped
    next gone => exact .outlive here (by simpa [isGone] using gone)
  · next timed here =>
    split at stepped <;> cases stepped
    next free => exact .latch timed (.inl here) free
  · next timed here =>
    dsimp only at stepped
    split at stepped <;> cases stepped
    · next done => exact .see timed here done
    · next undone => exact .park timed here (Bool.eq_false_iff.mpr undone)
  · next expired here =>
    split at stepped <;> cases stepped
    next free => exact .resume expired here free
  · next expired here =>
    split at stepped <;> cases stepped
    next free => exact .latch false (.inr ⟨rfl, expired, here⟩) free

/-- Every way the thread's own step can go. -/
inductive Passes (completion : Completion) : Completion → Prop
  | latch (here : completion.phase = .returned) (free : completion.latch = none) :
      Passes completion { completion with latch := some none, phase := .marking }
  | flag (here : completion.phase = .marking) :
      Passes completion { completion with done := true, latch := none, phase := .announcing }
  | announce (here : completion.phase = .announcing) :
      Passes completion
        { completion.sleepers.foldl (wake · false) completion with phase := .leaving }
  | go (here : completion.phase = .leaving) : Passes completion { completion with phase := .gone }

theorem stepThread_passes {completion after : Completion}
    (stepped : completion.stepThread = some after) : Passes completion after := by
  unfold stepThread at stepped
  split at stepped
  · cases stepped
  · cases stepped
  · next here =>
    split at stepped <;> cases stepped
    next free => exact .latch here free
  · next here =>
    cases stepped
    exact .flag here
  · next here =>
    cases stepped
    exact .announce here
  · next here =>
    cases stepped
    exact .go here

/-- Callers ask, step, run out of time and go, and the thread comes to its end. -/
inductive Move : Completion → List Joining → Completion → Prop
  | ask (me : Nat) (timed : Bool) (idle : completion.caller me = .idle) :
      Move completion [.asked me timed]
        (completion.setCaller me (if timed then .locking true else .taking))
  | go (stepped : completion.stepCaller me = some after) :
      Move completion ((after.caller me).reached me) after
  | expire (asleep : completion.caller me = .asleep true) :
      Move completion [.expired me] (completion.expire me)
  | part (answered : completion.caller me = .answered ended) :
      Move completion [] (completion.setCaller me .idle)
  | finish (running : completion.phase = .running) :
      Move completion [.bodyOver] { completion with phase := .returned }
  | conclude (stepped : completion.stepThread = some after) :
      Move completion after.phase.reached after

/-! What the callers and the thread of a scenario carry out are such moves. -/

theorem runs_advanceCaller (completion : Completion) (me fuel : Nat) :
    ∃ history, Runs Move completion history (completion.advanceCaller me fuel) := by
  induction fuel generalizing completion with
  | zero => exact ⟨[], .start completion⟩
  | succ fuel ih =>
    unfold advanceCaller
    split
    · exact ⟨[], .start completion⟩
    · next after stepped =>
      obtain ⟨history, rest⟩ := ih after
      exact ⟨_, (Runs.next (.start completion) (.go stepped)).append rest⟩

theorem runs_advanceThread (completion : Completion) (fuel : Nat) :
    ∃ history, Runs Move completion history (completion.advanceThread fuel) := by
  induction fuel generalizing completion with
  | zero => exact ⟨[], .start completion⟩
  | succ fuel ih =>
    unfold advanceThread
    split
    · exact ⟨[], .start completion⟩
    · next after stepped =>
      obtain ⟨history, rest⟩ := ih after
      exact ⟨_, (Runs.next (.start completion) (.conclude stepped)).append rest⟩

theorem runs_join (completion : Completion) (me : Nat) (idle : completion.caller me = .idle) :
    ∃ history, Runs Move completion history (completion.join me) := by
  obtain ⟨history, rest⟩ := runs_advanceCaller (completion.setCaller me .taking) me 4
  exact ⟨_, (Runs.next (.start completion) (.ask me false idle)).append rest⟩

theorem runs_joinTimed (completion : Completion) (me : Nat)
    (idle : completion.caller me = .idle) :
    ∃ history, Runs Move completion history (completion.joinTimed me) := by
  obtain ⟨history, rest⟩ := runs_advanceCaller (completion.setCaller me (.locking true)) me 4
  exact ⟨_, (Runs.next (.start completion) (.ask me true idle)).append rest⟩

theorem runs_finish (completion : Completion) (running : completion.phase = .running) :
    ∃ history, Runs Move completion history completion.finish := by
  obtain ⟨history, rest⟩ := runs_advanceThread { completion with phase := .returned } 4
  exact ⟨_, (Runs.next (.start completion) (.finish running)).append rest⟩

end Completion
end ManagedRuntime
