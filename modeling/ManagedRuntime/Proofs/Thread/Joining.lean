import ManagedRuntime.Proofs.Thread.Callers

/-! Whoever joins a thread gets the right answer, and nobody sleeps on when the thread is over. One
caller may own the system's handle; the others go by the flag, which is set under the latch before
the sleepers are woken. -/
namespace ManagedRuntime
open Completion

namespace Joining

def isAttached : Joining → Bool
  | .attached _ => true
  | _ => false

/-- The last request of a caller: whether it has a time limit, and whether that has run out. -/
structure Request where
  timed : Bool
  expired : Bool
deriving DecidableEq

def note (me : Nat) (request : Option Request) : Joining → Option Request
  | .asked caller timed => if caller = me then some ⟨timed, false⟩ else request
  | .expired caller =>
      if caller = me then request.map fun request => { request with expired := true } else request
  | _ => request

def request (me : Nat) (history : List Joining) : Option Request := history.foldl (note me) none

theorem request_append (me : Nat) (before now : List Joining) :
    request me (before ++ now) = now.foldl (note me) (request me before) :=
  List.foldl_append

end Joining

namespace Completion

/-- Latch and queue agree with where everybody stands. -/
structure Consistent (completion : Completion) : Prop where
  sleeping : ∀ other, other ∈ completion.sleepers ↔ (completion.caller other).isAsleep = true
  latched : ∀ other, completion.latch = some (some other) ↔
    (completion.caller other).isChecking = true
  marking : completion.latch = some none ↔ completion.phase = .marking
  flagged : completion.done = true ↔ completion.phase.isFlagged = true
  /-- Nobody sleeps behind the announcement. -/
  awake : completion.phase.isAnnounced = true → completion.sleepers = []

/-- What happened so far, as far as it shows. -/
structure Recorded (history : List Joining) (completion : Completion) : Prop where
  ended : .bodyOver ∈ history ↔ completion.phase ≠ .running
  flagged : .flagged ∈ history ↔ completion.done = true
  announced : .announced ∈ history ↔ completion.phase.isAnnounced = true
  handle : history.countP Joining.isAttached = if completion.handleFree then 0 else 1
  asked : ∀ me timed, (completion.caller me).timed? = some timed →
    ∃ expired, Joining.request me history = some ⟨timed, expired⟩
  expired : ∀ me timed, completion.caller me = .woken timed true →
    ∃ timed, Joining.request me history = some ⟨timed, true⟩

theorem isFlagged_of_isAnnounced {phase : EndingPhase} (announced : phase.isAnnounced = true) :
    phase.isFlagged = true := by
  cases phase <;> simp_all [EndingPhase.isAnnounced, EndingPhase.isFlagged]

theorem consistent_initial : Consistent {} where
  sleeping _ := by constructor <;> nofun
  latched _ := by constructor <;> nofun
  marking := by constructor <;> nofun
  flagged := by constructor <;> nofun
  awake := nofun

theorem recorded_initial : Recorded [] {} where
  ended := by constructor <;> simp
  flagged := by constructor <;> nofun
  announced := by constructor <;> nofun
  handle := rfl
  asked := nofun
  expired := nofun

namespace Consistent
variable {completion after : Completion}

/-- A caller changes its phase, and the latch and the queue follow. -/
theorem setCaller (consistent : Consistent completion) {changed : Completion} {next : JoinPhase}
    (callers : changed.callers = completion.callers)
    (phase : changed.phase = completion.phase) (done : changed.done = completion.done)
    (awake : (completion.caller me).isAsleep = false)
    (sleepers : changed.sleepers =
      if next.isAsleep then completion.sleepers ++ [me] else completion.sleepers)
    (undone : next.isAsleep = true → completion.done = false)
    (latch : next.isChecking = true ∧ completion.latch = none ∧ changed.latch = some (some me) ∨
      next.isChecking = false ∧ (completion.caller me).isChecking = true ∧ changed.latch = none ∨
      next.isChecking = false ∧ (completion.caller me).isChecking = false ∧
        changed.latch = completion.latch) :
    Consistent (changed.setCaller me next) := by
  have same := caller_of_callers callers
  constructor
  · intro other
    have before := consistent.sleeping other
    simp only [sleepers_setCaller, caller_setCaller, sleepers, same]
    by_cases mine : other = me
    · subst mine
      cases asleep : next.isAsleep <;> simp_all
    · cases asleep : next.isAsleep <;> simp [mine, before]
  · intro other
    have before := consistent.latched other
    have mine := consistent.latched me
    simp only [latch_setCaller, caller_setCaller, same]
    obtain ⟨checks, free, held⟩ | ⟨leaves, checked, freed⟩ | ⟨leaves, unchecked, kept⟩ := latch
    · by_cases own : other = me
      · simp [own, held, checks]
      · simp [own, held, ← before, free, Ne.symm own]
    · by_cases own : other = me
      · simp [own, freed, leaves]
      · have theirs := mine.mpr checked
        simp [own, freed, ← before, theirs, Ne.symm own]
    · by_cases own : other = me
      · subst own
        simp [kept, leaves, before, unchecked]
      · simp [own, kept, before]
  · have before := consistent.marking
    have mine := consistent.latched me
    simp only [latch_setCaller, phase_setCaller, phase]
    obtain ⟨-, free, held⟩ | ⟨-, checked, freed⟩ | ⟨-, -, kept⟩ := latch
    · simp [held, ← before, free]
    · simp [freed, ← before, mine.mpr checked]
    · rw [kept, before]
  · simpa only [done_setCaller, phase_setCaller, done, phase] using consistent.flagged
  · intro announced
    simp only [phase_setCaller, phase] at announced
    have flagged := consistent.flagged.mpr (isFlagged_of_isAnnounced announced)
    simp only [sleepers_setCaller, sleepers, consistent.awake announced]
    cases asleep : next.isAsleep with
    | false => rfl
    | true => simp [undone asleep] at flagged

theorem advance (consistent : Consistent completion) (taken : Advance completion me after) :
    Consistent after := by
  cases taken with
  | attach here =>
    exact consistent.setCaller rfl rfl rfl (by rw [here]; rfl) rfl nofun
      (.inr (.inr ⟨rfl, by rw [here]; rfl, rfl⟩))
  | rely here | outlive here | resume _ here =>
    exact consistent.setCaller rfl rfl rfl (by rw [here]; rfl) rfl nofun
      (.inr (.inr ⟨rfl, by rw [here]; rfl, rfl⟩))
  | latch timed here free =>
    have awake : (completion.caller me).isAsleep = false := by
      obtain here | ⟨-, expired, here⟩ := here <;> rw [here] <;> rfl
    exact consistent.setCaller rfl rfl rfl awake rfl nofun (.inl ⟨rfl, free, rfl⟩)
  | see timed here =>
    exact consistent.setCaller rfl rfl rfl (by rw [here]; rfl) rfl nofun
      (.inr (.inl ⟨rfl, by rw [here]; rfl, rfl⟩))
  | park timed here undone =>
    exact consistent.setCaller rfl rfl rfl (by rw [here]; rfl) rfl (fun _ => undone)
      (.inr (.inl ⟨rfl, by rw [here]; rfl, rfl⟩))

theorem wake (consistent : Consistent completion) (me : Nat) (expired : Bool) :
    Consistent (completion.wake expired me) := by
  have only := wakesOnly_wake completion me expired
  constructor
  · intro other
    rw [mem_sleepers_wake, caller_wake, consistent.sleeping]
    by_cases mine : other = me
    · subst mine
      simp
    · simp [mine]
  · intro other
    rw [only.latch, caller_wake, consistent.latched]
    split
    · next mine => rw [mine, JoinPhase.isChecking_wake]
    · rfl
  · rw [only.latch, only.phase, consistent.marking]
  · rw [only.done, only.phase, consistent.flagged]
  · intro announced
    rw [only.phase] at announced
    refine List.eq_nil_iff_forall_not_mem.mpr fun other member => ?_
    have before := ((mem_sleepers_wake completion me expired other).mp member).1
    simp [consistent.awake announced] at before

theorem foldl_wake (consistent : Consistent completion) (sleepers : List Nat) :
    Consistent (sleepers.foldl (Completion.wake · false) completion) := by
  induction sleepers generalizing completion with
  | nil => exact consistent
  | cons sleeper rest ih => exact ih (consistent.wake sleeper false)

/-- The announcement empties the queue. -/
theorem sleepers_announced (consistent : Consistent completion) :
    (completion.sleepers.foldl (Completion.wake · false) completion).sleepers = [] := by
  refine List.eq_nil_iff_forall_not_mem.mpr fun other member => ?_
  have asleep := ((consistent.foldl_wake completion.sleepers).sleeping other).mp member
  rw [caller_foldl_wake] at asleep
  split at asleep
  · simp at asleep
  · next absent => exact absent ((consistent.sleeping other).mpr asleep)

theorem passes (consistent : Consistent completion) (passed : Passes completion after) :
    Consistent after := by
  cases passed with
  | latch here free =>
    have unchecked (other : Nat) : (completion.caller other).isChecking = false := by
      have before := consistent.latched other
      rw [free] at before
      simpa using before
    refine ⟨consistent.sleeping, fun other => ?_, by simp, ?_, nofun⟩
    · exact iff_of_false nofun (Bool.eq_false_iff.mp (unchecked other))
    · have before := consistent.flagged
      rw [here] at before
      exact before
  | flag here =>
    have held := consistent.marking.mpr here
    refine ⟨consistent.sleeping, fun other => ?_, by simp, by simp [EndingPhase.isFlagged], nofun⟩
    have before := consistent.latched other
    rw [held] at before
    exact iff_of_false nofun fun checks => nomatch before.mpr checks
  | announce here =>
    have woken := consistent.foldl_wake completion.sleepers
    have only := wakesOnly_foldl completion completion.sleepers
    refine ⟨woken.sleeping, woken.latched, ?_, ?_, fun _ => consistent.sleepers_announced⟩
    · have before := woken.marking
      rw [only.phase, here] at before
      exact before.trans (by simp)
    · have before := woken.flagged
      rw [only.phase, here] at before
      exact before
  | go here =>
    refine ⟨consistent.sleeping, consistent.latched, ?_, ?_, fun _ => consistent.awake ?_⟩
    · have before := consistent.marking
      rw [here] at before
      exact before.trans (by simp)
    · have before := consistent.flagged
      rw [here] at before
      exact before
    · rw [here]
      rfl

theorem move (consistent : Consistent completion) (moved : Move completion now after) :
    Consistent after := by
  cases moved with
  | ask me timed idle =>
    have unchecked : (completion.caller me).isChecking = false := by rw [idle]; rfl
    cases timed <;>
      exact consistent.setCaller rfl rfl rfl (by rw [idle]; rfl) rfl nofun
        (.inr (.inr ⟨rfl, unchecked, rfl⟩))
  | go stepped => exact consistent.advance (stepCaller_advance stepped)
  | @expire _ me asleep =>
    have woken : completion.expire me = completion.wake true me := by
      simp only [Completion.expire, asleep]
    rw [woken]
    exact consistent.wake me true
  | part answered =>
    exact consistent.setCaller rfl rfl rfl (by rw [answered]; rfl) rfl nofun
      (.inr (.inr ⟨rfl, by rw [answered]; rfl, rfl⟩))
  | finish running =>
    refine ⟨consistent.sleeping, consistent.latched, ?_, ?_, nofun⟩
    · have before := consistent.marking
      rw [running] at before
      exact before.trans (by simp)
    · have before := consistent.flagged
      rw [running] at before
      exact before
  | conclude stepped => exact consistent.passes (stepThread_passes stepped)

end Consistent

/-- What a caller's step leaves of its request, whichever way it goes. -/
structure Carries (completion : Completion) (me : Nat) (after : Completion) : Prop where
  others : ∀ other, other ≠ me → after.caller other = completion.caller other
  phase : after.phase = completion.phase
  handle : ((after.caller me).reached me).countP Joining.isAttached +
    (if completion.handleFree then 0 else 1) = if after.handleFree then 0 else 1
  asked : ∀ timed, (after.caller me).timed? = some timed →
    (completion.caller me).timed? = some timed
  awake : ∀ timed expired, after.caller me ≠ .woken timed expired

theorem carries_setCaller {completion changed : Completion} {next : JoinPhase}
    (callers : changed.callers = completion.callers) (phase : changed.phase = completion.phase)
    (handle : (next.reached me).countP Joining.isAttached +
      (if completion.handleFree then 0 else 1) = if changed.handleFree then 0 else 1)
    (asked : ∀ timed, next.timed? = some timed → (completion.caller me).timed? = some timed)
    (awake : ∀ timed expired, next ≠ .woken timed expired) :
    Carries completion me (changed.setCaller me next) := by
  have same := caller_of_callers callers
  have mine : (changed.setCaller me next).caller me = next := by rw [caller_setCaller, if_pos rfl]
  constructor
  · intro other different
    rw [caller_setCaller, if_neg different, same]
  · exact phase
  · rwa [mine]
  · rwa [mine]
  · rwa [mine]

theorem Advance.carries {completion after : Completion} (taken : Advance completion me after) :
    Carries completion me after := by
  have quiet : 0 + (if completion.handleFree then 0 else 1) =
      if completion.handleFree then 0 else 1 := Nat.zero_add _
  cases taken with
  | attach here free =>
    refine carries_setCaller rfl rfl ?_ (fun timed asked => by rw [here]; exact asked) nofun
    rw [free]
    rfl
  | rely here | park _ here =>
    exact carries_setCaller rfl rfl quiet (fun timed asked => by rw [here]; exact asked) nofun
  | outlive | see | resume => exact carries_setCaller rfl rfl quiet nofun nofun
  | latch timed here =>
    refine carries_setCaller rfl rfl quiet (fun limit asked => ?_) nofun
    obtain here | ⟨rfl, expired, here⟩ := here <;> rw [here] <;> exact asked

namespace Recorded
variable {history : List Joining} {completion after : Completion}

/-- Steps of callers are no requests. -/
theorem request_reached (me caller : Nat) (phase : JoinPhase) :
    Joining.request me (history ++ phase.reached caller) = Joining.request me history := by
  rw [Joining.request_append]
  cases phase <;> rfl

theorem request_ending (me : Nat) (phase : EndingPhase) :
    Joining.request me (history ++ phase.reached) = Joining.request me history := by
  rw [Joining.request_append]
  cases phase <;> rfl

theorem advance (recorded : Recorded history completion)
    (stepped : completion.stepCaller me = some after) :
    Recorded (history ++ (after.caller me).reached me) after := by
  have carries := (stepCaller_advance stepped).carries
  have done := done_stepCaller completion me stepped
  have other : .bodyOver ∉ (after.caller me).reached me ∧ .flagged ∉ (after.caller me).reached me ∧
      .announced ∉ (after.caller me).reached me := by
    cases after.caller me <;> simp [JoinPhase.reached]
  constructor
  · rw [List.mem_append, or_iff_left other.1, carries.phase, recorded.ended]
  · rw [List.mem_append, or_iff_left other.2.1, done, recorded.flagged]
  · rw [List.mem_append, or_iff_left other.2.2, carries.phase, recorded.announced]
  · rw [List.countP_append, recorded.handle, Nat.add_comm, carries.handle]
  · intro caller timed asked
    rw [request_reached]
    by_cases mine : caller = me
    · subst mine
      exact recorded.asked caller timed (carries.asked timed asked)
    · exact recorded.asked caller timed (carries.others caller mine ▸ asked)
  · intro caller timed woken
    rw [request_reached]
    by_cases mine : caller = me
    · exact absurd (mine ▸ woken) (carries.awake timed true)
    · exact recorded.expired caller timed (carries.others caller mine ▸ woken)

/-- The thread goes a step towards its end, and callers stand where they stood or are woken. -/
theorem ending (recorded : Recorded history completion)
    (ended : .bodyOver ∈ after.phase.reached ∨ completion.phase ≠ .running ↔
      after.phase ≠ .running)
    (flagged : .flagged ∈ after.phase.reached ∨ completion.done = true ↔ after.done = true)
    (announced : .announced ∈ after.phase.reached ∨ completion.phase.isAnnounced = true ↔
      after.phase.isAnnounced = true)
    (handle : after.handleFree = completion.handleFree)
    (asked : ∀ me, (after.caller me).timed? = (completion.caller me).timed?)
    (woken : ∀ me timed, after.caller me = .woken timed true →
      completion.caller me = .woken timed true) :
    Recorded (history ++ after.phase.reached) after := by
  constructor
  · rw [List.mem_append, recorded.ended, or_comm, ended]
  · rw [List.mem_append, recorded.flagged, or_comm, flagged]
  · rw [List.mem_append, recorded.announced, or_comm, announced]
  · have uncounted : after.phase.reached.countP Joining.isAttached = 0 := by
      cases after.phase <;> rfl
    rw [List.countP_append, uncounted, recorded.handle, handle, Nat.add_zero]
  · intro me timed limited
    rw [request_ending]
    exact recorded.asked me timed ((asked me).symm.trans limited)
  · intro me timed late
    rw [request_ending]
    exact recorded.expired me timed (woken me timed late)

theorem passes (recorded : Recorded history completion) (passed : Passes completion after) :
    Recorded (history ++ after.phase.reached) after := by
  cases passed with
  | latch here | flag here | go here =>
    refine recorded.ending ?_ ?_ ?_ rfl (fun _ => rfl) fun _ _ woken => woken
    all_goals simp [here, EndingPhase.reached, EndingPhase.isAnnounced]
  | announce here =>
    have only := wakesOnly_foldl completion completion.sleepers
    refine recorded.ending ?_ ?_ ?_ only.handleFree (timed?_foldl_wake completion _)
      fun me timed => expired_foldl_wake completion
    all_goals simp [here, only.done, EndingPhase.reached, EndingPhase.isAnnounced]

theorem ask (recorded : Recorded history completion) (timed : Bool) :
    Recorded (history ++ [.asked me timed])
      (completion.setCaller me (if timed then .locking true else .taking)) := by
  constructor
  · simpa using recorded.ended
  · simpa using recorded.flagged
  · simpa using recorded.announced
  · rw [List.countP_append, recorded.handle]
    rfl
  · intro caller limit asked
    rw [caller_setCaller] at asked
    rw [Joining.request_append]
    split at asked
    · next mine =>
      have same : timed = limit := by cases timed <;> simpa [JoinPhase.timed?] using asked
      exact ⟨false, by simp [Joining.note, mine, same]⟩
    · next other => simpa [Joining.note, Ne.symm other] using recorded.asked caller limit asked
  · intro caller limit woken
    rw [caller_setCaller] at woken
    rw [Joining.request_append]
    split at woken
    · cases timed <;> cases woken
    · next other => simpa [Joining.note, Ne.symm other] using recorded.expired caller limit woken

theorem expire (recorded : Recorded history completion)
    (asleep : completion.caller me = .asleep true) :
    Recorded (history ++ [.expired me]) (completion.expire me) := by
  have only := wakesOnly_wake completion me true
  have woken : completion.expire me = completion.wake true me := by
    simp only [Completion.expire, asleep]
  obtain ⟨spent, known⟩ := recorded.asked me true (by rw [asleep]; rfl)
  rw [woken]
  constructor
  · simpa [only.phase] using recorded.ended
  · simpa [only.done] using recorded.flagged
  · simpa [only.phase] using recorded.announced
  · rw [List.countP_append, recorded.handle, only.handleFree]
    rfl
  · intro caller limit asked
    have before : (completion.caller caller).timed? = some limit := by
      rw [caller_wake] at asked
      split at asked
      · next mine => rwa [JoinPhase.timed?_wake, ← mine] at asked
      · exact asked
    obtain ⟨before, request⟩ := recorded.asked caller limit before
    rw [Joining.request_append]
    by_cases mine : me = caller <;> simp [Joining.note, request, mine]
  · intro caller limit late
    rw [Joining.request_append]
    by_cases mine : caller = me
    · exact ⟨true, by simp [Joining.note, mine, known]⟩
    · rw [caller_wake, if_neg mine] at late
      simpa [Joining.note, Ne.symm mine] using recorded.expired caller limit late

theorem part (recorded : Recorded history completion) :
    Recorded history (completion.setCaller me .idle) := by
  refine ⟨recorded.ended, recorded.flagged, recorded.announced, recorded.handle, ?_, ?_⟩
  · intro caller limit asked
    rw [caller_setCaller] at asked
    split at asked
    · cases asked
    · exact recorded.asked caller limit asked
  · intro caller limit woken
    rw [caller_setCaller] at woken
    split at woken
    · cases woken
    · exact recorded.expired caller limit woken

theorem move (recorded : Recorded history completion) (moved : Move completion now after) :
    Recorded (history ++ now) after := by
  cases moved with
  | go stepped => exact recorded.advance stepped
  | conclude stepped => exact recorded.passes (stepThread_passes stepped)
  | finish running =>
    refine @Recorded.ending _ _ { completion with phase := .returned } recorded ?_ ?_ ?_ rfl
      (fun _ => rfl) fun _ _ woken => woken
    all_goals simp [running, EndingPhase.reached, EndingPhase.isAnnounced]
  | ask me timed => exact recorded.ask timed
  | expire asleep => exact recorded.expire asleep
  | part answered =>
    rw [List.append_nil]
    exact recorded.part

end Recorded

/-- Whoever the thread has woken was woken behind the flag. -/
def Notified (completion : Completion) : Prop :=
  ∀ me timed, completion.caller me = .woken timed false → completion.done = true

theorem Notified.move {completion after : Completion} (notified : Notified completion)
    (consistent : Consistent completion) (moved : Move completion now after) : Notified after := by
  cases moved with
  | @go _ _ me stepped =>
    have carries := (stepCaller_advance stepped).carries
    intro caller timed woken
    rw [done_stepCaller completion me stepped]
    by_cases mine : caller = me
    · exact absurd (mine ▸ woken) (carries.awake timed false)
    · exact notified caller timed (carries.others caller mine ▸ woken)
  | ask me limited =>
    intro caller timed woken
    rw [caller_setCaller] at woken
    split at woken
    · cases limited <;> cases woken
    · exact notified caller timed woken
  | part =>
    intro caller timed woken
    rw [caller_setCaller] at woken
    split at woken
    · cases woken
    · exact notified caller timed woken
  | @expire _ me asleep =>
    intro caller timed woken
    rw [done_expire]
    simp only [expire, asleep, caller_wake] at woken
    split at woken
    · cases woken
    · exact notified caller timed woken
  | finish => exact notified
  | conclude stepped =>
    cases stepThread_passes stepped with
    | latch | go => exact notified
    | flag => exact fun _ _ _ => rfl
    | announce here =>
      intro _ _ _
      have flagged := consistent.flagged.mpr (by rw [here]; rfl)
      exact (wakesOnly_foldl completion completion.sleepers).done.trans flagged

/-- What every run from the start establishes. -/
structure Sound (history : List Joining) (completion : Completion) : Prop where
  consistent : Consistent completion
  recorded : Recorded history completion
  notified : Notified completion

theorem sound_run (run : Runs Move {} history last) : Sound history last := by
  induction run with
  | start => exact ⟨consistent_initial, recorded_initial, nofun⟩
  | next _ moved sound =>
    exact ⟨sound.consistent.move moved, sound.recorded.move moved,
      sound.notified.move sound.consistent moved⟩

namespace Sound
variable {history : List Joining} {completion after : Completion}

/-- Only steps of a caller answer it. -/
theorem answers {now : List Joining} {ended : Bool} (moved : Move completion now after)
    (answered : .answered me ended ∈ now) :
    Advance completion me after ∧ after.caller me = .answered ended := by
  cases moved with
  | @go _ _ caller stepped =>
    cases here : after.caller caller with
    | answered reply =>
      rw [here] at answered
      obtain ⟨rfl, rfl⟩ : me = caller ∧ ended = reply := by simpa [JoinPhase.reached] using answered
      exact ⟨stepCaller_advance stepped, here⟩
    | _ =>
      rw [here] at answered
      simp [JoinPhase.reached] at answered
  | @conclude _ _ stepped =>
    cases here : after.phase <;> simp [here, EndingPhase.reached] at answered
  | _ => simp at answered

theorem done_of_answered (sound : Sound history completion) (taken : Advance completion me after)
    (answered : after.caller me = .answered true) : completion.done = true := by
  cases taken with
  | outlive _ gone => exact sound.consistent.flagged.mpr (by rw [gone]; rfl)
  | see _ _ done => exact done
  | resume expired here =>
    have reply : (!expired || completion.done) = true := by
      simpa [caller_setCaller] using answered
    cases expired with
    | false => exact sound.notified me true here
    | true => exact reply
  | _ => simp [caller_setCaller] at answered

theorem late_of_answered (sound : Sound history completion) (taken : Advance completion me after)
    (answered : after.caller me = .answered false) :
    Joining.request me history = some ⟨true, true⟩ ∧ completion.done = false := by
  cases taken with
  | resume expired here =>
    obtain ⟨rfl, undone⟩ : expired = true ∧ completion.done = false := by
      simpa [caller_setCaller] using answered
    obtain ⟨spent, asked⟩ := sound.recorded.asked me true (by rw [here]; rfl)
    obtain ⟨limited, late⟩ := sound.recorded.expired me true here
    obtain ⟨rfl, rfl⟩ : true = limited ∧ spent = true := by simpa [asked] using late
    exact ⟨asked, undone⟩
  | _ => simp [caller_setCaller] at answered

end Sound

end Completion
end ManagedRuntime
