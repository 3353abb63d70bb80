import ManagedRuntime.Proofs.Thread.Joining

/-! What callers of a thread are answered, and why none of them sleeps on. When the thread has
announced its end, every caller without an answer is a few steps of its own away from it. -/
namespace ManagedRuntime

/-- Steps of its own that a caller is at most away from its answer once the thread is over. -/
def JoinPhase.remaining : JoinPhase → Nat
  | .taking => 3
  | .locking _ | .woken false _ => 2
  | .attached | .checking _ | .woken true _ => 1
  | .idle | .asleep _ | .answered _ => 0

namespace Completion

/-- Nobody sleeps or falls asleep, and whoever waits for an answer is on the way to it. -/
structure Unstranded (completion : Completion) : Prop where
  queue : completion.sleepers = []
  awake : ∀ me, (completion.caller me).isAsleep = false
  parks : ∀ {now after me}, Move completion now after → .parked me ∉ now
  /-- A caller without an answer can make a step, or the one it waits for can: the caller that
  holds the latch and then frees it, or the thread that leaves. -/
  goes : ∀ me, (completion.caller me).timed? ≠ none →
    (∃ after, completion.stepCaller me = some after) ∨
    (∃ holder after, completion.latch = some (some holder) ∧
      completion.stepCaller holder = some after ∧ after.latch = none) ∨
    completion.caller me = .attached ∧
      ∃ after, completion.stepThread = some after ∧ after.phase = .gone
  nears : ∀ {me after}, completion.stepCaller me = some after →
    (after.caller me).remaining < (completion.caller me).remaining
  stays : ∀ {me now after}, (completion.caller me).timed? ≠ none → Move completion now after →
    (after.caller me).remaining ≤ (completion.caller me).remaining

section
variable {completion after : Completion} {now : List Joining}

/-- A caller that waits takes the latch as soon as it is free. -/
theorem can_step (waits : (completion.caller me).timed? ≠ none)
    (awake : (completion.caller me).isAsleep = false) (free : completion.latch = none)
    (apart : completion.caller me ≠ .attached) :
    ∃ after, completion.stepCaller me = some after := by
  unfold stepCaller
  split
  · next here => simp [here, JoinPhase.timed?] at waits
  · next here => simp [here, JoinPhase.isAsleep] at awake
  · next here => simp [here, JoinPhase.timed?] at waits
  · split <;> exact ⟨_, rfl⟩
  · next here => exact absurd here apart
  · exact ⟨_, if_pos free⟩
  · dsimp only
    split <;> exact ⟨_, rfl⟩
  · exact ⟨_, if_pos free⟩
  · exact ⟨_, if_pos free⟩

/-- Whoever looks at the flag lets go of the latch. -/
theorem step_of_checking {timed : Bool} (checks : completion.caller me = .checking timed) :
    ∃ after, completion.stepCaller me = some after ∧ after.latch = none := by
  simp only [stepCaller, checks]
  split <;> exact ⟨_, rfl, rfl⟩

namespace Sound
variable {history : List Joining} (sound : Sound history completion)
  (announced : completion.phase.isAnnounced = true)
include sound announced

theorem done_of_announced : completion.done = true :=
  sound.consistent.flagged.mpr (isFlagged_of_isAnnounced announced)

theorem awake_of_announced (me : Nat) : (completion.caller me).isAsleep = false := by
  have absent := sound.consistent.sleeping me
  simpa [sound.consistent.awake announced] using absent

theorem nears (stepped : completion.stepCaller me = some after) :
    (after.caller me).remaining < (completion.caller me).remaining := by
  have done := sound.done_of_announced announced
  cases stepCaller_advance stepped with
  | attach here | rely here | outlive here | see _ here =>
    rw [caller_setCaller, if_pos rfl, here]
    simp [JoinPhase.remaining]
  | latch timed here =>
    rw [caller_setCaller, if_pos rfl]
    obtain here | ⟨-, expired, here⟩ := here <;> rw [here] <;> simp [JoinPhase.remaining]
  | park timed here undone => exact absurd done (by simp [undone])
  | resume expired here =>
    rw [caller_setCaller, if_pos rfl, here]
    simp [JoinPhase.remaining]

theorem parks (moved : Move completion now after) : .parked me ∉ now := by
  intro parked
  cases moved with
  | @go _ _ caller stepped =>
    have done := sound.done_of_announced announced
    cases stepCaller_advance stepped with
    | park timed here undone => exact absurd done (by simp [undone])
    | _ => simp [caller_setCaller, JoinPhase.reached] at parked
  | @conclude _ _ stepped => cases here : after.phase <;> simp [here, EndingPhase.reached] at parked
  | _ => simp at parked

theorem goes (waits : (completion.caller me).timed? ≠ none) :
    (∃ after, completion.stepCaller me = some after) ∨
    (∃ holder after, completion.latch = some (some holder) ∧
      completion.stepCaller holder = some after ∧ after.latch = none) ∨
    completion.caller me = .attached ∧
      ∃ after, completion.stepThread = some after ∧ after.phase = .gone := by
  by_cases attached : completion.caller me = .attached
  · cases phase : completion.phase with
    | gone => exact .inl ⟨completion.setCaller me (.answered true), by
        simp [stepCaller, attached, isGone, phase]⟩
    | leaving => exact .inr (.inr ⟨attached, { completion with phase := .gone }, by
        simp [stepThread, phase], rfl⟩)
    | _ => simp [phase, EndingPhase.isAnnounced] at announced
  · cases held : completion.latch with
    | none => exact .inl (can_step waits (sound.awake_of_announced announced me) held attached)
    | some owner =>
      cases owner with
      | none =>
        have marking := sound.consistent.marking.mp held
        simp [marking, EndingPhase.isAnnounced] at announced
      | some holder =>
        have checks := (sound.consistent.latched holder).mp held
        cases here : completion.caller holder with
        | checking timed =>
          obtain ⟨after, stepped, freed⟩ := step_of_checking here
          exact .inr (.inl ⟨holder, after, rfl, stepped, freed⟩)
        | _ => simp [here, JoinPhase.isChecking] at checks

theorem stays (waits : (completion.caller me).timed? ≠ none) (moved : Move completion now after) :
    (after.caller me).remaining ≤ (completion.caller me).remaining := by
  cases moved with
  | @go _ _ caller stepped =>
    by_cases mine : me = caller
    · subst mine
      exact Nat.le_of_lt (sound.nears announced stepped)
    · exact Nat.le_of_eq (congrArg _ ((stepCaller_advance stepped).carries.others me mine))
  | ask caller timed idle =>
    have other : me ≠ caller := by
      rintro rfl
      simp [idle, JoinPhase.timed?] at waits
    simp [caller_setCaller, other]
  | @part _ caller _ answered =>
    have other : me ≠ caller := by
      rintro rfl
      simp [answered, JoinPhase.timed?] at waits
    simp [caller_setCaller, other]
  | @expire _ caller asleep =>
    have awake := sound.awake_of_announced announced caller
    simp [asleep, JoinPhase.isAsleep] at awake
  | finish => exact Nat.le_refl _
  | conclude stepped =>
    cases stepThread_passes stepped with
    | go => exact Nat.le_refl _
    | latch here | flag here | announce here =>
      simp [here, EndingPhase.isAnnounced] at announced

theorem unstranded : Unstranded completion where
  queue := sound.consistent.awake announced
  awake := sound.awake_of_announced announced
  parks := sound.parks announced
  goes _ := sound.goes announced
  nears := sound.nears announced
  stays := sound.stays announced

end Sound
end

/-- Callers hear that the thread is over only behind its body and the flag, and that it is not
only when their time ran out before the flag. One of them at most takes the handle. Behind the
announcement none is stranded. -/
theorem joiners_answered (run : Runs Move {} history last) :
    (∀ {me now after}, Move last now after → .answered me true ∈ now →
      .bodyOver ∈ history ∧ .flagged ∈ history ∧ last.done = true) ∧
    (∀ {me now after}, Move last now after → .answered me false ∈ now →
      Joining.request me history = some ⟨true, true⟩ ∧ .flagged ∉ history ∧ last.done = false) ∧
    history.countP Joining.isAttached ≤ 1 ∧
    (.announced ∈ history → last.Unstranded) := by
  have sound := sound_run run
  refine ⟨fun moved answered => ?_, fun moved answered => ?_, ?_, fun announced => ?_⟩
  · obtain ⟨taken, reply⟩ := Sound.answers moved answered
    have done := sound.done_of_answered taken reply
    have flagged := sound.consistent.flagged.mp done
    refine ⟨sound.recorded.ended.mpr fun running => ?_, sound.recorded.flagged.mpr done, done⟩
    rw [running] at flagged
    cases flagged
  · obtain ⟨taken, reply⟩ := Sound.answers moved answered
    obtain ⟨asked, undone⟩ := sound.late_of_answered taken reply
    refine ⟨asked, fun flagged => ?_, undone⟩
    exact absurd (sound.recorded.flagged.mp flagged) (by simp [undone])
  · rw [sound.recorded.handle]
    split <;> decide
  · exact sound.unstranded (sound.recorded.announced.mp announced)

/-- Three callers join, one of them with a time limit, before the thread comes to its end. -/
def joinedByThree : Completion := (((({} : Completion).join 1).join 2).joinTimed 3).finish

theorem runs_joinedByThree : ∃ history, Runs Move {} history joinedByThree := by
  obtain ⟨first, attaches⟩ := runs_join {} 1 rfl
  obtain ⟨second, parks⟩ := runs_join (join {} 1) 2 (by decide)
  obtain ⟨third, waits⟩ := runs_joinTimed ((join {} 1).join 2) 3 (by decide)
  obtain ⟨last, ends⟩ := runs_finish (((join {} 1).join 2).joinTimed 3) (by decide)
  exact ⟨_, ((attaches.append parks).append waits).append ends⟩

theorem joiners_answered_three : ∃ history, Runs Move {} history joinedByThree ∧
    .bodyOver ∈ history ∧ .flagged ∈ history ∧ history.countP Joining.isAttached ≤ 1 ∧
    joinedByThree.Unstranded := by
  obtain ⟨history, run⟩ := runs_joinedByThree
  obtain ⟨ended, -, once, unstranded⟩ := joiners_answered run
  have stepped : joinedByThree.stepCaller 3 =
      some (joinedByThree.setCaller 3 (.answered true)) := by decide
  obtain ⟨returned, flagged, -⟩ := ended (.go stepped) (List.mem_singleton.mpr rfl)
  exact ⟨history, run, returned, flagged, once,
    unstranded ((sound_run run).recorded.announced.mpr (by decide))⟩

end Completion
end ManagedRuntime
