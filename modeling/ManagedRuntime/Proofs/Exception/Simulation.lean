import ManagedRuntime.Proofs.Exception.Regions

/-! A thread with its stack and its counter does what its code says when it is read as nested
blocks, wherever the code stands. -/
namespace ManagedRuntime.Exception

variable {host : Host ι κ σ}

/-- From `first`, the thread gets to the end that a piece of code comes to, with `todo` behind it
and `frames` around it. -/
def Lands (host : Host ι κ σ) (first : Strand ι κ × σ) (result : Finish × Memory σ)
    (todo : List (Code ι κ)) (frames : List (Frame ι κ)) : Prop :=
  match result with
  | (.normal, memory) => Reaches host first (standing (.run todo) frames memory)
  | (.unwinding payload, memory) => Reaches host first (standing (.unwind payload) frames memory)
  | (.ended, memory) => ∃ strand, Reaches host first (strand, memory.state) ∧
      strand.control = .halted ∧ strand.counts.live = memory.live
  | (.stuck, _) => True

theorem Lands.after {result : Finish × Memory σ} (early : Reaches host first middle)
    (lands : Lands host middle result todo frames) : Lands host first result todo frames := by
  obtain ⟨finish, memory⟩ := result
  cases finish with
  | normal | unwinding => exact early.trans lands
  | ended =>
    obtain ⟨strand, reaches, halted, live⟩ := lands
    exact ⟨strand, early.trans reaches, halted, live⟩
  | stuck => trivial

theorem Lands.step {result : Finish × Memory σ} (stepped : next host first = middle)
    (lands : Lands host middle result todo frames) : Lands host first result todo frames :=
  .after (.of_next stepped (.refl middle)) lands

/-! The steps into a frame and out of it. -/

section
variable (site : κ) (body handler cleanup todo : List (Code ι κ)) (frames : List (Frame ι κ))
  (memory : Memory σ) (record : ExceptionRecord) (message : String) (payload : Payload)

theorem next_protect :
    next host (standing (.run (.protect site body handler :: todo)) frames memory) =
      standing (.run body) (.protect site handler todo :: frames) memory := by
  simp [next, standing, Strand.step, Strand.enter, Counts.enterRegion]

theorem next_guarded :
    next host (standing (.run (.guarded site body cleanup :: todo)) frames memory) =
      standing (.run body) (.guarded site cleanup todo :: frames) memory := by
  simp [next, standing, Strand.step, Strand.enter]

theorem next_intercept (resume : Bool) :
    next host (standing (.run (.intercept site resume body :: todo)) frames memory) =
      standing (.run body) (.intercept site resume todo :: frames) memory := by
  simp [next, standing, Strand.step, Strand.enter]

theorem next_outermost :
    next host (standing (.run (.outermost site body :: todo)) frames memory) =
      standing (.run body) (.outermost site todo :: frames) memory := by
  simp [next, standing, Strand.step, Strand.enter, Counts.enterRegion]

theorem next_left_protect :
    next host (standing (.run []) (.protect site handler todo :: frames) memory) =
      standing (.run todo) frames (memory.tell host (.of frames) (.regionLeft site none)) := by
  simp [next, standing, Strand.step, Strand.leave, Counts.leaveRegion, Memory.tell, Place.of]

theorem next_left_guarded :
    next host (standing (.run []) (.guarded site cleanup todo :: frames) memory) =
      standing (.run cleanup) (.cleaning none todo :: frames)
        (memory.tell host (.of frames) (.cleaning site)) := by
  simp [next, standing, Strand.step, Strand.leave, Memory.tell, Place.of]

theorem next_cleaned :
    next host (standing (.run []) (.cleaning none todo :: frames) memory) =
      standing (.run todo) frames memory := by
  simp [next, standing, Strand.step, Strand.leave]

theorem next_resumed :
    next host (standing (.run []) (.cleaning (some payload) todo :: frames) memory) =
      standing (.unwind payload) frames memory := by
  simp [next, standing, Strand.step, Strand.leave]

theorem next_left_intercept (resume : Bool) :
    next host (standing (.run []) (.intercept site resume todo :: frames) memory) =
      standing (.run todo) frames ((memory.tell host (.of frames) (.intercepted site none)).tell
        host (.of frames) (.interceptLeft site)) := by
  simp [next, standing, Strand.step, Strand.leave, Memory.tell, Place.of]

theorem next_left_outermost :
    next host (standing (.run []) (.outermost site todo :: frames) memory) =
      standing (.run todo) frames (memory.tell host (.of frames) (.outermostLeft site)) := by
  simp [next, standing, Strand.step, Strand.leave, Counts.leaveRegion, Memory.tell, Place.of]

theorem next_caught :
    next host (standing (.unwind (.managed record)) (.protect site handler todo :: frames) memory) =
      standing (.run (handler ++ todo)) frames (caught host (.of frames) site record memory) := by
  simp [next, standing, caught, Strand.step, Strand.unwindFrame, Strand.handle, Strand.release,
    Counts.leaveRegion, Counts.release, Memory.tell, Memory.release, Place.of]

theorem next_passed :
    next host (standing (.unwind (.foreign message)) (.protect site handler todo :: frames)
      memory) = standing (.unwind (.foreign message)) frames memory := by
  simp [next, standing, Strand.step, Strand.unwindFrame, Counts.leaveRegion]

theorem next_unwound_guarded :
    next host (standing (.unwind payload) (.guarded site cleanup todo :: frames) memory) =
      standing (.run cleanup) (.cleaning (some payload) todo :: frames)
        (memory.tell host (.of frames) (.cleaning site)) := by
  simp [next, standing, Strand.step, Strand.unwindFrame, Memory.tell, Place.of]

theorem next_unwound_cleaning :
    next host (standing (.unwind payload) (.cleaning none todo :: frames) memory) =
      standing (.unwind payload) frames memory := by
  simp [next, standing, Strand.step, Strand.unwindFrame]

theorem next_escaped (suspended : Payload) :
    next host (standing (.unwind payload) (.cleaning (some suspended) todo :: frames) memory) =
      standing .halted frames (memory.tell host (.of frames) .cleanupEscaped) := by
  simp [next, standing, Strand.step, Strand.unwindFrame, Memory.tell, Place.of]

theorem next_intercepted_resume :
    next host (standing (.unwind payload) (.intercept site true todo :: frames) memory) =
      standing (.unwind payload) frames
        (memory.tell host (.of frames) (.intercepted site (some payload))) := by
  simp [next, standing, Strand.step, Strand.unwindFrame, Memory.tell, Place.of]

theorem next_discarded :
    next host (standing (.unwind payload) (.intercept site false todo :: frames) memory) =
      standing (.run todo) frames (discarded host (.of frames) site payload memory) := by
  cases payload <;>
    simp [next, standing, discarded, Strand.step, Strand.unwindFrame, Strand.discard,
      Strand.release, Counts.release, Memory.tell, Memory.release, Place.of]

theorem next_uncaught :
    next host (standing (.unwind (.managed record)) (.outermost site todo :: frames) memory) =
      standing (.exiting (some record)) frames
        (memory.tell host (.of frames) (.uncaught record)) := by
  simp [next, standing, Strand.step, Strand.unwindFrame, Strand.uncaught, Counts.leaveRegion,
    Memory.tell, Place.of]

theorem next_held :
    next host (standing (.exiting (some record)) frames memory) =
      standing (.exiting none) frames (memory.release host (.of frames) record) := by
  simp [next, standing, Strand.step, Strand.exit, Strand.release, Counts.release, Memory.tell,
    Memory.release, Place.of]

theorem next_exited :
    next host (standing (.exiting none) frames memory) =
      standing .halted frames (memory.tell host (.of frames) .exited) := by
  simp [next, standing, Strand.step, Strand.exit, Memory.tell, Place.of]

/-- A thread that has reported an exception does nothing else but release it and exit. -/
theorem reaches_reported :
    Reaches host (standing (.exiting (some record)) frames
        (memory.tell host (.of frames) (.uncaught record)))
      (standing .halted frames (reported host (.of frames) record memory).2) :=
  .of_next (next_held ..) (.of_next (next_exited ..) (.refl _))

theorem next_foreign_at_bottom :
    next host (standing (.unwind (.foreign message)) (.outermost site todo :: frames) memory) =
      standing .halted frames (memory.tell host (.of frames) .foreignAtBottom) := by
  simp [next, standing, Strand.step, Strand.unwindFrame, Counts.leaveRegion, Memory.tell, Place.of]

end

/-- Searching by the counter finds a region exactly where there is one around. -/
theorem reachesRegion_iff (mode : UnwindMode) (frames : List (Frame ι κ)) (live : Nat) :
    Strand.reachesRegion mode ⟨regionsOn frames, live⟩ = true ↔
      (Place.of frames).isSheltered mode := by
  cases mode with
  | terminate => simp [Strand.reachesRegion, Place.isSheltered]
  | propagate => simp [Strand.reachesRegion, Place.isSheltered, Place.of, Nat.pos_iff_ne_zero]

theorem next_act (instruction : ι) (todo : List (Code ι κ)) (frames : List (Frame ι κ))
    (memory : Memory σ) : next host (standing (.run (.act instruction :: todo)) frames memory) =
      Strand.act host ⟨.run (.act instruction :: todo), frames, ⟨regionsOn frames, memory.live⟩⟩
        instruction todo memory.state := rfl

theorem throw_lands (mode : UnwindMode) (record : ExceptionRecord) (todo : List (Code ι κ))
    (frames : List (Frame ι κ)) (live : Nat) (state : σ) :
    Lands host (Strand.throw host ⟨.run todo, frames, ⟨regionsOn frames, live⟩⟩ mode record state)
      (if (Place.of frames).isSheltered mode then raised host (.of frames) record ⟨live, state⟩
        else reported host (.of frames) record ⟨live, state⟩) todo frames := by
  simp only [Strand.throw, reachesRegion_iff]
  split
  · exact .refl _
  · have reaches : Reaches host _ _ := reaches_reported frames ⟨live, state⟩ record
    exact ⟨_, reaches, rfl, rfl⟩

theorem raise_lands (mode : UnwindMode) (held : Bool) (record : ExceptionRecord)
    (todo : List (Code ι κ)) (frames : List (Frame ι κ)) (live : Nat) (state : σ) :
    Lands host
      (Strand.raise host ⟨.run todo, frames, ⟨regionsOn frames, live⟩⟩ mode held record state)
      (if (Place.of frames).isSheltered mode then raised host (.of frames) record ⟨live, state⟩
        else returnedTo host (.of frames) held record ⟨live, state⟩) todo frames := by
  simp only [Strand.raise, reachesRegion_iff]
  split <;> exact .refl _

theorem act_lands (steady : host.Steady) (instruction : ι) (todo : List (Code ι κ))
    (frames : List (Frame ι κ)) (memory : Memory σ) :
    Lands host (standing (.run (.act instruction :: todo)) frames memory)
      (evaluateAct host (.of frames) instruction memory) todo frames := by
  obtain ⟨live, state⟩ := memory
  have kept := steady ⟨regionsOn frames, live⟩ frames.length instruction state
  obtain ⟨⟨reply, ⟨handlers, held⟩, later⟩, answered⟩ : ∃ answer,
    host.perform ⟨regionsOn frames, live⟩ frames.length instruction state = answer := ⟨_, rfl⟩
  rw [answered] at kept
  cases kept
  refine .step rfl ?_
  unfold next standing Strand.step Strand.enter Strand.act evaluateAct
  simp only [Place.of, answered]
  cases reply with
  | done | foreign => exact .refl _
  | pending | run => trivial
  | halted => exact ⟨_, .refl _, rfl, rfl⟩
  | throw mode record => exact throw_lands mode record todo frames (held + 1) later
  | raise mode record => exact raise_lands mode false record todo frames (held + 1) later
  | raiseHeld mode record => exact raise_lands mode true record todo frames held later

theorem Place.inRegion_of (frame : Frame ι κ) (frames : List (Frame ι κ))
    (region : frame.isRegion = true) : (Place.of frames).inRegion = .of (frame :: frames) := by
  simp [Place.of, inRegion, regionsOn, region]

theorem Place.inFrame_of (frame : Frame ι κ) (frames : List (Frame ι κ))
    (plain : frame.isRegion = false) : (Place.of frames).inFrame = .of (frame :: frames) := by
  simp [Place.of, inFrame, regionsOn, plain]

mutual

theorem evaluate_lands (steady : host.Steady) (code : Code ι κ) (todo : List (Code ι κ))
    (frames : List (Frame ι κ)) (memory : Memory σ) :
    Lands host (standing (.run (code :: todo)) frames memory)
      (evaluate host (.of frames) code memory) todo frames := by
  cases code with
  | act instruction =>
    rw [evaluate]
    exact act_lands steady instruction todo frames memory
  | block body =>
    rw [evaluate]
    exact .step rfl (evaluateAll_lands steady body todo frames memory)
  | protect site body handler =>
    rw [evaluate, Place.inRegion_of (.protect site handler todo) frames rfl]
    refine .step (next_protect ..) ?_
    have within := evaluateAll_lands steady body [] (.protect site handler todo :: frames) memory
    rw [List.append_nil] at within
    generalize evaluateAll host _ body memory = result at within
    obtain ⟨finish, memory⟩ := result
    cases finish with
    | normal => exact .after within (.step (next_left_protect ..) (Reaches.refl _))
    | unwinding payload =>
      cases payload with
      | managed record =>
        have handles := evaluateAll_lands steady handler todo frames
          (caught host (.of frames) site record memory)
        exact .after within (.step (next_caught ..) handles)
      | foreign message => exact .after within (.step (next_passed ..) (Reaches.refl _))
    | ended | stuck => exact within
  | guarded site body cleanup =>
    rw [evaluate]
    refine .step (next_guarded ..) ?_
    have within := evaluateAll_lands steady body [] (.guarded site cleanup todo :: frames) memory
    rw [List.append_nil, ← Place.inFrame_of _ _ rfl] at within
    generalize evaluateAll host _ body memory = result at within
    obtain ⟨finish, memory⟩ := result
    cases finish with
    | normal =>
      refine .after within (.step (next_left_guarded ..) ?_)
      have cleans := evaluateAll_lands steady cleanup [] (.cleaning none todo :: frames)
        (memory.tell host (.of frames) (.cleaning site))
      rw [List.append_nil, ← Place.inFrame_of _ _ rfl] at cleans
      dsimp only
      generalize evaluateAll host _ cleanup _ = result at cleans
      obtain ⟨finish, memory⟩ := result
      cases finish with
      | normal => exact .after cleans (.step (next_cleaned ..) (Reaches.refl _))
      | unwinding payload => exact .after cleans (.step (next_unwound_cleaning ..) (Reaches.refl _))
      | ended | stuck => exact cleans
    | unwinding payload =>
      refine .after within (.step (next_unwound_guarded ..) ?_)
      have cleans := evaluateAll_lands steady cleanup [] (.cleaning (some payload) todo :: frames)
        (memory.tell host (.of frames) (.cleaning site))
      rw [List.append_nil, ← Place.inFrame_of _ _ rfl] at cleans
      dsimp only
      generalize evaluateAll host _ cleanup _ = result at cleans
      obtain ⟨finish, memory⟩ := result
      cases finish with
      | normal => exact .after cleans (.step (next_resumed ..) (Reaches.refl _))
      | unwinding _ => exact .after cleans (.step (next_escaped ..) ⟨_, Reaches.refl _, rfl, rfl⟩)
      | ended | stuck => exact cleans
    | ended | stuck => exact within
  | intercept site resume body =>
    rw [evaluate]
    refine .step (next_intercept ..) ?_
    have within := evaluateAll_lands steady body [] (.intercept site resume todo :: frames) memory
    rw [List.append_nil, ← Place.inFrame_of _ _ rfl] at within
    generalize evaluateAll host _ body memory = result at within
    obtain ⟨finish, memory⟩ := result
    cases finish with
    | normal => exact .after within (.step (next_left_intercept ..) (Reaches.refl _))
    | unwinding payload =>
      cases resume with
      | true => exact .after within (.step (next_intercepted_resume ..) (Reaches.refl _))
      | false => exact .after within (.step (next_discarded ..) (Reaches.refl _))
    | ended | stuck => exact within
  | outermost site body =>
    rw [evaluate]
    refine .step (next_outermost ..) ?_
    have within := evaluateAll_lands steady body [] (.outermost site todo :: frames) memory
    rw [List.append_nil, ← Place.inRegion_of _ _ rfl] at within
    generalize evaluateAll host _ body memory = result at within
    obtain ⟨finish, memory⟩ := result
    cases finish with
    | normal => exact .after within (.step (next_left_outermost ..) (Reaches.refl _))
    | unwinding payload =>
      cases payload with
      | managed record =>
        have reaches : Reaches host _ _ := reaches_reported frames memory record
        exact .after within (.step (next_uncaught ..) ⟨_, reaches, rfl, rfl⟩)
      | foreign message =>
        exact .after within (.step (next_foreign_at_bottom ..) ⟨_, Reaches.refl _, rfl, rfl⟩)
    | ended | stuck => exact within

theorem evaluateAll_lands (steady : host.Steady) (codes todo : List (Code ι κ))
    (frames : List (Frame ι κ)) (memory : Memory σ) :
    Lands host (standing (.run (codes ++ todo)) frames memory)
      (evaluateAll host (.of frames) codes memory) todo frames := by
  cases codes with
  | nil =>
    rw [evaluateAll]
    exact Reaches.refl _
  | cons code rest =>
    rw [evaluateAll]
    have first := evaluate_lands steady code (rest ++ todo) frames memory
    generalize evaluate host (.of frames) code memory = result at first
    obtain ⟨finish, memory⟩ := result
    cases finish with
    | normal => exact .after first (evaluateAll_lands steady rest todo frames memory)
    | unwinding | ended | stuck => exact first

end

end ManagedRuntime.Exception
