import ManagedRuntime.Proofs.Exception.Counters

/-! Two threads whose code differs in instructions and in the owners of frames. If their
surroundings answer alike and hear alike, the threads go the same way. -/
namespace ManagedRuntime.Exception

/-- Code is rewritten piece by piece and keeps its shape. -/
structure Translation (ι κ : Type) where
  code : Code ι κ → Code ι κ
  instruction : ι → ι
  site : κ → κ
  act : ∀ call, code (.act call) = .act (instruction call)
  block : ∀ body, code (.block body) = .block (body.map code)
  protect : ∀ owner body handler,
    code (.protect owner body handler) = .protect (site owner) (body.map code) (handler.map code)
  guarded : ∀ owner body cleanup,
    code (.guarded owner body cleanup) = .guarded (site owner) (body.map code) (cleanup.map code)
  intercept : ∀ owner resume body,
    code (.intercept owner resume body) = .intercept (site owner) resume (body.map code)
  outermost : ∀ owner body,
    code (.outermost owner body) = .outermost (site owner) (body.map code)

namespace Translation
variable (translation : Translation ι κ)

def control : Control ι κ → Control ι κ
  | .run todo => .run (todo.map translation.code)
  | .unwind payload => .unwind payload
  | .returned => .returned
  | .died payload => .died payload
  | .exiting held => .exiting held
  | .halted => .halted

def frame : Frame ι κ → Frame ι κ
  | .protect site handler rest =>
      .protect (translation.site site) (handler.map translation.code) (rest.map translation.code)
  | .guarded site cleanup rest =>
      .guarded (translation.site site) (cleanup.map translation.code) (rest.map translation.code)
  | .cleaning suspended rest => .cleaning suspended (rest.map translation.code)
  | .intercept site resume rest =>
      .intercept (translation.site site) resume (rest.map translation.code)
  | .outermost site rest => .outermost (translation.site site) (rest.map translation.code)

def strand (strand : Strand ι κ) : Strand ι κ :=
  ⟨translation.control strand.control, strand.frames.map translation.frame, strand.counts⟩

def reply : Reply ι κ → Reply ι κ
  | .run code => .run (code.map translation.code)
  | .done => .done
  | .pending => .pending
  | .halted => .halted
  | .throw mode record => .throw mode record
  | .raise mode record => .raise mode record
  | .raiseHeld mode record => .raiseHeld mode record
  | .foreign message => .foreign message

def signal : Signal κ → Signal κ
  | .regionLeft site caught => .regionLeft (translation.site site) caught
  | .cleaning site => .cleaning (translation.site site)
  | .intercepted site payload => .intercepted (translation.site site) payload
  | .interceptLeft site => .interceptLeft (translation.site site)
  | .outermostLeft site => .outermostLeft (translation.site site)
  | .raising throwable => .raising throwable
  | .caught throwable => .caught throwable
  | .released record => .released record
  | .endOfStack held record => .endOfStack held record
  | .uncaught record => .uncaught record
  | .exited => .exited
  | .foreignAtBottom => .foreignAtBottom
  | .cleanupEscaped => .cleanupEscaped

section
variable {translation} (code : ∀ code, translation.code code = code)
include code

theorem map_code (codes : List (Code ι κ)) : codes.map translation.code = codes :=
  (List.map_congr_left fun piece _ => code piece).trans (List.map_id _)

/-- A translation that leaves code as it is leaves answers as they are. -/
theorem reply_id (reply : Reply ι κ) : translation.reply reply = reply := by
  cases reply with
  | run codes => exact congrArg Reply.run (map_code code codes)
  | done | pending | halted | throw | raise | raiseHeld | foreign => rfl

variable (site : ∀ site, translation.site site = site)
include site

theorem frame_id (frame : Frame ι κ) : translation.frame frame = frame := by
  cases frame <;> simp only [Translation.frame, map_code code, site]

theorem strand_id (strand : Strand ι κ) : translation.strand strand = strand := by
  obtain ⟨control, frames, counts⟩ := strand
  have same : frames.map translation.frame = frames :=
    (List.map_congr_left fun frame _ => frame_id code site frame).trans (List.map_id _)
  cases control with
  | run todo => simp only [Translation.strand, Translation.control, map_code code, same]
  | unwind | returned | died | exiting | halted =>
    simp only [Translation.strand, Translation.control, same]

omit code in
theorem signal_id (signal : Signal κ) : translation.signal signal = signal := by
  cases signal <;> simp only [Translation.signal, site]

end

/-- Answers that are alike: the same but for the code, with the same counters. -/
structure Answers (related : σ → σ → Prop) (first second : Reply ι κ × Counts × σ) : Prop where
  reply : second.1 = translation.reply first.1
  counts : second.2.1 = first.2.1
  surroundings : related first.2.2 second.2.2

/-- Threads that stand alike in surroundings that are related. -/
structure Alike (related : σ → σ → Prop) (first second : Strand ι κ × σ) : Prop where
  strand : second.1 = translation.strand first.1
  surroundings : related first.2 second.2

variable {translation} {host : Host ι κ σ} {related : σ → σ → Prop}

/-- What is told alike leaves the surroundings related. -/
def Hears (translation : Translation ι κ) (host : Host ι κ σ) (related : σ → σ → Prop) : Prop :=
  ∀ counts signal {first second}, related first second →
    related (host.signal counts signal first)
      (host.signal counts (translation.signal signal) second)

section
variable (heard : translation.Hears host related)
include heard

theorem throw_alike (strand : Strand ι κ) (mode : UnwindMode) (record : ExceptionRecord)
    {first second : σ} (alike : related first second) :
    translation.Alike related (strand.throw host mode record first)
      ((translation.strand strand).throw host mode record second) := by
  have counts : (translation.strand strand).counts = strand.counts := rfl
  simp only [Strand.throw, counts]
  split
  · exact ⟨rfl, heard _ (.raising record.throwable) alike⟩
  · exact ⟨rfl, heard _ (.uncaught record) alike⟩

theorem raise_alike (strand : Strand ι κ) (mode : UnwindMode) (held : Bool)
    (record : ExceptionRecord) {first second : σ} (alike : related first second) :
    translation.Alike related (strand.raise host mode held record first)
      ((translation.strand strand).raise host mode held record second) := by
  have counts : (translation.strand strand).counts = strand.counts := rfl
  simp only [Strand.raise, counts]
  split
  · exact ⟨rfl, heard _ (.raising record.throwable) alike⟩
  · exact ⟨rfl, heard _ (.released record) (heard _ (.endOfStack held record) alike)⟩

theorem act_alike (instruction : ι) (todo : List (Code ι κ)) (frames : List (Frame ι κ))
    (counts : Counts) {first second : σ}
    (answers : translation.Answers related (host.perform counts frames.length instruction first)
      (host.perform counts frames.length (translation.instruction instruction) second)) :
    translation.Alike related
      (Strand.step host ⟨.run (.act instruction :: todo), frames, counts⟩ first)
      (Strand.step host (translation.strand ⟨.run (.act instruction :: todo), frames, counts⟩)
        second) := by
  have shape (counts : Counts) :
      translation.strand ⟨.run (.act instruction :: todo), frames, counts⟩ =
        ⟨.run (.act (translation.instruction instruction) :: todo.map translation.code),
          frames.map translation.frame, counts⟩ := by
    simp only [strand, control, List.map_cons, translation.act]
  rcases answered : host.perform counts frames.length instruction first with ⟨reply, now, later⟩
  rcases also : host.perform counts frames.length (translation.instruction instruction) second with
    ⟨reply', now', later'⟩
  rw [answered, also] at answers
  obtain ⟨same, counted, surroundings⟩ := answers
  dsimp only at same counted surroundings
  subst same counted
  rw [shape]
  simp only [Strand.step, Strand.enter, Strand.act, List.length_map, answered, also]
  let after : Strand ι κ := ⟨.run todo, frames, now'⟩
  cases reply with
  | done | halted | foreign => exact ⟨rfl, surroundings⟩
  | pending => exact ⟨(shape now').symm, surroundings⟩
  | run code =>
    refine ⟨?_, surroundings⟩
    simp only [strand, control, List.map_append, reply]
  | throw mode record =>
    exact throw_alike heard { after with counts := now'.capture } mode record surroundings
  | raise mode record =>
    exact raise_alike heard { after with counts := now'.capture } mode false record surroundings
  | raiseHeld mode record => exact raise_alike heard after mode true record surroundings

theorem leave_alike (frame : Frame ι κ) (frames : List (Frame ι κ)) (counts : Counts)
    {first second : σ} (alike : related first second) :
    translation.Alike related (Strand.step host ⟨.run [], frame :: frames, counts⟩ first)
      (Strand.step host (translation.strand ⟨.run [], frame :: frames, counts⟩) second) := by
  cases frame with
  | protect site handler rest => exact ⟨rfl, heard _ (.regionLeft site none) alike⟩
  | guarded site cleanup rest => exact ⟨rfl, heard _ (.cleaning site) alike⟩
  | cleaning suspended rest => cases suspended <;> exact ⟨rfl, alike⟩
  | intercept site resume rest =>
    exact ⟨rfl, heard _ (.interceptLeft site) (heard _ (.intercepted site none) alike)⟩
  | outermost site rest => exact ⟨rfl, heard _ (.outermostLeft site) alike⟩

theorem unwindFrame_alike (payload : Payload) (frame : Frame ι κ) (frames : List (Frame ι κ))
    (counts : Counts) {first second : σ} (alike : related first second) :
    translation.Alike related (Strand.step host ⟨.unwind payload, frame :: frames, counts⟩ first)
      (Strand.step host (translation.strand ⟨.unwind payload, frame :: frames, counts⟩)
        second) := by
  cases frame with
  | protect site handler rest =>
    cases payload with
    | foreign message => exact ⟨rfl, alike⟩
    | managed record =>
      refine ⟨?_, ?_⟩
      · simp only [Strand.step, Strand.unwindFrame, Strand.handle, Strand.release, strand, control,
          List.map_append, frame, List.map_cons]
      · exact heard _ (.regionLeft site (some record.throwable))
          (heard _ (.released record) (heard _ (.caught record.throwable) alike))
  | guarded site cleanup rest => exact ⟨rfl, heard _ (.cleaning site) alike⟩
  | cleaning suspended rest =>
    cases suspended with
    | none => exact ⟨rfl, alike⟩
    | some suspended => exact ⟨rfl, heard _ .cleanupEscaped alike⟩
  | intercept site resume rest =>
    have told := heard counts (.intercepted site (some payload)) alike
    cases resume with
    | true => exact ⟨rfl, told⟩
    | false =>
      cases payload with
      | managed record =>
        exact ⟨rfl, heard _ (.interceptLeft site) (heard _ (.released record) told)⟩
      | foreign message => exact ⟨rfl, heard _ (.interceptLeft site) told⟩
  | outermost site rest =>
    cases payload with
    | managed record => exact ⟨rfl, heard _ (.uncaught record) alike⟩
    | foreign message => exact ⟨rfl, heard _ .foreignAtBottom alike⟩

/-- A step of a thread is a step of its translation. -/
theorem step_alike (strand : Strand ι κ) {first second : σ} (alike : related first second)
    (answers : ∀ instruction, strand.upcoming = some instruction →
      translation.Answers related
        (host.perform strand.counts strand.frames.length instruction first)
        (host.perform strand.counts strand.frames.length (translation.instruction instruction)
          second)) :
    translation.Alike related (strand.step host first)
      ((translation.strand strand).step host second) := by
  obtain ⟨control, frames, counts⟩ := strand
  cases control with
  | returned | died | halted => exact ⟨rfl, alike⟩
  | exiting held =>
    cases held with
    | some record => exact ⟨rfl, heard _ (.released record) alike⟩
    | none => exact ⟨rfl, heard _ .exited alike⟩
  | run todo =>
    cases todo with
    | nil =>
      cases frames with
      | nil => exact ⟨rfl, alike⟩
      | cons frame frames => exact leave_alike heard frame frames counts alike
    | cons code todo =>
      cases code with
      | act instruction =>
        exact act_alike heard instruction todo frames counts (answers instruction rfl)
      | block body =>
        refine ⟨?_, ?_⟩
        · simp only [Translation.strand, Translation.control, Strand.step, List.map_cons,
            translation.block, Strand.enter, List.map_append]
        · simpa only [Translation.strand, Translation.control, Strand.step, List.map_cons,
            translation.block, Strand.enter] using alike
      | protect site body handler =>
        simp only [Translation.strand, Translation.control, Strand.step, List.map_cons,
          translation.protect, Strand.enter]
        exact ⟨rfl, alike⟩
      | guarded site body cleanup =>
        simp only [Translation.strand, Translation.control, Strand.step, List.map_cons,
          translation.guarded, Strand.enter]
        exact ⟨rfl, alike⟩
      | intercept site resume body =>
        simp only [Translation.strand, Translation.control, Strand.step, List.map_cons,
          translation.intercept, Strand.enter]
        exact ⟨rfl, alike⟩
      | outermost site body =>
        simp only [Translation.strand, Translation.control, Strand.step, List.map_cons,
          translation.outermost, Strand.enter]
        exact ⟨rfl, alike⟩
  | unwind payload =>
    cases frames with
    | nil => exact ⟨rfl, alike⟩
    | cons frame frames => exact unwindFrame_alike heard payload frame frames counts alike

end

end Translation
end ManagedRuntime.Exception
