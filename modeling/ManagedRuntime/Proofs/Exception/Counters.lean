import Mathlib.Algebra.Order.Ring.Nat
import ManagedRuntime.Proofs.Exception.Regions

/-! Both counters are exact whenever the surroundings are told something, and between any two
steps: one is the number of regions on the stack, the other the number of records that are still
somewhere. -/
namespace ManagedRuntime.Exception

/-! Records that were captured and not released: on their way, or suspended by a cleanup. -/

def Payload.records : Payload → Nat
  | .managed _ => 1
  | .foreign _ => 0

def Control.records : Control ι κ → Nat
  | .unwind payload | .died payload => payload.records
  | .exiting (some _) => 1
  | .run _ | .exiting none | .returned | .halted => 0

def Frame.records : Frame ι κ → Nat
  | .cleaning (some payload) _ => payload.records
  | .cleaning none _ | .protect _ _ _ | .guarded _ _ _ | .intercept _ _ _ | .outermost _ _ => 0

def recordsOn (frames : List (Frame ι κ)) : Nat := (frames.map Frame.records).sum

@[simp] theorem recordsOn_nil : recordsOn ([] : List (Frame ι κ)) = 0 := rfl

@[simp] theorem recordsOn_cons (frame : Frame ι κ) (frames : List (Frame ι κ)) :
    recordsOn (frame :: frames) = frame.records + recordsOn frames := rfl

/-- Records that what is told of has in its hands: neither on the stack nor kept. -/
def Signal.inHand : Signal κ → Nat
  | .raising _ | .caught _ | .endOfStack _ _ | .uncaught _ => 1
  | .intercepted _ (some payload) => payload.records
  | .intercepted _ none | .released _ | .regionLeft _ _ | .cleaning _ | .interceptLeft _
  | .outermostLeft _ | .exited | .foreignAtBottom | .cleanupEscaped => 0

/-- Records that the surroundings kept and give to the thread. -/
def Reply.handedOver : Reply ι κ → Nat
  | .raiseHeld _ _ => 1
  | .done | .pending | .halted | .run _ | .throw _ _ | .raise _ _ | .foreign _ => 0

/-! Surroundings under observation: they do the same, and note what they are told. -/

structure Watched (κ σ : Type) where
  state : σ
  told : List (Counts × Signal κ) := []

def Host.watched (host : Host ι κ σ) : Host ι κ (Watched κ σ) where
  perform counts height instruction seen :=
    let (reply, counts, state) := host.perform counts height instruction seen.state
    (reply, counts, { seen with state })
  signal counts signal seen :=
    ⟨host.signal counts signal seen.state, seen.told ++ [(counts, signal)]⟩

theorem perform_watched {host : Host ι κ σ} {counts now : Counts} {height : Nat} {instruction : ι}
    {seen : Watched κ σ} {reply : Reply ι κ} {later : σ}
    (answered : host.perform counts height instruction seen.state = (reply, now, later)) :
    host.watched.perform counts height instruction seen =
      (reply, now, { seen with state := later }) := by
  simp only [Host.watched, answered]

namespace Strand

/-- The instruction a thread is about to carry out. -/
def upcoming (strand : Strand ι κ) : Option ι :=
  match strand.control with
  | .run (.act instruction :: _) => some instruction
  | _ => none

theorem eq_of_upcoming {strand : Strand ι κ} {instruction : ι}
    (next : strand.upcoming = some instruction) :
    ∃ todo, strand = ⟨.run (.act instruction :: todo), strand.frames, strand.counts⟩ := by
  obtain ⟨control, frames, counts⟩ := strand
  cases control with
  | unwind | returned | died | exiting | halted => cases next
  | run todo =>
    match todo with
    | .act here :: todo =>
      obtain rfl : here = instruction := Option.some.inj next
      exact ⟨todo, rfl⟩

/-- What a step tells, and the counters at that point. -/
def told (host : Host ι κ σ) (strand : Strand ι κ) (state : σ) : List (Counts × Signal κ) :=
  (strand.step host.watched ⟨state, []⟩).2.told

theorem step_watched (host : Host ι κ σ) (strand : Strand ι κ) (seen : Watched κ σ) :
    (strand.step host.watched seen).1 = (strand.step host seen.state).1 ∧
      (strand.step host.watched seen).2.state = (strand.step host seen.state).2 := by
  obtain ⟨control, frames, counts⟩ := strand
  cases control with
  | returned | died | halted => exact ⟨rfl, rfl⟩
  | exiting held => cases held <;> exact ⟨rfl, rfl⟩
  | run todo =>
    cases todo with
    | nil =>
      cases frames with
      | nil => exact ⟨rfl, rfl⟩
      | cons frame frames =>
        cases frame with
        | cleaning pending rest => cases pending <;> exact ⟨rfl, rfl⟩
        | protect | guarded | intercept | outermost => exact ⟨rfl, rfl⟩
    | cons code todo =>
      cases code with
      | block | protect | guarded | intercept | outermost => exact ⟨rfl, rfl⟩
      | act instruction =>
        rcases answered : host.perform counts frames.length instruction seen.state with
          ⟨reply, now, later⟩
        simp only [step, enter, act, answered, perform_watched answered]
        cases reply with
        | done | pending | halted | run | foreign => exact ⟨rfl, rfl⟩
        | throw => simp only [throw]; split <;> exact ⟨rfl, rfl⟩
        | raise | raiseHeld => simp only [raise]; split <;> exact ⟨rfl, rfl⟩
  | unwind payload =>
    cases frames with
    | nil => exact ⟨rfl, rfl⟩
    | cons frame frames =>
      cases frame with
      | protect | outermost => cases payload <;> exact ⟨rfl, rfl⟩
      | guarded => exact ⟨rfl, rfl⟩
      | cleaning pending rest => cases pending <;> exact ⟨rfl, rfl⟩
      | intercept site resume rest =>
        cases resume with
        | true => exact ⟨rfl, rfl⟩
        | false => cases payload <;> exact ⟨rfl, rfl⟩

/-- The surroundings once the upcoming instruction, if there is one, is carried out. -/
def performed (host : Host ι κ σ) (strand : Strand ι κ) (state : σ) : σ :=
  match strand.upcoming with
  | some instruction =>
      (host.perform strand.counts strand.frames.length instruction state).2.2
  | none => state

/-- Besides its instruction, a step does to the surroundings what its signals do. -/
theorem step_hears {host : Host ι κ σ} (related : σ → σ → Prop)
    (refl : ∀ state, related state state)
    (trans : ∀ {first middle last}, related first middle → related middle last →
      related first last)
    (heard : ∀ counts signal state, related state (host.signal counts signal state))
    (strand : Strand ι κ) (state : σ) :
    related (strand.performed host state) (strand.step host state).2 := by
  obtain ⟨control, frames, counts⟩ := strand
  have twice {counts : Counts} {signal : Signal κ} {now : Counts} {further : Signal κ} {state : σ} :
      related state (host.signal now further (host.signal counts signal state)) :=
    trans (heard counts signal state) (heard now further _)
  cases control with
  | returned | died | halted => exact refl state
  | exiting held => cases held <;> exact heard ..
  | run todo =>
    cases todo with
    | nil =>
      cases frames with
      | nil => exact refl state
      | cons frame frames =>
        cases frame with
        | cleaning pending rest => cases pending <;> exact refl state
        | protect | guarded | outermost => exact heard ..
        | intercept => exact twice
    | cons code todo =>
      cases code with
      | block | protect | guarded | intercept | outermost => exact refl state
      | act instruction =>
        rcases answered : host.perform counts frames.length instruction state with
          ⟨reply, now, later⟩
        simp only [performed, upcoming, step, enter, act, answered]
        cases reply with
        | done | pending | halted | run | foreign => exact refl later
        | throw => simp only [throw]; split <;> exact heard ..
        | raise | raiseHeld =>
          simp only [raise]
          split
          · exact heard ..
          · exact twice
  | unwind payload =>
    cases frames with
    | nil => exact refl state
    | cons frame frames =>
      cases frame with
      | protect =>
        cases payload with
        | managed record => exact trans twice (heard ..)
        | foreign message => exact refl state
      | guarded => exact heard ..
      | cleaning pending rest =>
        cases pending with
        | none => exact refl state
        | some pending => exact heard ..
      | intercept site resume rest =>
        cases resume with
        | true => exact heard ..
        | false =>
          cases payload with
          | managed record => exact trans twice (heard ..)
          | foreign message => exact twice
      | outermost => cases payload <;> exact heard ..

/-- A step does to the surroundings what its instruction and its signals do. -/
theorem step_relates {host : Host ι κ σ} (related : σ → σ → Prop)
    (refl : ∀ state, related state state)
    (trans : ∀ {first middle last}, related first middle → related middle last →
      related first last)
    (heard : ∀ counts signal state, related state (host.signal counts signal state))
    (strand : Strand ι κ) (state : σ)
    (performed : ∀ instruction, strand.upcoming = some instruction →
      related state (host.perform strand.counts strand.frames.length instruction state).2.2) :
    related state (strand.step host state).2 := by
  refine trans ?_ (step_hears related refl trans heard strand state)
  unfold Strand.performed
  split
  · next instruction next => exact performed instruction next
  · exact refl state

end Strand

/-- The counters are right where things stand now, with `inHand` records in nobody's keeping, and
were so at every point that was told. Only a cleanup that was left by another unwind drops records
without a word, and the process with them. -/
structure Level (held : σ → Nat) (inHand : Nat) (counts : Counts) (frames : List (Frame ι κ))
    (seen : Watched κ σ) : Prop where
  handlers : counts.handlers = regionsOn frames
  live : counts.live = held seen.state + inHand + recordsOn frames
  told : ∀ point ∈ seen.told, point.1.handlers = regionsOn frames ∧
    (point.2 ≠ .cleanupEscaped →
      point.1.live = held seen.state + point.2.inHand + recordsOn frames)

/-- The counters of a thread between two steps. -/
structure Exact (held : Nat) (strand : Strand ι κ) : Prop where
  handlers : strand.counts.handlers = regionsOn strand.frames
  live : strand.control ≠ .halted →
    strand.counts.live = held + strand.control.records + recordsOn strand.frames

/-- What the surroundings keep and what a thread counts change together. -/
def Balanced (host : Host ι κ σ) (held : σ → Nat) (strand : Strand ι κ) (state : σ) : Prop :=
  ∀ instruction, strand.upcoming = some instruction →
    let (reply, counts, later) :=
      host.perform strand.counts strand.frames.length instruction state
    counts.live + held state = strand.counts.live + held later + reply.handedOver

/-- The end of a step: nothing is left in hand but what is on its way. -/
def Settled (held : σ → Nat) (moment : Strand ι κ × Watched κ σ) : Prop :=
  ∃ inHand, Level held inHand moment.1.counts moment.1.frames moment.2 ∧
    (moment.1.control ≠ .halted → inHand = moment.1.control.records)

section
variable {host : Host ι κ σ} {held : σ → Nat} {strand : Strand ι κ} {seen : Watched κ σ}
  {record : ExceptionRecord} {frames : List (Frame ι κ)} {counts : Counts} {inHand : Nat}
  {state : σ}

/-- Nothing has been told yet. -/
theorem Level.silent (handlers : counts.handlers = regionsOn frames)
    (live : counts.live = held state + inHand + recordsOn frames) :
    Level held inHand counts frames ⟨state, []⟩ :=
  ⟨handlers, live, fun _ member => (List.not_mem_nil member).elim⟩

theorem Level.afterRegion (handlers : counts.handlers = regionsOn frames + 1)
    (live : counts.live = held state + inHand + recordsOn frames) :
    Level held inHand counts.leaveRegion frames ⟨state, []⟩ :=
  .silent (by simp only [Counts.leaveRegion, handlers, Nat.add_sub_cancel]) live

variable (quiet : ∀ counts signal state, held (host.signal counts signal state) = held state)
include quiet

theorem Level.hear (level : Level held inHand counts frames seen) (signal : Signal κ)
    (fits : signal ≠ .cleanupEscaped → signal.inHand = inHand) :
    Level held inHand counts frames (host.watched.signal counts signal seen) := by
  obtain ⟨handlers, live, told⟩ := level
  have kept : held (host.watched.signal counts signal seen).state = held seen.state :=
    quiet counts signal seen.state
  refine ⟨handlers, by rwa [kept], fun point member => ?_⟩
  rw [kept]
  rcases List.mem_append.mp member with earlier | now
  · exact told point earlier
  · obtain rfl := List.mem_singleton.mp now
    exact ⟨handlers, fun ordinary => by rw [fits ordinary]; exact live⟩

theorem Level.release (level : Level held 1 counts frames seen) (record : ExceptionRecord) :
    Level held 0 counts.release frames
      (host.watched.signal counts.release (.released record) seen) := by
  have lighter : Level held 0 counts.release frames seen := by
    have live := level.live
    exact ⟨level.handlers, by simp only [Counts.release]; omega, level.told⟩
  exact lighter.hear quiet _ fun _ => rfl

theorem settled_throw {mode : UnwindMode}
    (level : Level held 1 strand.counts strand.frames seen) :
    Settled held (strand.throw host.watched mode record seen) := by
  simp only [Strand.throw]
  split
  · exact ⟨1, level.hear quiet _ fun _ => rfl, fun _ => rfl⟩
  · exact ⟨1, level.hear quiet _ fun _ => rfl, fun _ => rfl⟩

theorem settled_raise {mode : UnwindMode} {kept : Bool} (running : strand.control.records = 0)
    (level : Level held 1 strand.counts strand.frames seen) :
    Settled held (strand.raise host.watched mode kept record seen) := by
  simp only [Strand.raise]
  split
  · exact ⟨1, level.hear quiet _ fun _ => rfl, fun _ => rfl⟩
  · have told := level.hear quiet (.endOfStack kept record) fun _ => rfl
    exact ⟨0, told.release quiet record, fun _ => running.symm⟩

theorem settled_act (steady : host.Steady) {instruction : ι} {todo : List (Code ι κ)}
    (balanced : Balanced host held ⟨.run (.act instruction :: todo), frames, counts⟩ state)
    (handlers : counts.handlers = regionsOn frames)
    (live : counts.live = held state + recordsOn frames) :
    Settled held (Strand.act host.watched ⟨.run (.act instruction :: todo), frames, counts⟩
      instruction todo ⟨state, []⟩) := by
  have balance := balanced instruction rfl
  have kept := steady counts frames.length instruction state
  rcases answered : host.perform counts frames.length instruction state with ⟨reply, now, later⟩
  simp only [answered] at balance kept
  have noted : host.watched.perform counts frames.length instruction ⟨state, []⟩ =
      (reply, now, ⟨later, []⟩) := perform_watched answered
  replace handlers : now.handlers = regionsOn frames := kept.trans handlers
  have exact : now.live = held later + reply.handedOver + recordsOn frames := by omega
  have captured (none : reply.handedOver = 0) :
      Level held 1 now.capture frames ⟨later, []⟩ :=
    .silent handlers (by simp only [Counts.capture]; omega)
  simp only [Strand.act, noted]
  cases reply with
  | done | pending | halted | run | foreign => exact ⟨0, .silent handlers exact, fun _ => rfl⟩
  | throw mode record => exact settled_throw quiet (captured rfl)
  | raise mode record => exact settled_raise quiet rfl (captured rfl)
  | raiseHeld mode record => exact settled_raise quiet rfl (.silent handlers exact)

theorem settled_leave {frame : Frame ι κ}
    (handlers : counts.handlers = regionsOn (frame :: frames))
    (live : counts.live = held state + recordsOn (frame :: frames)) :
    Settled held (Strand.leave host.watched ⟨.run [], frame :: frames, counts⟩ frame frames
      ⟨state, []⟩) := by
  rw [recordsOn_cons] at live
  cases frame with
  | protect site handler rest =>
    have left : Level held 0 counts.leaveRegion frames ⟨state, []⟩ :=
      .afterRegion (by simpa using handlers) (by simpa [Frame.records] using live)
    exact ⟨0, left.hear quiet _ fun _ => rfl, fun _ => rfl⟩
  | outermost site rest =>
    have left : Level held 0 counts.leaveRegion frames ⟨state, []⟩ :=
      .afterRegion (by simpa using handlers) (by simpa [Frame.records] using live)
    exact ⟨0, left.hear quiet _ fun _ => rfl, fun _ => rfl⟩
  | guarded site cleanup rest =>
    have cleaning : Level held 0 counts (.cleaning none rest :: frames) ⟨state, []⟩ :=
      .silent (by simpa using handlers) (by simpa [Frame.records] using live)
    exact ⟨0, cleaning.hear quiet _ fun _ => rfl, fun _ => rfl⟩
  | cleaning pending rest =>
    cases pending with
    | none =>
      have popped : Level held 0 counts frames ⟨state, []⟩ :=
        .silent (by simpa using handlers) (by simpa [Frame.records] using live)
      exact ⟨0, popped, fun _ => rfl⟩
    | some payload =>
      have goesOn : Level held payload.records counts frames ⟨state, []⟩ :=
        .silent (by simpa using handlers) (by simpa [Frame.records, Nat.add_assoc] using live)
      exact ⟨payload.records, goesOn, fun _ => rfl⟩
  | intercept site resume rest =>
    have popped : Level held 0 counts frames ⟨state, []⟩ :=
      .silent (by simpa using handlers) (by simpa [Frame.records] using live)
    have told := popped.hear quiet (.intercepted site none) fun _ => rfl
    exact ⟨0, told.hear quiet _ fun _ => rfl, fun _ => rfl⟩

theorem settled_unwindFrame {payload : Payload} {frame : Frame ι κ}
    (handlers : counts.handlers = regionsOn (frame :: frames))
    (live : counts.live = held state + payload.records + recordsOn (frame :: frames)) :
    Settled held (Strand.unwindFrame host.watched ⟨.unwind payload, frame :: frames, counts⟩
      payload frame frames ⟨state, []⟩) := by
  rw [recordsOn_cons] at live
  cases frame with
  | protect site handler rest =>
    have left : Level held payload.records counts.leaveRegion frames ⟨state, []⟩ :=
      .afterRegion (by simpa using handlers) (by simpa [Frame.records] using live)
    cases payload with
    | managed record =>
      have taken := left.hear quiet (.caught record.throwable) fun _ => rfl
      have released := taken.release quiet record
      exact ⟨0, released.hear quiet _ fun _ => rfl, fun _ => rfl⟩
    | foreign message => exact ⟨0, left, fun _ => rfl⟩
  | outermost site rest =>
    have left : Level held payload.records counts.leaveRegion frames ⟨state, []⟩ :=
      .afterRegion (by simpa using handlers) (by simpa [Frame.records] using live)
    cases payload with
    | managed record => exact ⟨1, left.hear quiet _ fun _ => rfl, fun _ => rfl⟩
    | foreign message =>
      exact ⟨0, left.hear quiet _ fun _ => rfl, fun running => absurd rfl running⟩
  | guarded site cleanup rest =>
    have cleaning : Level held 0 counts (.cleaning (some payload) rest :: frames) ⟨state, []⟩ :=
      .silent (by simpa using handlers) (by simpa [Frame.records, Nat.add_assoc] using live)
    exact ⟨0, cleaning.hear quiet _ fun _ => rfl, fun _ => rfl⟩
  | cleaning pending rest =>
    cases pending with
    | none =>
      have popped : Level held payload.records counts frames ⟨state, []⟩ :=
        .silent (by simpa using handlers) (by simpa [Frame.records] using live)
      exact ⟨payload.records, popped, fun _ => rfl⟩
    | some pending =>
      have dropped : Level held (payload.records + pending.records) counts frames ⟨state, []⟩ := by
        refine .silent (by simpa using handlers) ?_
        simp only [Frame.records] at live
        omega
      exact ⟨_, dropped.hear quiet .cleanupEscaped fun ordinary => absurd rfl ordinary,
        fun running => absurd rfl running⟩
  | intercept site resume rest =>
    have popped : Level held payload.records counts frames ⟨state, []⟩ :=
      .silent (by simpa using handlers) (by simpa [Frame.records] using live)
    have told := popped.hear quiet (.intercepted site (some payload)) fun _ => rfl
    cases resume with
    | true => exact ⟨payload.records, told, fun _ => rfl⟩
    | false =>
      cases payload with
      | managed record =>
        have released := told.release quiet record
        exact ⟨0, released.hear quiet _ fun _ => rfl, fun _ => rfl⟩
      | foreign message => exact ⟨0, told.hear quiet _ fun _ => rfl, fun _ => rfl⟩

theorem settled_exit {unreleased : Option ExceptionRecord}
    (handlers : counts.handlers = regionsOn frames)
    (live : counts.live = held state +
      (Control.exiting unreleased : Control ι κ).records + recordsOn frames) :
    Settled held (Strand.exit host.watched ⟨.exiting unreleased, frames, counts⟩ unreleased
      ⟨state, []⟩) := by
  cases unreleased with
  | some record =>
    have level : Level held 1 counts frames ⟨state, []⟩ := .silent handlers live
    exact ⟨0, level.release quiet record, fun _ => rfl⟩
  | none =>
    have level : Level held 0 counts frames ⟨state, []⟩ := .silent handlers live
    exact ⟨0, level.hear quiet .exited fun _ => rfl, fun running => absurd rfl running⟩

theorem settled_step (steady : host.Steady) (balanced : Balanced host held strand state)
    (goesOn : strand.control ≠ .halted) (exact : Exact (held state) strand) :
    Settled held (strand.step host.watched ⟨state, []⟩) := by
  obtain ⟨control, frames, counts⟩ := strand
  obtain ⟨handlers, live⟩ := exact
  cases control with
  | returned => exact ⟨0, .silent handlers (live (by rintro ⟨⟩)), fun _ => rfl⟩
  | died payload => exact ⟨payload.records, .silent handlers (live (by rintro ⟨⟩)), fun _ => rfl⟩
  | halted => exact absurd rfl goesOn
  | exiting unreleased => exact settled_exit quiet handlers (live (by rintro ⟨⟩))
  | run todo =>
    replace live : counts.live = held state + recordsOn frames := live (by rintro ⟨⟩)
    cases todo with
    | nil =>
      cases frames with
      | nil => exact ⟨0, .silent handlers live, fun _ => rfl⟩
      | cons frame frames => exact settled_leave quiet handlers live
    | cons code todo =>
      cases code with
      | act instruction => exact settled_act quiet steady balanced handlers live
      | block body => exact ⟨0, .silent handlers live, fun _ => rfl⟩
      | protect site body handler =>
        have entered : Level held 0 counts.enterRegion (.protect site handler todo :: frames)
            ⟨state, []⟩ :=
          .silent (by simpa [Counts.enterRegion] using handlers)
            (by simpa [Frame.records, Counts.enterRegion] using live)
        exact ⟨0, entered, fun _ => rfl⟩
      | outermost site body =>
        have entered : Level held 0 counts.enterRegion (.outermost site todo :: frames)
            ⟨state, []⟩ :=
          .silent (by simpa [Counts.enterRegion] using handlers)
            (by simpa [Frame.records, Counts.enterRegion] using live)
        exact ⟨0, entered, fun _ => rfl⟩
      | guarded site body cleanup =>
        have entered : Level held 0 counts (.guarded site cleanup todo :: frames) ⟨state, []⟩ :=
          .silent (by simpa using handlers) (by simpa [Frame.records] using live)
        exact ⟨0, entered, fun _ => rfl⟩
      | intercept site resume body =>
        have entered : Level held 0 counts (.intercept site resume todo :: frames) ⟨state, []⟩ :=
          .silent (by simpa using handlers) (by simpa [Frame.records] using live)
        exact ⟨0, entered, fun _ => rfl⟩
  | unwind payload =>
    replace live := live (by rintro ⟨⟩)
    cases frames with
    | nil => exact ⟨payload.records, .silent handlers live, fun _ => rfl⟩
    | cons frame frames => exact settled_unwindFrame quiet handlers live

/-- A step keeps the counters exact, and they are so at every point that it tells. -/
theorem exact_step (steady : host.Steady) (balanced : Balanced host held strand state)
    (exact : Exact (held state) strand) :
    Exact (held (strand.step host state).2) (strand.step host state).1 ∧
      ∀ point ∈ strand.told host state,
        point.1.handlers = regionsOn (strand.step host state).1.frames ∧
        (point.2 ≠ .cleanupEscaped → point.1.live = held (strand.step host state).2 +
          point.2.inHand + recordsOn (strand.step host state).1.frames) := by
  by_cases stopped : strand.control = .halted
  · obtain ⟨control, frames, counts⟩ := strand
    obtain rfl : control = .halted := stopped
    exact ⟨exact, fun _ member => (List.not_mem_nil member).elim⟩
  · obtain ⟨inHand, level, rest⟩ := settled_step quiet steady balanced stopped exact
    obtain ⟨same, surroundings⟩ := Strand.step_watched host strand ⟨state, []⟩
    obtain ⟨handlers, live, told⟩ := level
    rw [same] at handlers live told rest
    rw [surroundings] at live told
    exact ⟨⟨handlers, fun running => rest running ▸ live⟩, told⟩

end

theorem frames_act {host : Host ι κ σ} (strand : Strand ι κ) (instruction : ι)
    (todo : List (Code ι κ)) (state : σ) :
    (strand.act host instruction todo state).1.frames = strand.frames := by
  rcases answered : host.perform strand.counts strand.frames.length instruction state with
    ⟨reply, counts, later⟩
  simp only [Strand.act, answered]
  cases reply with
  | done | pending | halted | run | foreign => rfl
  | throw => simp only [Strand.throw]; split <;> rfl
  | raise | raiseHeld => simp only [Strand.raise]; split <;> rfl

/-- A catch region ends when its body does, when it takes an exception, or when a foreign unwind
passes it. -/
theorem region_ends {host : Host ι κ σ} {strand : Strand ι κ} {state : σ} {site : κ}
    {handler todo : List (Code ι κ)} {base : List (Frame ι κ)}
    (innermost : strand.frames = .protect site handler todo :: base)
    (left : (strand.step host state).1.frames = base) :
    (strand.control = .run [] ∧ (strand.step host state).1.control = .run todo) ∨
      (∃ record, strand.control = .unwind (.managed record) ∧
        (strand.step host state).1.control = .run (handler ++ todo)) ∨
      ∃ message, strand.control = .unwind (.foreign message) ∧
        (strand.step host state).1.control = .unwind (.foreign message) := by
  obtain ⟨control, frames, counts⟩ := strand
  obtain rfl : frames = .protect site handler todo :: base := innermost
  have inside (above : List (Frame ι κ)) : above ++ .protect site handler todo :: base ≠ base := by
    intro same
    have lengths := congrArg List.length same
    simp only [List.length_append, List.length_cons] at lengths
    omega
  cases control with
  | returned | died | halted => exact absurd left (inside [])
  | exiting held => cases held <;> exact absurd left (inside [])
  | run todo =>
    cases todo with
    | nil => exact .inl ⟨rfl, rfl⟩
    | cons code todo =>
      cases code with
      | act instruction =>
        exact absurd ((frames_act ..).symm.trans left) (inside [])
      | block => exact absurd left (inside [])
      | protect | guarded | intercept | outermost => exact absurd left (inside [_])
  | unwind payload =>
    cases payload with
    | managed record => exact .inr (.inl ⟨record, rfl, rfl⟩)
    | foreign message => exact .inr (.inr ⟨message, rfl, rfl⟩)

end ManagedRuntime.Exception
