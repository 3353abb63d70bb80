import ManagedRuntime.Exception.Code

/-! One thread of control as a machine. Raising has two phases: a search, which only looks at the
count of active regions, and the unwind, which walks the frames and runs their cleanups. -/
namespace ManagedRuntime.Exception

inductive Control (ι κ : Type)
  | run (todo : List (Code ι κ))
  | unwind (payload : Payload)
  | returned
  /-- A foreign unwind left the last frame. -/
  | died (payload : Payload)
  /-- An exception was reported. Its record is released next, unless it was already, and then the
  process exits; until then other threads go on. -/
  | exiting (held : Option ExceptionRecord)
  /-- The process ended here. -/
  | halted

/-- A frame and the code that follows it in the body around it. -/
inductive Frame (ι κ : Type)
  | protect (site : κ) (handler rest : List (Code ι κ))
  | guarded (site : κ) (cleanup rest : List (Code ι κ))
  /-- A running cleanup, with the unwind that goes on after it. -/
  | cleaning (suspended : Option Payload) (rest : List (Code ι κ))
  | intercept (site : κ) (resume : Bool) (rest : List (Code ι κ))
  | outermost (site : κ) (rest : List (Code ι κ))

structure Strand (ι κ : Type) where
  control : Control ι κ
  frames : List (Frame ι κ) := []
  counts : Counts := {}

namespace Strand
variable (host : Host ι κ σ)

def release (strand : Strand ι κ) (record : ExceptionRecord) (state : σ) : Strand ι κ × σ :=
  let counts := strand.counts.release
  ({ strand with counts }, host.signal counts (.released record) state)

/-- Search phase. Without an active region, or when regions do not count, the raise comes back. -/
def reachesRegion (mode : UnwindMode) (counts : Counts) : Bool :=
  match mode with
  | .terminate => false
  | .propagate => counts.handlers != 0

def propagate (strand : Strand ι κ) (record : ExceptionRecord) (state : σ) : Strand ι κ × σ :=
  ({ strand with control := .unwind (.managed record) },
    host.signal strand.counts (.raising record.throwable) state)

def uncaught (strand : Strand ι κ) (record : ExceptionRecord) (state : σ) : Strand ι κ × σ :=
  ({ strand with control := .exiting (some record) },
    host.signal strand.counts (.uncaught record) state)

def throw (strand : Strand ι κ) (mode : UnwindMode) (record : ExceptionRecord) (state : σ) :
    Strand ι κ × σ :=
  if reachesRegion mode strand.counts then propagate host strand record state
  else uncaught host strand record state

/-- Unlike a throw, a raise that finds no region is told so and releases its record. -/
def raise (strand : Strand ι κ) (mode : UnwindMode) (held : Bool) (record : ExceptionRecord)
    (state : σ) : Strand ι κ × σ :=
  if reachesRegion mode strand.counts then propagate host strand record state
  else release host strand record (host.signal strand.counts (.endOfStack held record) state)

/-- Carries out one instruction that has `todo` behind it. -/
def act (strand : Strand ι κ) (instruction : ι) (todo : List (Code ι κ)) (state : σ) :
    Strand ι κ × σ :=
  let (reply, counts, state) :=
    host.perform strand.counts strand.frames.length instruction state
  let after : Strand ι κ := { strand with control := .run todo, counts }
  match reply with
  | .done => (after, state)
  | .pending => ({ strand with counts }, state)
  | .halted => ({ after with control := .halted }, state)
  | .run code => ({ after with control := .run (code ++ todo) }, state)
  | .throw mode record => throw host { after with counts := counts.capture } mode record state
  | .raise mode record => raise host { after with counts := counts.capture } mode false record state
  | .raiseHeld mode record => raise host after mode true record state
  | .foreign message => ({ after with control := .unwind (.foreign message) }, state)

def enter (strand : Strand ι κ) (code : Code ι κ) (todo : List (Code ι κ)) (state : σ) :
    Strand ι κ × σ :=
  match code with
  | .act instruction => act host strand instruction todo state
  | .block body => ({ strand with control := .run (body ++ todo) }, state)
  | .protect site body handler =>
      ({ control := .run body, frames := .protect site handler todo :: strand.frames,
         counts := strand.counts.enterRegion }, state)
  | .guarded site body cleanup =>
      ({ strand with control := .run body, frames := .guarded site cleanup todo :: strand.frames },
        state)
  | .intercept site resume body =>
      ({ strand with control := .run body, frames := .intercept site resume todo :: strand.frames },
        state)
  | .outermost site body =>
      ({ control := .run body, frames := .outermost site todo :: strand.frames,
         counts := strand.counts.enterRegion }, state)

/-- The innermost frame ends normally. -/
def leave (strand : Strand ι κ) (frame : Frame ι κ) (frames : List (Frame ι κ)) (state : σ) :
    Strand ι κ × σ :=
  match frame with
  | .protect site _ rest =>
      let counts := strand.counts.leaveRegion
      ({ control := .run rest, frames, counts }, host.signal counts (.regionLeft site none) state)
  | .guarded site cleanup rest =>
      ({ strand with control := .run cleanup, frames := .cleaning none rest :: frames },
        host.signal strand.counts (.cleaning site) state)
  | .cleaning none rest => ({ strand with control := .run rest, frames }, state)
  | .cleaning (some payload) _ => ({ strand with control := .unwind payload, frames }, state)
  | .intercept site _ rest =>
      ({ strand with control := .run rest, frames },
        host.signal strand.counts (.interceptLeft site)
          (host.signal strand.counts (.intercepted site none) state))
  | .outermost site rest =>
      let counts := strand.counts.leaveRegion
      ({ control := .run rest, frames, counts }, host.signal counts (.outermostLeft site) state)

/-- A catch region takes the exception and its handler follows; the record is released. -/
def handle (strand : Strand ι κ) (site : κ) (handler rest : List (Code ι κ))
    (record : ExceptionRecord) (state : σ) : Strand ι κ × σ :=
  let (strand, state) := release host { strand with control := .run (handler ++ rest) } record
    (host.signal strand.counts (.caught record.throwable) state)
  (strand, host.signal strand.counts (.regionLeft site (some record.throwable)) state)

/-- An intercepted unwind goes no further. -/
def discard (strand : Strand ι κ) (site : κ) (payload : Payload) (state : σ) : Strand ι κ × σ :=
  let (strand, state) :=
    match payload with
    | .managed record => release host strand record state
    | .foreign _ => (strand, state)
  (strand, host.signal strand.counts (.interceptLeft site) state)

/-- The innermost frame is unwound. -/
def unwindFrame (strand : Strand ι κ) (payload : Payload) (frame : Frame ι κ)
    (frames : List (Frame ι κ)) (state : σ) : Strand ι κ × σ :=
  match frame with
  | .protect site handler rest =>
      let strand := { strand with frames, counts := strand.counts.leaveRegion }
      match payload with
      | .managed record => handle host strand site handler rest record state
      | .foreign _ => (strand, state)
  | .guarded site cleanup rest =>
      ({ strand with control := .run cleanup, frames := .cleaning (some payload) rest :: frames },
        host.signal strand.counts (.cleaning site) state)
  | .cleaning none _ => ({ strand with frames }, state)
  | .cleaning (some _) _ =>
      ({ strand with control := .halted, frames }, host.signal strand.counts .cleanupEscaped state)
  | .intercept site resume rest =>
      let state := host.signal strand.counts (.intercepted site (some payload)) state
      if resume then ({ strand with frames }, state)
      else discard host { strand with control := .run rest, frames } site payload state
  | .outermost _ _ =>
      let strand := { strand with frames, counts := strand.counts.leaveRegion }
      match payload with
      | .managed record => uncaught host strand record state
      | .foreign _ =>
          ({ strand with control := .halted }, host.signal strand.counts .foreignAtBottom state)

/-- What is left to do after a report. -/
def exit (strand : Strand ι κ) (held : Option ExceptionRecord) (state : σ) : Strand ι κ × σ :=
  match held with
  | some record => release host { strand with control := .exiting none } record state
  | none => ({ strand with control := .halted }, host.signal strand.counts .exited state)

/-- One step of the thread. A thread that returned, died or halted stays as it is. -/
def step (strand : Strand ι κ) (state : σ) : Strand ι κ × σ :=
  match strand.control, strand.frames with
  | .run (code :: todo), _ => enter host strand code todo state
  | .run [], [] => ({ strand with control := .returned }, state)
  | .run [], frame :: frames => leave host strand frame frames state
  | .unwind payload, [] => ({ strand with control := .died payload }, state)
  | .unwind payload, frame :: frames => unwindFrame host strand payload frame frames state
  | .exiting held, _ => exit host strand held state
  | .returned, _ => (strand, state)
  | .died _, _ => (strand, state)
  | .halted, _ => (strand, state)

end Strand

end ManagedRuntime.Exception
