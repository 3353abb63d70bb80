import ManagedRuntime.Exception.Code

/-! What code does when it is read as nested blocks: every piece has an end of its own, and
regions, cleanups and bottoms decide on the end of what they enclose. There is no stack and no
counter of regions; how many enclose a piece is told by its place. -/
namespace ManagedRuntime.Exception

/-- How a piece of code ends. -/
inductive Finish
  | normal
  | unwinding (payload : Payload)
  /-- It ended the process. -/
  | ended
  /-- It asked for code that is not part of it, or for a wait. -/
  | stuck
deriving DecidableEq, Repr

/-- The regions and the frames around a piece of code. -/
structure Place where
  regions : Nat := 0
  frames : Nat := 0
deriving DecidableEq, Repr

def Place.inFrame (place : Place) : Place := { place with frames := place.frames + 1 }

def Place.inRegion (place : Place) : Place := ⟨place.regions + 1, place.frames + 1⟩

/-- What code changes as it runs. -/
structure Memory (σ : Type) where
  /-- Records captured and not yet released. -/
  live : Nat
  state : σ

namespace Memory
variable (host : Host ι κ σ)

def tell (place : Place) (memory : Memory σ) (signal : Signal κ) : Memory σ :=
  { memory with state := host.signal ⟨place.regions, memory.live⟩ signal memory.state }

def release (place : Place) (memory : Memory σ) (record : ExceptionRecord) : Memory σ :=
  { memory with live := memory.live - 1 }.tell host place (.released record)

end Memory

/-- A region anywhere around a throw will take it. -/
def Place.isSheltered (place : Place) (mode : UnwindMode) : Prop :=
  mode = .propagate ∧ 0 < place.regions

instance : DecidablePred (Place.isSheltered · mode) :=
  fun place => inferInstanceAs (Decidable (mode = .propagate ∧ 0 < place.regions))

section
variable (host : Host ι κ σ)

def raised (place : Place) (record : ExceptionRecord) (memory : Memory σ) : Finish × Memory σ :=
  (.unwinding (.managed record), memory.tell host place (.raising record.throwable))

/-- An exception that nobody takes is reported, and the process exits. -/
def reported (place : Place) (record : ExceptionRecord) (memory : Memory σ) : Finish × Memory σ :=
  (.ended, ((memory.tell host place (.uncaught record)).release host place record).tell host place
    .exited)

def returnedTo (place : Place) (held : Bool) (record : ExceptionRecord) (memory : Memory σ) :
    Finish × Memory σ :=
  (.normal, (memory.tell host place (.endOfStack held record)).release host place record)

/-- A region takes an exception; it is over before its handler begins. -/
def caught (place : Place) (site : κ) (record : ExceptionRecord) (memory : Memory σ) : Memory σ :=
  ((memory.tell host place (.caught record.throwable)).release host place record).tell host place
    (.regionLeft site (some record.throwable))

/-- An unwind was stopped and goes no further. -/
def discarded (place : Place) (site : κ) (payload : Payload) (memory : Memory σ) : Memory σ :=
  let memory := memory.tell host place (.intercepted site (some payload))
  match payload with
  | .managed record => (memory.release host place record).tell host place (.interceptLeft site)
  | .foreign _ => memory.tell host place (.interceptLeft site)

def evaluateAct (place : Place) (instruction : ι) (memory : Memory σ) : Finish × Memory σ :=
  let (reply, counts, state) :=
    host.perform ⟨place.regions, memory.live⟩ place.frames instruction memory.state
  match reply with
  | .done => (.normal, ⟨counts.live, state⟩)
  | .pending | .run _ => (.stuck, ⟨counts.live, state⟩)
  | .halted => (.ended, ⟨counts.live, state⟩)
  | .throw mode record =>
    if place.isSheltered mode then raised host place record ⟨counts.live + 1, state⟩
    else reported host place record ⟨counts.live + 1, state⟩
  | .raise mode record =>
    if place.isSheltered mode then raised host place record ⟨counts.live + 1, state⟩
    else returnedTo host place false record ⟨counts.live + 1, state⟩
  | .raiseHeld mode record =>
    if place.isSheltered mode then raised host place record ⟨counts.live, state⟩
    else returnedTo host place true record ⟨counts.live, state⟩
  | .foreign message => (.unwinding (.foreign message), ⟨counts.live, state⟩)

mutual

def evaluate (place : Place) (code : Code ι κ) (memory : Memory σ) : Finish × Memory σ :=
  match code with
  | .act instruction => evaluateAct host place instruction memory
  | .block body => evaluateAll place body memory
  | .protect site body handler =>
    match evaluateAll place.inRegion body memory with
    | (.normal, memory) => (.normal, memory.tell host place (.regionLeft site none))
    | (.unwinding (.managed record), memory) =>
      evaluateAll place handler (caught host place site record memory)
    | other => other
  | .guarded site body cleanup =>
    match evaluateAll place.inFrame body memory with
    | (.normal, memory) =>
      evaluateAll place.inFrame cleanup (memory.tell host place (.cleaning site))
    | (.unwinding payload, memory) =>
      match evaluateAll place.inFrame cleanup (memory.tell host place (.cleaning site)) with
      | (.normal, memory) => (.unwinding payload, memory)
      | (.unwinding _, memory) => (.ended, memory.tell host place .cleanupEscaped)
      | other => other
    | other => other
  | .intercept site resume body =>
    match evaluateAll place.inFrame body memory with
    | (.normal, memory) =>
      (.normal, (memory.tell host place (.intercepted site none)).tell host place
        (.interceptLeft site))
    | (.unwinding payload, memory) =>
      if resume then
        (.unwinding payload, memory.tell host place (.intercepted site (some payload)))
      else (.normal, discarded host place site payload memory)
    | other => other
  | .outermost site body =>
    match evaluateAll place.inRegion body memory with
    | (.normal, memory) => (.normal, memory.tell host place (.outermostLeft site))
    | (.unwinding (.managed record), memory) => reported host place record memory
    | (.unwinding (.foreign _), memory) => (.ended, memory.tell host place .foreignAtBottom)
    | other => other

def evaluateAll (place : Place) (codes : List (Code ι κ)) (memory : Memory σ) :
    Finish × Memory σ :=
  match codes with
  | [] => (.normal, memory)
  | code :: rest =>
    match evaluate place code memory with
    | (.normal, memory) => evaluateAll place rest memory
    | other => other

end

end

end ManagedRuntime.Exception
