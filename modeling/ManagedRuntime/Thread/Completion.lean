/-! The end of a thread and the callers that wait for it. One caller may own the system's handle
of the thread; the others rely on a flag that the thread sets, under a latch, when its body has
returned. A body that an exception would leave does not return: it ends the process, and the flag
is never set. -/
namespace ManagedRuntime

/-- Where a caller stands in joining a thread; `timed` callers give up when their time is over. -/
inductive JoinPhase
  | idle
  | taking
  /-- Owns the handle and sleeps until the thread is gone. -/
  | attached
  | locking (timed : Bool)
  /-- Holds the latch and looks at the flag. -/
  | checking (timed : Bool)
  | asleep (timed : Bool)
  /-- Woken by the thread, or by its own clock when `expired`; wants the latch. -/
  | woken (timed expired : Bool)
  | answered (ended : Bool)
deriving DecidableEq, Repr

/-- Where the thread itself stands. -/
inductive EndingPhase
  | running
  /-- The body is over; the flag is not set. -/
  | returned
  /-- Holds the latch. -/
  | marking
  /-- The flag is set; sleepers are still to be woken. -/
  | announcing
  | leaving
  | gone
deriving DecidableEq, Repr

structure Completion where
  phase : EndingPhase := .running
  done : Bool := false
  handleFree : Bool := true
  /-- Whoever holds the latch; the thread itself is `none` inside. -/
  latch : Option (Option Nat) := none
  sleepers : List Nat := []
  /-- Phases of callers that are not idle. -/
  callers : List (Nat × JoinPhase) := []
deriving DecidableEq, Repr

namespace Completion

def caller (completion : Completion) (me : Nat) : JoinPhase :=
  (completion.callers.lookup me).getD .idle

def setCaller (completion : Completion) (me : Nat) (phase : JoinPhase) : Completion :=
  let others := completion.callers.filter (·.1 != me)
  { completion with callers := if phase = .idle then others else (me, phase) :: others }

def isGone (completion : Completion) : Bool := completion.phase == .gone

def wake (completion : Completion) (expired : Bool) (me : Nat) : Completion :=
  match completion.caller me with
  | .asleep timed =>
      { completion with sleepers := completion.sleepers.filter (· != me) }.setCaller me
        (.woken timed expired)
  | _ => completion

/-- A timed caller's clock runs out. -/
def expire (completion : Completion) (me : Nat) : Completion :=
  match completion.caller me with
  | .asleep true => completion.wake true me
  | _ => completion

/-- One step of a caller, if it can make one. -/
def stepCaller (completion : Completion) (me : Nat) : Option Completion :=
  match completion.caller me with
  | .idle | .asleep _ | .answered _ => none
  | .taking =>
    if completion.handleFree then
      some ({ completion with handleFree := false }.setCaller me .attached)
    else some (completion.setCaller me (.locking false))
  | .attached => if completion.isGone then some (completion.setCaller me (.answered true)) else none
  | .locking timed =>
    if completion.latch = none then
      some ({ completion with latch := some (some me) }.setCaller me (.checking timed))
    else none
  | .checking timed =>
    let unlatched := { completion with latch := none }
    if completion.done then some (unlatched.setCaller me (.answered true))
    else
      some ({ unlatched with sleepers := completion.sleepers ++ [me] }.setCaller me (.asleep timed))
  | .woken true expired =>
    if completion.latch = none then
      some (completion.setCaller me (.answered (!expired || completion.done)))
    else none
  | .woken false _ =>
    if completion.latch = none then
      some ({ completion with latch := some (some me) }.setCaller me (.checking false))
    else none

/-- One step of the thread behind its body, if it can make one. -/
def stepThread (completion : Completion) : Option Completion :=
  match completion.phase with
  | .running | .gone => none
  | .returned =>
    if completion.latch = none then
      some { completion with latch := some none, phase := .marking }
    else none
  | .marking => some { completion with done := true, latch := none, phase := .announcing }
  | .announcing =>
    some { completion.sleepers.foldl (wake · false) completion with phase := .leaving }
  | .leaving => some { completion with phase := .gone }

def advanceCaller (completion : Completion) (me : Nat) : Nat → Completion
  | 0 => completion
  | fuel + 1 =>
    match completion.stepCaller me with
    | none => completion
    | some stepped => stepped.advanceCaller me fuel

/-- Steps until the caller sleeps or has its answer; four steps are enough. -/
def join (completion : Completion) (me : Nat) : Completion :=
  (completion.setCaller me .taking).advanceCaller me 4

def joinTimed (completion : Completion) (me : Nat) : Completion :=
  (completion.setCaller me (.locking true)).advanceCaller me 4

def advanceThread (completion : Completion) : Nat → Completion
  | 0 => completion
  | fuel + 1 =>
    match completion.stepThread with
    | none => completion
    | some stepped => stepped.advanceThread fuel

/-- The body is over: the flag is set, sleepers wake, the thread goes. -/
def finish (completion : Completion) : Completion :=
  { completion with phase := .returned }.advanceThread 4

end Completion

end ManagedRuntime
