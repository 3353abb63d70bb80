import ManagedRuntime.Thread.Token

/-! The monitor of an object: a reentrant lock and a queue of waiting threads, kept consistent by
a latch that a thread holds for a few steps at a time. Waiting gives up every level of the lock
and takes them back before it returns. -/
namespace ManagedRuntime

/-- What a thread asks of a monitor. A checked notifier is compared with the owner first. -/
inductive MonitorRequest
  | enter
  | exit
  | wait
  | notify (all checked : Bool)
deriving DecidableEq, Repr

/-- Where a thread stands in its request. -/
inductive MonitorPhase
  | idle
  | requested (request : MonitorRequest)
  /-- Holds the latch and has not looked at the owner yet. -/
  | inside (request : MonitorRequest)
  /-- Holds the latch and takes the lock at `depth` if it is free. -/
  | acquiring (depth : UInt32) (fresh : Bool)
  /-- Sleeps until a release. -/
  | contending (depth : UInt32) (fresh : Bool)
  /-- Woken by a release; wants the latch. -/
  | summoned (depth : UInt32) (fresh : Bool)
  /-- Left the lock and still has to wake a contender. -/
  | vacating
  /-- Gave up the lock to wait and still has to wake a contender. -/
  | yielding (saved : UInt32)
  | parking (saved : Option UInt32)
  /-- Sleeps until a notification; an owner's depth is saved. -/
  | parked (saved : Option UInt32)
  /-- Woken from waiting; wants the latch. -/
  | roused (saved : Option UInt32)
  | notifying (all : Bool)
deriving DecidableEq, Repr

/-- What a step shows to the outside. -/
inductive MonitorNote
  | entered
  | released
  | misuse (operation : String) (owner : Token)
  | overflow
deriving DecidableEq, Repr

structure Monitor where
  latch : Option Token := none
  owner : Token := nobody
  /-- Levels of the owner, zero without one. -/
  depth : UInt32 := 0
  /-- Threads asleep until a release, in order of arrival. -/
  contenders : List Token := []
  /-- Threads asleep until a notification, in order of arrival. -/
  waiters : List Token := []
  /-- Phases other than idle. -/
  phases : List (Token × MonitorPhase) := []
deriving DecidableEq, Repr

namespace MonitorRequest

def operation : MonitorRequest → String
  | .enter => "enter"
  | .exit => "exit"
  | .wait => "wait"
  | .notify false _ => "notify"
  | .notify true _ => "notifyAll"

end MonitorRequest

namespace Monitor

def phase (monitor : Monitor) (thread : Token) : MonitorPhase :=
  (monitor.phases.lookup thread).getD .idle

def setPhase (monitor : Monitor) (thread : Token) (phase : MonitorPhase) : Monitor :=
  let others := monitor.phases.filter (·.1 != thread)
  { monitor with phases := if phase = .idle then others else (thread, phase) :: others }

def isHeldBy (monitor : Monitor) (thread : Token) : Bool := monitor.owner == thread

def unlatch (monitor : Monitor) : Monitor := { monitor with latch := none }

/-- Wakes the contender that came first. -/
def summon (monitor : Monitor) : Monitor :=
  match monitor.contenders with
  | [] => monitor
  | thread :: rest =>
    let woken := { monitor with contenders := rest }
    match monitor.phase thread with
    | .contending depth fresh => woken.setPhase thread (.summoned depth fresh)
    | _ => woken

/-- Wakes one waiting thread, however that came about. -/
def rouse (monitor : Monitor) (thread : Token) : Monitor :=
  match monitor.phase thread with
  | .parked saved =>
      { monitor with waiters := monitor.waiters.filter (· != thread) }.setPhase thread
        (.roused saved)
  | _ => monitor

def rouseFirst (monitor : Monitor) : Monitor :=
  match monitor.waiters with
  | [] => monitor
  | thread :: _ => monitor.rouse thread

def rouseAll (monitor : Monitor) : Monitor := monitor.waiters.foldl rouse monitor

def finish (monitor : Monitor) (thread : Token) : Monitor := monitor.unlatch.setPhase thread .idle

/-- Begins a request of an idle thread. -/
def begin (monitor : Monitor) (thread : Token) (request : MonitorRequest) : Monitor :=
  monitor.setPhase thread (.requested request)

def latched (monitor : Monitor) (thread : Token) (phase : MonitorPhase) :
    Option (Option MonitorNote × Monitor) :=
  if monitor.latch = none then
    some (none, { monitor with latch := some thread }.setPhase thread phase)
  else none

/-- First look at the owner, with the latch held. -/
def examine (monitor : Monitor) (thread : Token) : MonitorRequest → Option MonitorNote × Monitor
  | .enter =>
    if monitor.owner = thread then
      if monitor.depth.toNat + 1 < UInt32.size then
        (none, { monitor with depth := monitor.depth + 1 }.finish thread)
      else (some .overflow, monitor.finish thread)
    else (none, monitor.setPhase thread (.acquiring 1 true))
  | .exit =>
    if monitor.owner = thread then
      let left : Monitor := { monitor with depth := monitor.depth - 1 }
      if left.depth = 0 then
        (none, { left with owner := nobody }.setPhase thread .vacating)
      else (none, left.finish thread)
    else (some (.misuse "exit" monitor.owner), monitor.finish thread)
  | .wait =>
    if monitor.owner = thread then
      (none, { monitor with owner := nobody, depth := 0 }.setPhase thread (.yielding monitor.depth))
    else (some (.misuse "wait" monitor.owner), monitor.setPhase thread (.parking none))
  | .notify all checked =>
    if checked = true ∧ monitor.owner ≠ thread then
      (some (.misuse (MonitorRequest.notify all checked).operation monitor.owner),
        monitor.unlatch.setPhase thread (.notifying all))
    else (none, monitor.unlatch.setPhase thread (.notifying all))

/-- One step of `thread`, if it can make one. -/
def step (monitor : Monitor) (thread : Token) : Option (Option MonitorNote × Monitor) :=
  match monitor.phase thread with
  | .idle | .contending _ _ | .parked _ => none
  | .requested (.notify all false) => some (none, monitor.setPhase thread (.notifying all))
  | .requested request => monitor.latched thread (.inside request)
  | .inside request => some (monitor.examine thread request)
  | .acquiring depth fresh =>
    if monitor.owner = nobody then
      some (if fresh then some .entered else none,
        { monitor with owner := thread, depth }.finish thread)
    else
      some (none, { monitor.unlatch with contenders := monitor.contenders ++ [thread] }.setPhase
        thread (.contending depth fresh))
  | .summoned depth fresh => monitor.latched thread (.acquiring depth fresh)
  | .vacating => some (some .released, monitor.summon.finish thread)
  | .yielding saved => some (none, monitor.summon.setPhase thread (.parking (some saved)))
  | .parking saved =>
    some (none, { monitor.unlatch with waiters := monitor.waiters ++ [thread] }.setPhase thread
      (.parked saved))
  | .roused (some depth) => monitor.latched thread (.acquiring depth false)
  | .roused none =>
    if monitor.latch = none then some (none, monitor.setPhase thread .idle) else none
  | .notifying all =>
    some (none, (if all then monitor.rouseAll else monitor.rouseFirst).setPhase thread .idle)

end Monitor

end ManagedRuntime
