import ManagedRuntime.Monitor.Basic
import ManagedRuntime.Proofs.Lookup

/-! Where threads stand in their requests, as a function of the thread. Every operation of a
monitor is told by its fields and by what it does to that function. -/
namespace ManagedRuntime

namespace MonitorPhase

/-- The thread is between taking the latch and letting go of it. -/
def isLatched : MonitorPhase → Bool
  | .vacating | .inside _ | .acquiring _ _ | .yielding _ | .parking _ => true
  | _ => false

def isContending : MonitorPhase → Bool
  | .contending _ _ => true
  | _ => false

def isSummoned : MonitorPhase → Bool
  | .summoned _ _ => true
  | _ => false

def isParked : MonitorPhase → Bool
  | .parked _ => true
  | _ => false

/-- The depth that an owner's wait has to give back, until it has. -/
def saved : MonitorPhase → Option UInt32
  | .yielding depth => some depth
  | .parking saved | .parked saved | .roused saved => saved
  | .acquiring depth false | .contending depth false | .summoned depth false => some depth
  | _ => none

/-- The depth at which an enter goes on to take the lock. -/
def entryDepth : MonitorPhase → Option UInt32
  | .acquiring depth true | .contending depth true | .summoned depth true => some depth
  | _ => none

/-- Gave up the lock and still has the latch. -/
def hasLetGo : MonitorPhase → Bool
  | .vacating | .yielding _ | .parking (some _) => true
  | _ => false

/-- A contender after it was woken. -/
def summon : MonitorPhase → MonitorPhase
  | .contending depth fresh => .summoned depth fresh
  | phase => phase

/-- A waiting thread after it was woken. -/
def rouse : MonitorPhase → MonitorPhase
  | .parked saved => .roused saved
  | phase => phase

@[simp] theorem saved_contending (depth : UInt32) (fresh : Bool) :
    (contending depth fresh).saved = (acquiring depth fresh).saved := by cases fresh <;> rfl
@[simp] theorem saved_summoned (depth : UInt32) (fresh : Bool) :
    (summoned depth fresh).saved = (acquiring depth fresh).saved := by cases fresh <;> rfl
@[simp] theorem entryDepth_contending (depth : UInt32) (fresh : Bool) :
    (contending depth fresh).entryDepth = (acquiring depth fresh).entryDepth := by
  cases fresh <;> rfl
@[simp] theorem entryDepth_summoned (depth : UInt32) (fresh : Bool) :
    (summoned depth fresh).entryDepth = (acquiring depth fresh).entryDepth := by
  cases fresh <;> rfl

@[simp] theorem isLatched_summon (phase : MonitorPhase) :
    phase.summon.isLatched = phase.isLatched := by cases phase <;> rfl
@[simp] theorem isContending_summon (phase : MonitorPhase) :
    phase.summon.isContending = false := by cases phase <;> rfl
@[simp] theorem isSummoned_summon (phase : MonitorPhase) :
    phase.summon.isSummoned = (phase.isContending || phase.isSummoned) := by cases phase <;> rfl
@[simp] theorem isParked_summon (phase : MonitorPhase) :
    phase.summon.isParked = phase.isParked := by cases phase <;> rfl
@[simp] theorem saved_summon (phase : MonitorPhase) :
    phase.summon.saved = phase.saved := by
  rcases phase with _ | _ | _ | _ | ⟨_, _ | _⟩ <;> rfl
@[simp] theorem entryDepth_summon (phase : MonitorPhase) :
    phase.summon.entryDepth = phase.entryDepth := by
  rcases phase with _ | _ | _ | _ | ⟨_, _ | _⟩ <;> rfl
@[simp] theorem hasLetGo_summon (phase : MonitorPhase) :
    phase.summon.hasLetGo = phase.hasLetGo := by cases phase <;> rfl

@[simp] theorem isLatched_rouse (phase : MonitorPhase) :
    phase.rouse.isLatched = phase.isLatched := by cases phase <;> rfl
@[simp] theorem isContending_rouse (phase : MonitorPhase) :
    phase.rouse.isContending = phase.isContending := by cases phase <;> rfl
@[simp] theorem isSummoned_rouse (phase : MonitorPhase) :
    phase.rouse.isSummoned = phase.isSummoned := by cases phase <;> rfl
@[simp] theorem isParked_rouse (phase : MonitorPhase) :
    phase.rouse.isParked = false := by cases phase <;> rfl
@[simp] theorem saved_rouse (phase : MonitorPhase) :
    phase.rouse.saved = phase.saved := by cases phase <;> rfl
@[simp] theorem entryDepth_rouse (phase : MonitorPhase) :
    phase.rouse.entryDepth = phase.entryDepth := by cases phase <;> rfl
@[simp] theorem hasLetGo_rouse (phase : MonitorPhase) :
    phase.rouse.hasLetGo = phase.hasLetGo := by cases phase <;> rfl

end MonitorPhase

namespace Monitor

theorem phase_setPhase (monitor : Monitor) (thread other : Token) (phase : MonitorPhase) :
    (monitor.setPhase thread phase).phase other =
      if other = thread then phase else monitor.phase other :=
  getD_lookup_put ..

theorem phase_setPhase_self (monitor : Monitor) (thread : Token) (phase : MonitorPhase) :
    (monitor.setPhase thread phase).phase thread = phase := by
  rw [phase_setPhase, if_pos rfl]

theorem phase_setPhase_ne (monitor : Monitor) (phase : MonitorPhase) (different : other ≠ thread) :
    (monitor.setPhase thread phase).phase other = monitor.phase other := by
  rw [phase_setPhase, if_neg different]

/-- Wakes a contender that nothing summoned. -/
def stir (monitor : Monitor) (thread : Token) : Monitor :=
  match monitor.phase thread with
  | .contending depth fresh =>
      { monitor with contenders := monitor.contenders.filter (· != thread) }.setPhase thread
        (.summoned depth fresh)
  | _ => monitor

section
variable (monitor : Monitor) (thread : Token) (phase : MonitorPhase)

/-- Updates of other fields leave the phases alone. -/
@[simp] theorem phase_update (latch owner depth contenders waiters) :
    Monitor.phase ⟨latch, owner, depth, contenders, waiters, monitor.phases⟩ thread =
      monitor.phase thread := rfl

@[simp] theorem latch_setPhase : (monitor.setPhase thread phase).latch = monitor.latch := rfl
@[simp] theorem owner_setPhase : (monitor.setPhase thread phase).owner = monitor.owner := rfl
@[simp] theorem depth_setPhase : (monitor.setPhase thread phase).depth = monitor.depth := rfl
@[simp] theorem contenders_setPhase :
    (monitor.setPhase thread phase).contenders = monitor.contenders := rfl
@[simp] theorem waiters_setPhase : (monitor.setPhase thread phase).waiters = monitor.waiters := rfl

@[simp] theorem latch_summon : monitor.summon.latch = monitor.latch := by
  unfold summon
  split
  · rfl
  · split <;> rfl

@[simp] theorem owner_summon : monitor.summon.owner = monitor.owner := by
  unfold summon
  split
  · rfl
  · split <;> rfl

@[simp] theorem depth_summon : monitor.summon.depth = monitor.depth := by
  unfold summon
  split
  · rfl
  · split <;> rfl

@[simp] theorem waiters_summon : monitor.summon.waiters = monitor.waiters := by
  unfold summon
  split
  · rfl
  · split <;> rfl

@[simp] theorem contenders_summon : monitor.summon.contenders = monitor.contenders.tail := by
  unfold summon
  split
  · simp [*]
  · split <;> simp [*]

theorem phase_summon (other : Token) :
    monitor.summon.phase other =
      if monitor.contenders.head? = some other then (monitor.phase other).summon
      else monitor.phase other := by
  unfold summon
  split
  · simp [*]
  · next first rest queued =>
    simp only [queued, List.head?_cons, Option.some.injEq]
    by_cases same : first = other
    · subst first
      split
      · next depth fresh here => simp [phase_setPhase, here, MonitorPhase.summon]
      · next elsewhere =>
        have kept : (monitor.phase other).summon = monitor.phase other := by
          cases here : monitor.phase other <;> simp_all [MonitorPhase.summon]
        simp [kept]
    · have other_ne : other ≠ first := fun equal => same equal.symm
      split <;> simp [phase_setPhase, same, other_ne]

@[simp] theorem latch_stir : (monitor.stir thread).latch = monitor.latch := by
  unfold stir
  split <;> rfl

@[simp] theorem owner_stir : (monitor.stir thread).owner = monitor.owner := by
  unfold stir
  split <;> rfl

@[simp] theorem depth_stir : (monitor.stir thread).depth = monitor.depth := by
  unfold stir
  split <;> rfl

@[simp] theorem waiters_stir : (monitor.stir thread).waiters = monitor.waiters := by
  unfold stir
  split <;> rfl

theorem contenders_stir :
    (monitor.stir thread).contenders =
      if (monitor.phase thread).isContending then monitor.contenders.filter (· != thread)
      else monitor.contenders := by
  unfold stir
  split <;> simp_all [MonitorPhase.isContending]

theorem phase_stir (other : Token) :
    (monitor.stir thread).phase other =
      if other = thread then (monitor.phase thread).summon else monitor.phase other := by
  unfold stir
  split
  · next depth fresh here => simp [phase_setPhase, here, MonitorPhase.summon]
  · next elsewhere =>
    have kept : (monitor.phase thread).summon = monitor.phase thread := by
      cases here : monitor.phase thread <;> simp_all [MonitorPhase.summon]
    by_cases same : other = thread <;> simp [same, kept]

/-- A contender that wakes changes nothing that a woken one has in common with it. -/
theorem view_stir {view : MonitorPhase → α} (kept : ∀ phase, view phase.summon = view phase)
    (other : Token) : view ((monitor.stir thread).phase other) = view (monitor.phase other) := by
  rw [phase_stir]
  split
  · next same => rw [kept, same]
  · rfl

@[simp] theorem latch_rouse : (monitor.rouse thread).latch = monitor.latch := by
  unfold rouse
  split <;> rfl

@[simp] theorem owner_rouse : (monitor.rouse thread).owner = monitor.owner := by
  unfold rouse
  split <;> rfl

@[simp] theorem depth_rouse : (monitor.rouse thread).depth = monitor.depth := by
  unfold rouse
  split <;> rfl

@[simp] theorem contenders_rouse : (monitor.rouse thread).contenders = monitor.contenders := by
  unfold rouse
  split <;> rfl

theorem waiters_rouse :
    (monitor.rouse thread).waiters =
      if (monitor.phase thread).isParked then monitor.waiters.filter (· != thread)
      else monitor.waiters := by
  unfold rouse
  split <;> simp_all [MonitorPhase.isParked]

theorem phase_rouse (other : Token) :
    (monitor.rouse thread).phase other =
      if other = thread then (monitor.phase thread).rouse else monitor.phase other := by
  unfold rouse
  split
  · next saved here => simp [phase_setPhase, here, MonitorPhase.rouse]
  · next elsewhere =>
    have kept : (monitor.phase thread).rouse = monitor.phase thread := by
      cases here : monitor.phase thread <;> simp_all [MonitorPhase.rouse]
    by_cases same : other = thread <;> simp [same, kept]

theorem view_rouse {view : MonitorPhase → α} (kept : ∀ phase, view phase.rouse = view phase)
    (other : Token) : view ((monitor.rouse thread).phase other) = view (monitor.phase other) := by
  rw [phase_rouse]
  split
  · next same => rw [kept, same]
  · rfl

end

/-- Whatever waking a waiting thread keeps, waking any number of them keeps. -/
theorem foldl_rouse_eq (view : Monitor → α) (kept : ∀ monitor thread,
    view (rouse monitor thread) = view monitor) (threads : List Token) (monitor : Monitor) :
    view (threads.foldl rouse monitor) = view monitor := by
  induction threads generalizing monitor with
  | nil => rfl
  | cons thread rest ih => simp only [List.foldl_cons, ih, kept]

theorem phase_foldl_rouse (threads : List Token) (monitor : Monitor) (other : Token) :
    (threads.foldl rouse monitor).phase other =
      if other ∈ threads then (monitor.phase other).rouse else monitor.phase other := by
  induction threads generalizing monitor with
  | nil => simp
  | cons thread rest ih =>
    have again (phase : MonitorPhase) : phase.rouse.rouse = phase.rouse := by
      cases phase <;> rfl
    simp only [List.foldl_cons, ih, phase_rouse, List.mem_cons]
    by_cases same : other = thread
    · subst other
      simp [again]
    · simp [same]

theorem waiters_foldl_rouse (threads : List Token) (monitor : Monitor) :
    (threads.foldl rouse monitor).waiters = monitor.waiters.filter fun waiter =>
      !(threads.contains waiter && (monitor.phase waiter).isParked) := by
  induction threads generalizing monitor with
  | nil => simp [List.filter_eq_self.mpr]
  | cons thread rest ih =>
    have roused (phase : MonitorPhase) : phase.rouse.isParked = false := by cases phase <;> rfl
    rw [List.foldl_cons, ih, waiters_rouse]
    split
    · next parked =>
      rw [List.filter_filter]
      apply List.filter_congr
      intro waiter _
      by_cases same : waiter = thread
      · subst waiter
        simp [parked]
      · simp [phase_rouse, same]
    · next awake =>
      apply List.filter_congr
      intro waiter _
      by_cases same : waiter = thread
      · subst waiter
        simp [phase_rouse, roused, awake]
      · simp [phase_rouse, same]

section
variable (monitor : Monitor)

@[simp] theorem latch_rouseAll : monitor.rouseAll.latch = monitor.latch :=
  foldl_rouse_eq (·.latch) latch_rouse _ _
@[simp] theorem owner_rouseAll : monitor.rouseAll.owner = monitor.owner :=
  foldl_rouse_eq (·.owner) owner_rouse _ _
@[simp] theorem depth_rouseAll : monitor.rouseAll.depth = monitor.depth :=
  foldl_rouse_eq (·.depth) depth_rouse _ _
@[simp] theorem contenders_rouseAll : monitor.rouseAll.contenders = monitor.contenders :=
  foldl_rouse_eq (·.contenders) contenders_rouse _ _

theorem phase_rouseAll (other : Token) :
    monitor.rouseAll.phase other =
      if other ∈ monitor.waiters then (monitor.phase other).rouse else monitor.phase other :=
  phase_foldl_rouse _ _ _

/-- The waiting threads of a monitor are all parked, and all of them are taken off. -/
theorem waiters_rouseAll (parked : ∀ waiter ∈ monitor.waiters,
    (monitor.phase waiter).isParked = true) : monitor.rouseAll.waiters = [] := by
  rw [rouseAll, waiters_foldl_rouse, List.filter_eq_nil_iff]
  intro waiter waits
  simp [waits, parked waiter waits]

@[simp] theorem latch_rouseFirst : monitor.rouseFirst.latch = monitor.latch := by
  unfold rouseFirst
  split <;> simp
@[simp] theorem owner_rouseFirst : monitor.rouseFirst.owner = monitor.owner := by
  unfold rouseFirst
  split <;> simp
@[simp] theorem depth_rouseFirst : monitor.rouseFirst.depth = monitor.depth := by
  unfold rouseFirst
  split <;> simp
@[simp] theorem contenders_rouseFirst :
    monitor.rouseFirst.contenders = monitor.contenders := by
  unfold rouseFirst
  split <;> simp

theorem phase_rouseFirst (other : Token) :
    monitor.rouseFirst.phase other =
      if monitor.waiters.head? = some other then (monitor.phase other).rouse
      else monitor.phase other := by
  unfold rouseFirst
  split
  · simp [*]
  · next first _ queued =>
    by_cases same : first = other
    · simp [queued, phase_rouse, same]
    · have other_ne : other ≠ first := fun equal => same equal.symm
      simp [queued, phase_rouse, same, other_ne]

/-- The first waiting thread is parked, and it alone is taken off. -/
theorem waiters_rouseFirst (parked : ∀ waiter ∈ monitor.waiters,
    (monitor.phase waiter).isParked = true) (once : monitor.waiters.Nodup) :
    monitor.rouseFirst.waiters = monitor.waiters.tail := by
  unfold rouseFirst
  split
  · next empty => simp [empty]
  · next first rest queued =>
    have present : first ∈ monitor.waiters := by simp [queued]
    have fresh : first ∉ rest := by
      rw [queued] at once
      exact (List.nodup_cons.mp once).1
    rw [waiters_rouse, if_pos (parked first present), queued, List.tail_cons,
      List.filter_cons_of_neg (by simp), List.filter_eq_self]
    intro waiter waits
    simpa using fun equal : waiter = first => fresh (equal ▸ waits)

end

end Monitor
end ManagedRuntime
