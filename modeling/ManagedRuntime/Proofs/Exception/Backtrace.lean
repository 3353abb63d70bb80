import ManagedRuntime.Exception.Record

/-! A backtrace is the innermost part of a stack. Who captures it is shown frames one by one and
says each time whether there is room for another, so the stack is left where the backtrace ends. -/
namespace ManagedRuntime.Exception

/-- A frame that was shown, and whether more were asked for then. -/
structure Shown where
  frame : UInt64
  more : Bool
deriving DecidableEq, Repr

/-- The same visitor, with a list of all frames it was shown. -/
def observed (visit : σ → UInt64 → σ × Bool) (seen : σ × List Shown) (frame : UInt64) :
    (σ × List Shown) × Bool :=
  let (state, more) := visit seen.1 frame
  ((state, seen.2 ++ [⟨frame, more⟩]), more)

/-- A capture, with the frames that are shown for it. -/
def observedCapture (depth : UInt64) (stack : List UInt64) : List UInt64 × List Shown :=
  traceStack depth (observed (keepFrame depth)) ([], []) stack

/-- A walk along a stack: the frames that were shown, and where the visitor is left. -/
inductive Walk (visit : σ → UInt64 → σ × Bool) : σ → List UInt64 → List Shown → σ → Prop
  | finished (state : σ) : Walk visit state [] [] state
  | declined {state after : σ} {frame : UInt64} (rest : List UInt64)
      (answer : visit state frame = (after, false)) :
      Walk visit state (frame :: rest) [⟨frame, false⟩] after
  | next {state after last : σ} {frame : UInt64} {rest : List UInt64} {shown : List Shown}
      (answer : visit state frame = (after, true)) (onward : Walk visit after rest shown last) :
      Walk visit state (frame :: rest) (⟨frame, true⟩ :: shown) last

section
variable {visit : σ → UInt64 → σ × Bool} {state last : σ} {stack : List UInt64}
  {shown : List Shown}

/-- The walk of a visitor under observation is that of the visitor. -/
theorem walkStack_observed (visit : σ → UInt64 → σ × Bool) (state : σ) (stack : List UInt64) :
    ∃ shown, Walk visit state stack shown (walkStack visit state stack) ∧
      ∀ log, walkStack (observed visit) (state, log) stack =
        (walkStack visit state stack, log ++ shown) := by
  induction stack generalizing state with
  | nil => exact ⟨[], .finished state, fun log => by rw [List.append_nil]; rfl⟩
  | cons frame rest ih =>
    rcases answer : visit state frame with ⟨after, more⟩
    cases more with
    | false =>
      refine ⟨[⟨frame, false⟩], ?_, fun log => ?_⟩
      · simp only [walkStack, answer]
        exact .declined rest answer
      · simp only [walkStack, observed, answer]
    | true =>
      obtain ⟨shown, walk, same⟩ := ih after
      refine ⟨⟨frame, true⟩ :: shown, ?_, fun log => ?_⟩
      · simp only [walkStack, answer]
        exact .next answer walk
      · simp only [walkStack, observed, answer]
        exact (same _).trans (by rw [List.append_assoc, List.singleton_append])

/-- Nothing is shown to a visitor that has declined. -/
theorem Walk.stops (walk : Walk visit state stack shown last) {early late : List Shown}
    {call : Shown} (split : shown = early ++ call :: late) (declined : call.more = false) :
    late = [] := by
  induction walk generalizing early with
  | finished => cases early <;> cases split
  | declined =>
    cases early with
    | nil => exact (List.cons.inj split).2.symm
    | cons first early => cases early <;> cases split
  | next answer onward ih =>
    cases early with
    | nil =>
      obtain ⟨rfl, -⟩ := List.cons.inj split
      cases declined
    | cons first early => exact ih (List.cons.inj split).2

/-- With room for at least one frame, as many are kept as there is room for, and just these are
shown. -/
theorem Walk.keeps {depth : UInt64} {kept last : List UInt64}
    (walk : Walk (keepFrame depth) kept stack shown last) (room : kept.length < depth.toNat) :
    shown.map Shown.frame = stack.take (depth.toNat - kept.length) ∧
      last = kept ++ shown.map Shown.frame := by
  induction walk with
  | finished => exact ⟨List.take_nil.symm, (List.append_nil _).symm⟩
  | declined rest answer =>
    obtain ⟨rfl, full⟩ := Prod.mk.inj answer
    have full := of_decide_eq_false full
    rw [List.length_append, List.length_singleton] at full
    obtain ⟨more, left⟩ : ∃ more, depth.toNat - _ = more + 1 :=
      Nat.exists_eq_add_one_of_ne_zero (Nat.sub_ne_zero_of_lt room)
    obtain rfl : more = 0 := by omega
    rw [left]
    exact ⟨rfl, rfl⟩
  | next answer onward ih =>
    obtain ⟨rfl, further⟩ := Prod.mk.inj answer
    have further := of_decide_eq_true further
    obtain ⟨frames, kept⟩ := ih further
    rw [List.length_append, List.length_singleton] at frames
    obtain ⟨more, left⟩ : ∃ more, depth.toNat - _ = more + 1 :=
      Nat.exists_eq_add_one_of_ne_zero (Nat.sub_ne_zero_of_lt room)
    rw [List.map_cons, frames, left, List.take_succ_cons]
    constructor
    · congr 2
      omega
    · rw [kept, frames, List.append_assoc, List.singleton_append]

end

/-- What is kept of a stack, and what is shown for it. -/
structure Truncates (depth : UInt64) (stack : List UInt64) : Prop where
  kept : captureBacktrace depth stack = stack.take depth.toNat
  same : (observedCapture depth stack).1 = captureBacktrace depth stack
  shown : (observedCapture depth stack).2.map Shown.frame = stack.take depth.toNat
  stops : ∀ early call late, (observedCapture depth stack).2 = early ++ call :: late →
    call.more = false → late = []

theorem capture_truncates (depth : UInt64) (stack : List UInt64) : Truncates depth stack := by
  by_cases none : depth = 0
  · subst none
    exact ⟨rfl, rfl, rfl, fun early call late split => by cases early <;> cases split⟩
  · have some : 0 < depth := UInt64.pos_iff_ne_zero.mpr none
    have room : ([] : List UInt64).length < depth.toNat := UInt64.lt_iff_toNat_lt.mp some
    obtain ⟨shown, walk, same⟩ := walkStack_observed (keepFrame depth) [] stack
    obtain ⟨frames, kept⟩ := walk.keeps room
    have seen : observedCapture depth stack = (captureBacktrace depth stack, shown) := by
      simp only [observedCapture, captureBacktrace, traceStack, some, if_true, same,
        List.nil_append]
    constructor
    · rw [captureBacktrace, traceStack, if_pos some, kept, frames]
      rfl
    · rw [seen]
    · rw [seen]
      exact frames
    · rw [seen]
      exact fun early call late => walk.stops

theorem length_captureBacktrace (depth : UInt64) (stack : List UInt64) :
    (captureBacktrace depth stack).length = min depth.toNat stack.length := by
  rw [(capture_truncates depth stack).kept, List.length_take]

end ManagedRuntime.Exception
