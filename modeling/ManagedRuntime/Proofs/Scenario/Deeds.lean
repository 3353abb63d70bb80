import Mathlib.Logic.Function.Basic
import ManagedRuntime.Proofs.Machine.Requests

/-! What threads have done to an object that they share: their calls, and what happened at its
monitor in these calls and outside of them. -/
namespace ManagedRuntime.Scenario
open Machine
open Monitor (Happening balance)

/-- What threads have done. Of a monitor, a deed says whether it was part of a call. -/
inductive Deed
  | called (me : Nat)
  /-- The field was written. -/
  | stored (me : Nat)
  | returned (me : Nat)
  | monitor (calling : Bool) (object : UInt64) (thread : Token) (happening : Happening)
deriving DecidableEq

namespace Deed

/-- The thread whose call begins. -/
def caller? : Deed → Option Nat
  | .called me => some me
  | _ => none

/-- The thread that writes the field. -/
def writer? : Deed → Option Nat
  | .stored me => some me
  | _ => none

/-- The thread whose call returns. -/
def returner? : Deed → Option Nat
  | .returned me => some me
  | _ => none

def isCall (deed : Deed) : Bool := deed.caller?.isSome

def isStore (deed : Deed) : Bool := deed.writer?.isSome

/-- What happened at an object's monitor, in calls or outside of them. -/
def happenings (calling : Bool) (object : UInt64) (history : List Deed) : Monitor.Log :=
  history.filterMap fun deed =>
    match deed with
    | .monitor inside place thread happening =>
      if inside = calling ∧ place = object then some (thread, happening) else none
    | _ => none

def ofLog (calling : Bool) (log : Machine.Log) : List Deed :=
  log.map fun entry => .monitor calling entry.1 entry.2.1 entry.2.2

theorem happenings_append (calling : Bool) (object : UInt64) (early late : List Deed) :
    happenings calling object (early ++ late) =
      happenings calling object early ++ happenings calling object late :=
  List.filterMap_append

theorem happenings_ofLog (calling inside : Bool) (object : UInt64) (log : Machine.Log) :
    happenings calling object (ofLog inside log) =
      if inside = calling then logAt object log else [] := by
  unfold happenings ofLog logAt
  rw [List.filterMap_map]
  by_cases same : inside = calling
  · simp [same]
  · simp [same]

/-- At monitors nobody calls, writes or returns. -/
theorem countP_ofLog (calling : Bool) (log : Machine.Log) {test : Deed → Bool}
    (other : ∀ inside place thread happening,
      test (.monitor inside place thread happening) = false) :
    (ofLog calling log).countP test = 0 := by
  rw [List.countP_eq_zero]
  intro deed member
  obtain ⟨entry, -, rfl⟩ := List.mem_map.mp member
  exact ne_true_of_eq_false (other ..)

section
variable (history : List Deed) (me : Nat)

theorem count_caller : (history.filterMap caller?).count me = history.count (.called me) := by
  rw [List.count_filterMap, List.count_eq_countP]
  exact List.countP_congr fun deed _ => by cases deed <;> simp [caller?]

theorem count_writer : (history.filterMap writer?).count me = history.count (.stored me) := by
  rw [List.count_filterMap, List.count_eq_countP]
  exact List.countP_congr fun deed _ => by cases deed <;> simp [writer?]

theorem count_returner : (history.filterMap returner?).count me = history.count (.returned me) := by
  rw [List.count_filterMap, List.count_eq_countP]
  exact List.countP_congr fun deed _ => by cases deed <;> simp [returner?]

end

/-- Threads that have written as often as they called have done so all together. -/
theorem countP_isStore {history : List Deed}
    (even : ∀ me, history.count (.stored me) = history.count (.called me)) :
    history.countP isStore = history.countP isCall := by
  have same : (history.filterMap writer?).Perm (history.filterMap caller?) :=
    List.perm_iff_count.mpr fun me => by rw [count_writer, count_caller, even]
  have length := same.length_eq
  rwa [List.length_filterMap_eq_countP, List.length_filterMap_eq_countP] at length

end Deed

/-- Every call that began has returned. -/
def AllReturned (history : List Deed) : Prop :=
  ∀ me, history.count (.called me) = history.count (.returned me)

theorem allReturned_iff {history : List Deed} : AllReturned history ↔
    (history.filterMap Deed.caller?).Perm (history.filterMap Deed.returner?) := by
  simp only [AllReturned, List.perm_iff_count, Deed.count_caller, Deed.count_returner]

instance : DecidablePred AllReturned := fun _ => decidable_of_iff' _ allReturned_iff

/-- What matters of the deeds: how often each thread did what, and the levels that calls hold. -/
structure Ledger where
  calls : Nat → Nat
  stores : Nat → Nat
  returns : Nat → Nat
  written : Nat
  levels : Token → Int

def ledger (object : UInt64) (history : List Deed) : Ledger where
  calls me := history.count (.called me)
  stores me := history.count (.stored me)
  returns me := history.count (.returned me)
  written := history.countP Deed.isStore
  levels := balance (Deed.happenings true object history)

namespace Ledger
variable (ledger : Ledger) (me : Nat)

def afterCall : Ledger :=
  { ledger with calls := Function.update ledger.calls me (ledger.calls me + 1) }

def afterStore : Ledger :=
  { ledger with
    stores := Function.update ledger.stores me (ledger.stores me + 1)
    written := ledger.written + 1 }

def afterReturn : Ledger :=
  { ledger with returns := Function.update ledger.returns me (ledger.returns me + 1) }

def afterMove (calling : Bool) (log : Monitor.Log) : Ledger :=
  { ledger with
    levels := fun thread => ledger.levels thread + if calling then balance log thread else 0 }

@[simp] theorem calls_afterCall : (ledger.afterCall me).calls me = ledger.calls me + 1 :=
  Function.update_self ..

@[simp] theorem stores_afterStore : (ledger.afterStore me).stores me = ledger.stores me + 1 :=
  Function.update_self ..

@[simp] theorem returns_afterReturn : (ledger.afterReturn me).returns me = ledger.returns me + 1 :=
  Function.update_self ..

end Ledger

section
variable (object : UInt64) (history : List Deed)

theorem count_append_update (deed : Nat → Deed) (injective : Function.Injective deed) (me : Nat) :
    (fun index => (history ++ [deed me]).count (deed index)) =
      Function.update (fun index => history.count (deed index)) me
        (history.count (deed me) + 1) := by
  funext index
  rw [Function.update_apply, List.count_append, List.count_singleton]
  by_cases same : index = me
  · simp [same]
  · simp [same, injective.eq_iff, Ne.symm same]

theorem ledger_called (me : Nat) :
    ledger object (history ++ [.called me]) = (ledger object history).afterCall me := by
  have calls := count_append_update history .called (fun _ _ => Deed.called.inj) me
  simp only [ledger, Ledger.afterCall, calls, Deed.happenings_append]
  simp [Deed.happenings, Deed.isStore, Deed.writer?]

theorem ledger_stored (me : Nat) :
    ledger object (history ++ [.stored me]) = (ledger object history).afterStore me := by
  have stores := count_append_update history .stored (fun _ _ => Deed.stored.inj) me
  simp only [ledger, Ledger.afterStore, stores, Deed.happenings_append]
  simp [Deed.happenings, Deed.isStore, Deed.writer?]

theorem ledger_returned (me : Nat) :
    ledger object (history ++ [.returned me]) = (ledger object history).afterReturn me := by
  have returns := count_append_update history .returned (fun _ _ => Deed.returned.inj) me
  simp only [ledger, Ledger.afterReturn, returns, Deed.happenings_append]
  simp [Deed.happenings, Deed.isStore, Deed.writer?]

theorem ledger_ofLog (calling : Bool) (log : Machine.Log) :
    ledger object (history ++ Deed.ofLog calling log) =
      (ledger object history).afterMove calling (logAt object log) := by
  have levels : balance (Deed.happenings true object (history ++ Deed.ofLog calling log)) =
      fun thread => balance (Deed.happenings true object history) thread +
        if calling then balance (logAt object log) thread else 0 := by
    funext thread
    rw [Deed.happenings_append, Deed.happenings_ofLog, Monitor.balance_append]
    cases calling <;> simp [Monitor.balance_nil]
  have unmarked (deed : Deed) (other : ∀ inside place thread happening,
      (Deed.monitor inside place thread happening == deed) = false) :
      (Deed.ofLog calling log).count deed = 0 := Deed.countP_ofLog calling log other
  have calls (me : Nat) := unmarked (.called me) fun _ _ _ _ => rfl
  have stores (me : Nat) := unmarked (.stored me) fun _ _ _ _ => rfl
  have returns (me : Nat) := unmarked (.returned me) fun _ _ _ _ => rfl
  have written : (Deed.ofLog calling log).countP Deed.isStore = 0 :=
    Deed.countP_ofLog calling log fun _ _ _ _ => rfl
  simp only [ledger, Ledger.afterMove, levels, List.count_append, List.countP_append, written,
    calls, stores, returns, Nat.add_zero]

end

end ManagedRuntime.Scenario
