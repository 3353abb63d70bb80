import Mathlib.Algebra.Order.Ring.Nat
import ManagedRuntime.Machine.EntryPoints
import ManagedRuntime.Proofs.Memory.Layout

/-! Entry points and stubs beside the operations they stand for. Both have the same results and
effects, but for refusals, which end the process, and look-ups that find nothing. -/
namespace ManagedRuntime

open Memory

/-! Allocations that are not too large for a layout are not refused. -/

theorem objectLayout?_of_small {size : UInt64} (small : size.toNat < 2 ^ 62) :
    ∃ layout, objectLayout? size = some layout :=
  ⟨_, by rw [objectLayout?_eq, if_pos (by omega)]⟩

theorem Heap.allocateObject_ne_refused (heap : Heap) {size : UInt64} (table : UInt64)
    (small : size.toNat < 2 ^ 62) (reason : Trap) :
    heap.allocateObject size table ≠ .error (.refused reason) := by
  obtain ⟨layout, laid⟩ := objectLayout?_of_small small
  simp only [allocateObject, laid, place]
  split <;> nofun

theorem Heap.allocateArray_ne_refused (heap : Heap) {length : UInt32} {width : UInt64}
    (small : arrayPayload length width < 2 ^ 62) (table : UInt64) (reason : Trap) :
    heap.allocateArray length width table ≠ .error (.refused reason) := by
  have word : (UInt64.ofNat (arrayPayload length width)).toNat = arrayPayload length width := by
    rw [UInt64.toNat_ofNat', Nat.mod_eq_of_lt (by omega)]
  have fits : arrayPayload length width < UInt64.size := by
    simp only [UInt64.size]
    omega
  have object := heap.allocateObject_ne_refused table (word.symm ▸ small)
  simp only [allocateArray, if_pos fits]
  cases made : heap.allocateObject (.ofNat (arrayPayload length width)) table with
  | ok placed => nofun
  | error fault =>
    rintro ⟨⟩
    exact object reason made

namespace Machine

theorem allocated_ne_error {machine : Machine} {outcome : Except AllocationFault (Ref × Heap)}
    (size : UInt64) (accepted : ∀ reason, outcome ≠ .error (.refused reason)) (reason : Trap) :
    (machine.allocated size outcome).1 ≠ .error reason := by
  cases outcome with
  | ok made => nofun
  | error fault =>
    cases fault with
    | exhausted bytes => nofun
    | refused reason => exact absurd rfl (accepted reason)

/-- The array table is never a reason to refuse an allocation. -/
theorem withArrayTable_ne_error {machine : Machine} {reason : Trap}
    {allocate : UInt64 → Machine → Except Trap Ref × Machine}
    (accepted : ∀ table ready, (allocate table ready).1 ≠ .error reason) :
    (machine.withArrayTable allocate).1 ≠ .error reason := by
  unfold withArrayTable
  split
  · exact accepted _ _
  · nofun

/-- The argument array of a program is never too large, for its length has 32 bits. -/
theorem marshalArguments_ne_error (machine : Machine) (arguments : List UInt64) (reason : Trap) :
    (machine.marshalArguments arguments).1 ≠ .error reason := by
  have small : Heap.arrayPayload (UInt32.ofNat (arguments.drop 1).length) Format.referenceSize <
      2 ^ 62 := by
    have bound := (UInt32.ofNat (arguments.drop 1).length).toNat_lt
    have width : Format.referenceSize.toNat = 16 := rfl
    have header : Format.arrayHeaderSize.toNat = 16 := rfl
    simp only [Heap.arrayPayload, width, header]
    omega
  refine withArrayTable_ne_error fun table ready => allocated_ne_error _ (fun refusal => ?_) reason
  have array := ready.heap.allocateArray_ne_refused small table refusal
  rw [Heap.marshalArguments]
  cases made : ready.heap.allocateArray (.ofNat (arguments.drop 1).length)
    Format.referenceSize table with
  | ok placed => nofun
  | error fault =>
    rintro ⟨⟩
    exact array made

theorem newArray_ne_error (machine : Machine) {length : UInt32} {width : UInt64}
    (small : Heap.arrayPayload length width < 2 ^ 62) (reason : Trap) :
    (machine.newArray length width).1 ≠ .error reason := by
  have fits : Heap.arrayPayload length width < UInt64.size := by
    simp only [UInt64.size]
    omega
  simp only [newArray, if_pos fits]
  exact withArrayTable_ne_error fun table ready =>
    allocated_ne_error _ (ready.heap.allocateArray_ne_refused small table) reason

/-- An array has the width of its own elements. -/
theorem copyArray_self_ne_error (machine : Machine) (r : Ref)
    (sourceStart destinationStart count : Int64)
    (reason : Trap) :
    machine.copyArray r sourceStart r destinationStart count ≠ .error reason := by
  simp only [copyArray, Heap.copyArray, ne_eq, not_true_eq_false, if_false]
  split <;> nofun

/-- The results and effects of an operation, or the end of the process for the reason that the
operation was refused. -/
structure Fronts {α : Type} (operation : Except Trap α × Machine) (front : Option α × Machine) :
    Prop where
  passes : ∀ value, operation.1 = .ok value → front = (some value, operation.2)
  traps : ∀ reason, operation.1 = .error reason → front = (none, operation.2.trap reason)

theorem fronts_orTrap (operation : Except Trap α × Machine) :
    Fronts operation (EntryPoint.orTrap operation) := by
  obtain ⟨outcome, machine⟩ := operation
  constructor
  · rintro value rfl
    rfl
  · rintro reason rfl
    rfl

/-- A copy whose positions and count had 32 bits keeps their signs. -/
structure Copies (machine : Machine)
    (copy : Machine → Ref → Int32 → Ref → Int32 → Int32 → Machine) :
    Prop where
  passes : ∀ source sourceStart destination destinationStart count copied,
    machine.copyArray source (.ofInt (sourceStart : Int32).toInt) destination
      (.ofInt (destinationStart : Int32).toInt) (.ofInt (count : Int32).toInt) = .ok copied →
    copy machine source sourceStart destination destinationStart count = copied
  traps : ∀ source sourceStart destination destinationStart count reason,
    machine.copyArray source (.ofInt (sourceStart : Int32).toInt) destination
      (.ofInt (destinationStart : Int32).toInt) (.ofInt (count : Int32).toInt) = .error reason →
    copy machine source sourceStart destination destinationStart count = machine.trap reason

theorem copies_arrayCopy (machine : Machine) : machine.Copies EntryPoint.arrayCopy := by
  constructor
  · intro source sourceStart destination destinationStart count copied done
    simp only [Int64.ofInt_int32ToInt] at done
    simp only [EntryPoint.arrayCopy, done]
  · intro source sourceStart destination destinationStart count reason refused
    simp only [Int64.ofInt_int32ToInt] at refused
    simp only [EntryPoint.arrayCopy, refused]

theorem copies_callArrayCopy (machine : Machine) :
    machine.Copies Native.Stub.callArrayCopy :=
  copies_arrayCopy machine

/-- Every entry point and every stub with code does what the operation behind it does. -/
structure EntryPointsAgree (machine : Machine) : Prop where
  /-- A start that returns has the status 0. -/
  startReturned : ∀ later, EntryPoint.start (.ok (), later) = (some 0, later)
  startRefused : ∀ reason, EntryPoint.start (.error reason, machine) = (none, machine.trap reason)
  /-- It only needs an array of references, and these are never too many. -/
  startMarshals : ∀ arguments reason, (machine.marshalArguments arguments).1 ≠ .error reason
  objectNew : ∀ size table,
    Fronts (machine.newObject size table) (EntryPoint.objectNew machine size table)
  fieldPointer : ∀ r, EntryPoint.fieldPointer r = r.fieldPointer
  arrayNew : ∀ length width,
    Fronts (machine.newArray length width) (EntryPoint.arrayNew machine length width)
  arrayCopy : machine.Copies EntryPoint.arrayCopy
  stubArrayCopy : machine.Copies Native.Stub.callArrayCopy
  vtableLookup : ∀ r index,
    EntryPoint.vtableLookup machine r index = machine.vtableLookup r index.toNat
  itableFound : ∀ r interface index method,
    machine.itableLookup r interface index.toNat = some method →
    EntryPoint.itableLookup machine r interface index = (method, machine)
  /-- Nothing is found, and an error says so. -/
  itableMissed : ∀ r interface index, machine.itableLookup r interface index.toNat = none →
    EntryPoint.itableLookup machine r interface index =
      (0, machine.log .error .abi [.text (Trap.interfaceNotImplemented interface).message])
  monitorEnter : ∀ me r, EntryPoint.monitorEnter machine me r = machine.enter me r
  monitorExit : ∀ me r, EntryPoint.monitorExit machine me r = machine.leave me r
  wait : ∀ me r timeout, EntryPoint.wait machine me r timeout = machine.wait me r timeout ∧
    Native.Stub.callWait machine me r timeout = machine.wait me r timeout
  notifyOne : ∀ me r, EntryPoint.notifyOne machine me r = machine.notify me r false ∧
    Native.Stub.callNotify machine me r = machine.notify me r false
  notifyAll : ∀ me r, EntryPoint.notifyAll machine me r = machine.notify me r true ∧
    Native.Stub.callNotifyAll machine me r = machine.notify me r true
  arrayLength : ∀ r, EntryPoint.arrayLength machine r = machine.heap.arrayLength r
  elementPointer : ∀ r, EntryPoint.elementPointer r = r.dataPointer
  setArrayTable : ∀ table, EntryPoint.setArrayTable machine table = machine.setArrayTable table
  throw : ∀ r stack, EntryPoint.throw machine r stack = machine.throw r stack
  abstractMethod : EntryPoint.abstractMethod machine = machine.trap .abstractMethodCalled
  hashCode : ∀ r, Native.Stub.callHashCode r = r.identityHash
  loadString : ∀ address, EntryPoint.loadString address = stringConstant address
  /-- Looked up either way, a stub is the same, and the first of them has all registered. -/
  nativeFound : ∀ address symbol stub later, machine.lookupNative symbol = (some stub, later) →
    EntryPoint.nativeLookup machine address symbol = (address stub, later)
  nativeMissed : ∀ address symbol later, machine.lookupNative symbol = (none, later) →
    EntryPoint.nativeLookup machine address symbol = (0, later)
  trapped : ∀ reason, (machine.trap reason).ended = some .aborted

theorem entryPointsAgree (machine : Machine) : machine.EntryPointsAgree := by
  constructor
  case objectNew => exact fun size table => fronts_orTrap _
  case arrayNew => exact fun length width => fronts_orTrap _
  case arrayCopy => exact copies_arrayCopy machine
  case stubArrayCopy => exact copies_callArrayCopy machine
  case itableFound =>
    intro r interface index method found
    simp only [EntryPoint.itableLookup, found]
  case itableMissed =>
    intro r interface index missed
    simp only [EntryPoint.itableLookup, missed]
    rfl
  case nativeFound =>
    intro address symbol stub later found
    simp only [EntryPoint.nativeLookup, found, Option.map_some, Option.getD_some]
  case nativeMissed =>
    intro address symbol later missed
    simp only [EntryPoint.nativeLookup, missed, Option.map_none, Option.getD_none]
  case startMarshals => exact marshalArguments_ne_error machine
  case wait => exact fun me r timeout => ⟨rfl, rfl⟩
  case notifyOne | notifyAll => exact fun me r => ⟨rfl, rfl⟩
  case startReturned | startRefused | fieldPointer | vtableLookup | monitorEnter | monitorExit |
      arrayLength | elementPointer | setArrayTable | throw | abstractMethod | hashCode |
      loadString | trapped =>
    intros
    rfl

end Machine

end ManagedRuntime
