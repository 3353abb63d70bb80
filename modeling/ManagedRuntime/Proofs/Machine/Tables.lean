import ManagedRuntime.Proofs.Dispatch.Static
import ManagedRuntime.Proofs.Heap.Texts
import ManagedRuntime.Proofs.Machine.Monitors

/-! Dispatch tables that a process builds, and among them the table that new arrays carry. Unless
the class library has registered one, that is an empty table of the runtime's own, which is built
when it is first needed and kept from then on. -/
namespace ManagedRuntime
open Dispatch (staticTable)

namespace Heap

/-- Memory for the table of new arrays, where that is still to be built. -/
def TableRoom (heap : Heap) : Prop :=
  heap.arrayTable? = none → heap.next + 16 ≤ addressLimit

instance (heap : Heap) : Decidable heap.TableRoom := inferInstanceAs (Decidable (_ → _))

/-- Sizes of the regions that the table of new arrays takes if one is asked for now. -/
def tableSizes (heap : Heap) : List Nat := if heap.arrayTable?.isSome then [] else [16]

/-- Where there is room for the table and for more, that is behind the table. -/
theorem Room.table {heap : Heap} {sizes : List Nat}
    (room : Room heap.next (heap.tableSizes ++ sizes)) :
    heap.TableRoom ∧ Room (behind heap.next heap.tableSizes) sizes := by
  obtain ⟨early, late⟩ := room.append
  refine ⟨fun missing => ?_, late⟩
  rw [tableSizes, missing] at early
  exact early.1

/-- Tables begin in front of what is free, and the runtime's own one for arrays is empty. -/
structure Tabled (heap : Heap) : Prop where
  inFront : ∀ address ∈ heap.tables, address.toNat < heap.next
  own : ∀ address ∈ heap.defaultArrayTable, heap.tables[address]? = some (staticTable [])

section
variable {heap after : Heap}

theorem Tabled.of_same (tabled : heap.Tabled) (tables : after.tables = heap.tables)
    (grows : heap.next ≤ after.next) (own : after.defaultArrayTable = heap.defaultArrayTable) :
    after.Tabled := by
  constructor
  · intro address present
    rw [tables] at present
    exact Nat.lt_of_lt_of_le (tabled.inFront address present) grows
  · intro address there
    rw [own] at there
    rw [tables]
    exact tabled.own address there

/-- A new table lies behind all others. -/
theorem Tabled.placeTable {table : Memory.Block} (tabled : heap.Tabled)
    (placed : heap.placeTable table = some (address, after)) :
    after.Tabled ∧ after.tables[address]? = some table := by
  obtain ⟨rfl, room, rfl⟩ := placeTable_eq_some placed
  have reaches := lt_stride table.size
  have lies : (UInt64.ofNat heap.next).toNat = heap.next := toNat_next room
  refine ⟨⟨fun address present => ?_, fun address there => ?_⟩, by simp⟩
  · rcases Std.TreeMap.mem_insert.mp present with new | old
    · rw [← Std.compare_eq_iff_eq.mp new, lies]
      exact Nat.lt_add_of_pos_right (Nat.zero_lt_of_lt reaches)
    · exact Nat.lt_of_lt_of_le (tabled.inFront address old) (Nat.le_add_right _ _)
  · have empty := tabled.own address there
    have present : address ∈ heap.tables :=
      Std.TreeMap.mem_iff_isSome_getElem?.mpr (empty ▸ rfl)
    have other : UInt64.ofNat heap.next ≠ address := by
      rintro rfl
      exact Nat.ne_of_lt (tabled.inFront _ present) lies
    rw [Std.TreeMap.getElem?_insert, if_neg (mt Std.compare_eq_iff_eq.mp other), empty]

theorem Tabled.keeps {set : List UInt64} (tabled : heap.Tabled) (change : Change heap set after) :
    after.Tabled := by
  cases change with
  | object made =>
    have takes := allocateObject_eq_ok made
    exact tabled.of_same takes.tables takes.grows takes.own
  | array made =>
    have takes := allocateArray_eq_ok made
    exact tabled.of_same takes.tables takes.grows takes.own
  | write r fields => exact setFields_rest fields ▸ tabled.of_same rfl (Nat.le_refl _) rfl
  | monitor object monitor =>
    exact setMonitor_rest object monitor ▸ tabled.of_same rfl (Nat.le_refl _) rfl
  | table placed => exact (tabled.placeTable placed).1
  | ownTable missing placed =>
    obtain ⟨still, empty⟩ := tabled.placeTable placed
    refine ⟨still.inFront, fun table own => ?_⟩
    obtain rfl := Option.some.inj own
    exact empty
  | text bytes =>
    unfold placeText
    split
    · exact tabled
    · next reserved =>
      obtain rfl := reserve?_eq_some reserved
      exact tabled.of_same rfl (Nat.le_add_right _ _) rfl
  | arrayTable table => exact tabled.of_same rfl (Nat.le_refl _) rfl

theorem Tabled.run {first : Heap} {set : List UInt64} (tabled : first.Tabled)
    (run : Runs Change first set heap) : heap.Tabled :=
  run.invariant Tabled (fun before change => before.keeps change) tabled

end

theorem defaultArrayTable_of_missing {heap : Heap} (missing : heap.arrayTable? = none) :
    heap.registeredArrayTable = 0 ∧ heap.defaultArrayTable = none := by
  unfold arrayTable? at missing
  split at missing
  · next unset => exact ⟨unset, missing⟩
  · cases missing

end Heap

namespace Machine
variable {machine ready : Machine} {table : UInt64}

/-- What becomes of a process that asks for the table of new arrays. A table that is in force is
given out as it is; where there is none, an empty one is built, which takes memory but neither
objects nor counters. -/
structure Readies (machine : Machine) (table : UInt64) (ready : Machine) : Prop where
  inForce : ready.heap.arrayTable? = some table
  already : ∀ other ∈ machine.heap.arrayTable?, other = table ∧ ready = machine
  built : machine.heap.arrayTable? = none → ∃ placed,
    machine.heap.placeTable (staticTable []) = some (table, placed) ∧
      ready.heap = { placed with defaultArrayTable := some table } ∧ ready.ended = machine.ended

/-- Only the blueprint can be the reason that a table is refused. -/
theorem buildTable_eq_error_iff {blueprint : Dispatch.Blueprint} {fault : LayoutFault} :
    machine.buildTable blueprint = .error fault ↔
      blueprint.build (machine.heap.residue machine.heap.next) = .error fault := by
  unfold buildTable
  cases blueprint.build (machine.heap.residue machine.heap.next) with
  | error other => constructor <;> (intro failed; cases failed; rfl)
  | ok table =>
    refine iff_of_false (fun failed => ?_) nofun
    simp only [bind, Except.bind] at failed
    split at failed <;> cases failed

theorem build_empty (unset : Nat → UInt32) :
    ({} : Dispatch.Blueprint).build unset = .ok (staticTable []) :=
  Dispatch.build_eq_staticTable (by decide) unset

/-- A table that is built gets a place of its own, or the process is over for want of memory. -/
theorem buildTable_eq_ok {blueprint : Dispatch.Blueprint} {answer : Option UInt64}
    (built : machine.buildTable blueprint = .ok (answer, ready)) :
    ∃ table, blueprint.build (machine.heap.residue machine.heap.next) = .ok table ∧
      match answer with
      | none => machine.heap.placeTable table = none ∧ ready = machine.abort
      | some address => machine.heap.placeTable table = some (address, ready.heap) ∧
          ready.ended = machine.ended := by
  obtain ⟨table, described, placing⟩ := Dispatch.bind_eq_ok built
  refine ⟨table, described, ?_⟩
  cases placed : machine.heap.placeTable table with
  | none =>
    rw [placed] at placing
    cases placing
    exact ⟨rfl, rfl⟩
  | some there =>
    rw [placed] at placing
    cases placing
    refine ⟨?_, ended_log ..⟩
    rw [logText, heap_log]

/-- Apart from memory and the log, a table changes nothing but whether the process has ended. -/
theorem rest_buildTable {blueprint : Dispatch.Blueprint} {answer : Option UInt64}
    (built : machine.buildTable blueprint = .ok (answer, ready)) :
    ready = { machine with
      heap := ready.heap
      journal := ready.journal
      written := ready.written
      ended := ready.ended } := by
  obtain ⟨table, -, placing⟩ := Dispatch.bind_eq_ok built
  cases placed : machine.heap.placeTable table with
  | none =>
    rw [placed] at placing
    cases placing
    rfl
  | some there =>
    rw [placed] at placing
    cases placing
    obtain ⟨kept, written, same⟩ := log_eq { machine with heap := there.2 } _ _ _
    rw [logText, same]

/-- The runtime's own table is well-formed, so only memory can be missing for it. -/
theorem arrayTable_of_missing (missing : machine.heap.arrayTable? = none) :
    (machine.heap.placeTable (staticTable []) = none ∧
      machine.arrayTable = (none, machine.abort)) ∨
    ∃ table placed ready, machine.heap.placeTable (staticTable []) = some (table, placed) ∧
      machine.arrayTable = (some table, ready) ∧
      ready.heap = { placed with defaultArrayTable := some table } ∧
      ready.ended = machine.ended := by
  unfold arrayTable
  rw [missing]
  cases asked : machine.buildTable {} with
  | error fault =>
    have fine := build_empty (machine.heap.residue machine.heap.next)
    rw [buildTable_eq_error_iff.mp asked] at fine
    cases fine
  | ok built =>
    obtain ⟨answer, after⟩ := built
    obtain ⟨table, described, placed⟩ := buildTable_eq_ok asked
    obtain rfl : staticTable [] = table :=
      Except.ok.inj ((build_empty _).symm.trans described)
    cases answer with
    | none => exact .inl ⟨placed.1, congrArg _ placed.2⟩
    | some address => exact .inr ⟨address, after.heap, _, placed.1, rfl, rfl, placed.2⟩

theorem rest_arrayTable (machine : Machine) : machine.arrayTable.2 = { machine with
    heap := machine.arrayTable.2.heap
    journal := machine.arrayTable.2.journal
    written := machine.arrayTable.2.written
    ended := machine.arrayTable.2.ended } := by
  unfold arrayTable
  cases machine.heap.arrayTable? with
  | some table => rfl
  | none =>
    cases built : machine.buildTable {} with
    | error fault =>
      obtain ⟨kept, written, same⟩ := log_eq machine .error .error
        [.text (Trap.runtimeTable fault).message]
      simp only [trap, logText, same, printError, writeError]
    | ok answer =>
      obtain ⟨table, ready⟩ := answer
      have rest := rest_buildTable built
      cases table with
      | none => exact rest
      | some table =>
        exact congrArg (fun rest : Machine =>
          { rest with heap := { ready.heap with defaultArrayTable := some table } }) rest

theorem arrayTable_of_inForce (inForce : machine.heap.arrayTable? = some table) :
    machine.arrayTable = (some table, machine) := by
  simp only [arrayTable, inForce]

theorem readies_arrayTable (asked : machine.arrayTable = (some table, ready)) :
    Readies machine table ready := by
  cases there : machine.heap.arrayTable? with
  | some other =>
    rw [arrayTable_of_inForce there] at asked
    obtain ⟨rfl, rfl⟩ := Prod.mk.inj asked |>.imp Option.some.inj id
    exact ⟨there, fun _ same => ⟨Option.some.inj (same.symm.trans there), rfl⟩,
      fun missing => by cases there.symm.trans missing⟩
  | none =>
    obtain ⟨unset, -⟩ := Heap.defaultArrayTable_of_missing there
    rcases arrayTable_of_missing there with ⟨-, aborted⟩ | ⟨_, placed, _, room, built, heap, lives⟩
    · cases aborted.symm.trans asked
    · obtain ⟨rfl, rfl⟩ := Prod.mk.inj (built.symm.trans asked) |>.imp Option.some.inj id
      obtain ⟨-, -, rfl⟩ := Heap.placeTable_eq_some room
      refine ⟨?_, fun other same => ?_, fun _ => ⟨_, room, heap, lives⟩⟩
      · rw [heap, Heap.arrayTable?, if_pos unset]
      · cases there.symm.trans same

/-- With memory for it, there is a table for new arrays. -/
theorem exists_readies (room : machine.heap.TableRoom) :
    ∃ table ready, machine.arrayTable = (some table, ready) ∧ Readies machine table ready := by
  cases there : machine.heap.arrayTable? with
  | some table =>
    have asked := arrayTable_of_inForce there
    exact ⟨table, machine, asked, readies_arrayTable asked⟩
  | none =>
    rcases arrayTable_of_missing there with ⟨full, -⟩ | ⟨table, _, ready, -, asked, -⟩
    · have size : (staticTable []).size = 16 := rfl
      simp [Heap.placeTable, Heap.reserve?, size, room there] at full
    · exact ⟨table, ready, asked, readies_arrayTable asked⟩

namespace Readies
variable (readies : Readies machine table ready)
include readies

/-- Whichever table it is, nothing but tables takes part. -/
theorem rest : ready.heap = { machine.heap with
    tables := ready.heap.tables
    next := ready.heap.next
    defaultArrayTable := ready.heap.defaultArrayTable } := by
  cases there : machine.heap.arrayTable? with
  | some other =>
    obtain ⟨-, rfl⟩ := readies.already other there
    rfl
  | none =>
    obtain ⟨placed, room, heap, -⟩ := readies.built there
    obtain ⟨-, -, rfl⟩ := Heap.placeTable_eq_some room
    rw [heap]

theorem next : ready.heap.next = Heap.behind machine.heap.next machine.heap.tableSizes := by
  cases there : machine.heap.arrayTable? with
  | some other =>
    rw [(readies.already other there).2, Heap.tableSizes, there]
    rfl
  | none =>
    obtain ⟨placed, room, heap, -⟩ := readies.built there
    obtain ⟨-, -, rfl⟩ := Heap.placeTable_eq_some room
    rw [heap, Heap.tableSizes, there]
    rfl

theorem changes : Runs Heap.Change machine.heap [] ready.heap := by
  cases there : machine.heap.arrayTable? with
  | some other =>
    obtain ⟨-, rfl⟩ := readies.already other there
    exact .start _
  | none =>
    obtain ⟨placed, room, heap, -⟩ := readies.built there
    rw [heap]
    exact .one (.ownTable (Heap.defaultArrayTable_of_missing there).2 room)

theorem ended : ready.ended = machine.ended := by
  cases there : machine.heap.arrayTable? with
  | some other => rw [(readies.already other there).2]
  | none =>
    obtain ⟨-, -, -, lives⟩ := readies.built there
    exact lives

end Readies

/-- Without a table the process is over, and its memory as it was. -/
theorem arrayTable_eq_none (asked : machine.arrayTable = (none, ready)) :
    ready = machine.abort := by
  cases there : machine.heap.arrayTable? with
  | some table => cases (arrayTable_of_inForce there).symm.trans asked
  | none =>
    rcases arrayTable_of_missing there with ⟨-, aborted⟩ | ⟨_, _, _, -, built, -⟩
    · exact (Prod.mk.inj (aborted.symm.trans asked)).2.symm
    · cases built.symm.trans asked

/-- What becomes of memory in an allocation that needs the array table. -/
theorem heap_withArrayTable {allocate : UInt64 → Machine → Except Trap Ref × Machine}
    {holds : Heap → Prop} (full : holds machine.heap)
    (made : ∀ table ready, Readies machine table ready → holds (allocate table ready).2.heap) :
    holds (machine.withArrayTable allocate).2.heap := by
  unfold withArrayTable
  split
  · next asked => exact made _ _ (readies_arrayTable asked)
  · next asked => exact (arrayTable_eq_none asked) ▸ full

end Machine
end ManagedRuntime
