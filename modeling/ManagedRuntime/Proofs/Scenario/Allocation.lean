import ManagedRuntime.Proofs.Machine.Allocation
import ManagedRuntime.Proofs.Scenario.Changes

/-! Allocation in the runs of a process. Whichever threads have had their turns, every request gets
exactly the memory that it needs, or is refused for it. -/
namespace ManagedRuntime.Scenario.State
open Machine (AllocatesExactly)

/-- Memory that began in order and without a table set for arrays is in order after any changes. -/
theorem allocatesExactly_of_changes {first : Heap} (tidy : first.Tidy) (tabled : first.Tabled)
    (unset : first.registeredArrayTable = 0) {set : List UInt64} {machine : Machine}
    (run : Runs Heap.Change first set machine.heap) :
    AllocatesExactly machine (set.getLast?.getD 0) := by
  obtain ⟨still, registered, -⟩ := tidy.run run
  rw [unset] at registered
  refine ⟨Machine.allocates_newObject still, fun length width => ?_⟩
  rw [← registered]
  exact Machine.allocatesArray still (tabled.run run) length width

/-- Allocation is exact at every size, whatever happened to memory before, and so after every run of
a process, whichever way its threads took turns. A request is refused just if its block would be
larger than the largest one, for exactly the bytes that it asked for; otherwise, as long as there is
memory, it gets a block of its own that is neither too small nor too large. Arrays carry the table
that was set last. If that is null they carry the runtime's own empty table, which the first array
that a word can size brings about, be it refused or not. -/
theorem allocation_exact :
    (∀ {first : Heap} {set : List UInt64} {machine : Machine}, first.Tidy → first.Tabled →
      first.registeredArrayTable = 0 → Runs Heap.Change first set machine.heap →
      AllocatesExactly machine (set.getLast?.getD 0)) ∧
    (∀ {setting : Setting} {steps : List Step} {set : List UInt64} {state : State},
      Runs Sets (initialState setting steps) set state →
      AllocatesExactly state.machine (set.getLast?.getD 0)) ∧
    ∀ (setting : Setting) (steps : List Step) (fuel : Nat),
      ∃ set, Runs Sets (initialState setting steps) set
        ((initialState setting steps).run fuel) := by
  refine ⟨fun tidy tabled unset run => allocatesExactly_of_changes tidy tabled unset run, ?_,
    fun setting steps => run_sets _⟩
  intro setting steps set state run
  have begun := changes_initialState setting steps
  exact allocatesExactly_of_changes (tidy_freeMemory steps) (tabled_freeMemory _) rfl
    (begun.append (changes_run run))

/-- A process whose class library has set a table for arrays and taken it back. -/
def rearranged : Machine :=
  { heap := (Heap.setArrayTable {} 0x9000).setArrayTable 0 }

/-- The largest array that can be asked for is refused before anything happens; a small one is made
and carries a table without methods and interfaces. -/
theorem allocation_exact_rearranged :
    rearranged.newArray 0xffffffff 0xffffffffffffffff =
        (.error (.allocationTooLarge (0xffffffff * 0xffffffffffffffff + 16)), rearranged) ∧
      ∃ r table ready, (rearranged.newArray 3 8).1 = .ok r ∧ r.table = table ∧
        Machine.Readies rearranged table ready ∧
        ready.heap.tables[table]? = some (Dispatch.staticTable []) ∧
        Machine.BlankArray 3 8 (rearranged.newArray 3 8).2.heap r := by
  have tidy : ({} : Heap).Tidy :=
    ⟨by decide, fun _ present => absurd present Std.ExtTreeMap.not_mem_empty⟩
  have tabled : ({} : Heap).Tabled :=
    ⟨fun _ present => absurd present Std.TreeMap.not_mem_emptyc, nofun⟩
  have run : Runs Heap.Change {} [0x9000, 0] rearranged.heap :=
    (Runs.one (Heap.Change.arrayTable 0x9000)).next (.arrayTable 0)
  have arrays := (allocation_exact.1 tidy tabled rfl run).array
  refine ⟨(arrays _ _).oversized (by decide), ?_⟩
  obtain ⟨table, ready, readies, -, own, allocates⟩ := (arrays 3 8).sized (by decide) (by decide)
  have room : ready.heap.next + (48 + (3 * 8 + 16)) ≤ Heap.addressLimit := by
    rw [readies.next]
    decide
  obtain ⟨r, made, carries, -, -, -, blank⟩ := allocates.made (by decide) room
  exact ⟨r, table, ready, made, carries, readies, (own rfl).2, blank⟩

/-- A process whose log tells everything. -/
def unprepared : Machine := { sink := .journal .all }

/-- The first request for an array may be refused and still allocate: it takes memory for the
runtime's own array table, which the log tells. -/
theorem refused_array_builds_table :
    (unprepared.newArray 2 0x4000000000000000).1 = .error (.allocationTooLarge (2 ^ 63 + 16)) ∧
      unprepared.heap.defaultArrayTable = none ∧
      (unprepared.newArray 2 0x4000000000000000).2.heap.defaultArrayTable = some 0x10000 ∧
      (unprepared.newArray 2 0x4000000000000000).2.heap.next = unprepared.heap.next + 32 ∧
      (unprepared.newArray 2 0x4000000000000000).2.journal.length = 1 := by
  decide +kernel

end ManagedRuntime.Scenario.State
