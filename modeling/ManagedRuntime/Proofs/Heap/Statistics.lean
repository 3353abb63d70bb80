import Mathlib.Algebra.BigOperators.Group.Finset.Basic
import Mathlib.Data.Fintype.Basic
import Mathlib.Logic.Relation
import ManagedRuntime.Proofs.Dispatch.Acceptance
import ManagedRuntime.Proofs.Heap.Marshalling

/-! Allocation statistics. The two counters are raised one after the other in the middle of an
allocation, and other threads may do anything in between. -/
namespace ManagedRuntime
open Memory

/-- What is asked for. Without a layout it is refused, and no allocation begins. -/
structure AllocationRequest where
  size : UInt64
  table : UInt64
  layout : Layout
  laid : objectLayout? size = some layout

/-- How far a thread is with an allocation. -/
inductive AllocationPhase
  | idle
  | accepted (request : AllocationRequest)
  | reserved (request : AllocationRequest) (address : UInt64)
  | counted (request : AllocationRequest) (address : UInt64)
  | charged (request : AllocationRequest) (address : UInt64)

namespace AllocationPhase

/-- Regions that hold no object yet. -/
def regions : AllocationPhase → Nat
  | .idle | .accepted _ => 0
  | .reserved _ _ | .counted _ _ | .charged _ _ => 1

/-- Objects that are counted and not made yet. -/
def objects : AllocationPhase → Nat
  | .idle | .accepted _ | .reserved _ _ => 0
  | .counted _ _ | .charged _ _ => 1

/-- Bytes that are counted for an object that is not made yet. -/
def bytes : AllocationPhase → Nat
  | .idle | .accepted _ | .reserved _ _ | .counted _ _ => 0
  | .charged request _ => request.layout.size.toNat

end AllocationPhase

/-- An object that was made, with the bytes of its fields. -/
structure MadeObject where
  r : Ref
  payload : Nat

/-- All that they take, headers counted. -/
def charges (made : List MadeObject) : Nat := (made.map fun object => 48 + object.payload).sum

namespace Heap

/-- The counters have gone up by the objects that were made and by all that they take, the latter as
far as a word holds it. -/
structure Grows (first : Heap) (made : List MadeObject) (last : Heap) : Prop where
  objects : (last.objectsAllocated - first.objectsAllocated).toNat = made.length
  bytes : last.bytesAllocated - first.bytesAllocated = .ofNat (charges made)

/-- A change of memory that is not an allocation. -/
inductive Bypass : Heap → Heap → Prop
  | write (r : Ref) (fields : Block) : Bypass heap (heap.setFields r fields)
  | monitor (object : UInt64) (monitor : Monitor) : Bypass heap (heap.setMonitor object monitor)
  | table {table : Block} (placed : heap.placeTable table = some (address, after)) :
      Bypass heap after
  | ownTable (table : Option UInt64) : Bypass heap { heap with defaultArrayTable := table }
  | text (bytes : List UInt8) : Bypass heap (heap.placeText bytes).2
  | arrayTable (table : UInt64) : Bypass heap (heap.setArrayTable table)

/-! What an allocation does to memory that it has reserved. -/

def countObject (heap : Heap) : Heap :=
  { heap with objectsAllocated := heap.objectsAllocated + 1 }

def chargeBytes (heap : Heap) (bytes : UInt64) : Heap :=
  { heap with bytesAllocated := heap.bytesAllocated + bytes }

def fill (heap : Heap) (address size : UInt64) : Heap :=
  { heap with objects := heap.objects.insert address { fields := .zeroed size.toNat } }

end Heap

/-- Memory, and what every thread has under way there. -/
structure Allotting (count : Nat) where
  heap : Heap
  phases : Fin count → AllocationPhase := fun _ => .idle

namespace Allotting
variable {count : Nat}

/-- A thread gets to another point of its allocation, with memory as it is then. -/
def go (state : Allotting count) (me : Fin count) (heap : Heap) (phase : AllocationPhase) :
    Allotting count :=
  { heap, phases := Function.update state.phases me phase }

/-- No allocation is in progress. -/
def Idle (state : Allotting count) : Prop := ∀ me, state.phases me = .idle

/-- One step of any of the threads, with the object that it finishes. -/
inductive Move : Allotting count → List MadeObject → Allotting count → Prop
  | bypass (state : Allotting count) {heap : Heap} (change : state.heap.Bypass heap) :
      Move state [] { state with heap }
  | accept (state : Allotting count) (me : Fin count) (request : AllocationRequest)
      (idle : state.phases me = .idle) :
      Move state [] (state.go me state.heap (.accepted request))
  | exhaust (state : Allotting count) (me : Fin count) {request : AllocationRequest}
      (accepted : state.phases me = .accepted request)
      (full : state.heap.reserve? request.layout.size.toNat = none) :
      Move state [] (state.go me state.heap .idle)
  | reserve (state : Allotting count) (me : Fin count) {request : AllocationRequest}
      {address : UInt64} {heap : Heap} (accepted : state.phases me = .accepted request)
      (room : state.heap.reserve? request.layout.size.toNat = some (address, heap)) :
      Move state [] (state.go me heap (.reserved request address))
  | count (state : Allotting count) (me : Fin count) {request : AllocationRequest}
      {address : UInt64} (reserved : state.phases me = .reserved request address) :
      Move state [] (state.go me state.heap.countObject (.counted request address))
  | charge (state : Allotting count) (me : Fin count) {request : AllocationRequest}
      {address : UInt64} (counted : state.phases me = .counted request address) :
      Move state []
        (state.go me (state.heap.chargeBytes request.layout.size) (.charged request address))
  | place (state : Allotting count) (me : Fin count) {request : AllocationRequest}
      {address : UInt64} (charged : state.phases me = .charged request address) :
      Move state [⟨⟨address, request.table⟩, request.size.toNat⟩]
        (state.go me (state.heap.fill address request.size) .idle)

/-- Sum over what all threads have under way. -/
def total (measure : AllocationPhase → Nat) (state : Allotting count) : Nat :=
  ∑ me, measure (state.phases me)

/-- A counter rises by what is begun, and that is done now or still to do. -/
def Rises (before : UInt64) (held done left : Nat) (after : UInt64) : Prop :=
  ∃ more : Nat, after = before + .ofNat more ∧ done + left = held + more

section
variable {first before after : UInt64} {held done now between left : Nat}

theorem Rises.refl (before : UInt64) (held : Nat) : Rises before held 0 held before :=
  ⟨0, (UInt64.add_zero before).symm, Nat.zero_add held⟩

theorem Rises.trans (early : Rises first held done between before)
    (late : Rises before between now left after) : Rises first held (done + now) left after := by
  obtain ⟨few, risen, kept⟩ := early
  obtain ⟨more, further, rest⟩ := late
  refine ⟨few + more, ?_, by omega⟩
  rw [further, risen, UInt64.ofNat_add, UInt64.add_assoc]

/-- A counter that has not wrapped does not fall. -/
theorem Rises.le (early : Rises first 0 done between before)
    (late : Rises before between now left after)
    (small : first.toNat + (done + now + left) < 2 ^ 64) : before ≤ after := by
  have word {last : UInt64} {finished pending : Nat} (rises : Rises first 0 finished pending last)
      (fits : first.toNat + (finished + pending) < 2 ^ 64) :
      last.toNat = first.toNat + (finished + pending) := by
    obtain ⟨more, rfl, all⟩ := rises
    rw [UInt64.toNat_add, UInt64.toNat_ofNat', Nat.add_mod_mod, Nat.mod_eq_of_lt (by omega)]
    omega
  have both := word (early.trans late) small
  obtain ⟨more, -, rest⟩ := late
  rw [UInt64.le_iff_toNat_le, word early (by omega), both]
  omega

end

/-- Between two states, the counters rise by what is begun, and what is begun is finished or still
under way. -/
structure Tallies (state : Allotting count) (made : List MadeObject) (after : Allotting count) :
    Prop where
  objects : Rises state.heap.objectsAllocated (state.total (·.objects)) made.length
    (after.total (·.objects)) after.heap.objectsAllocated
  bytes : Rises state.heap.bytesAllocated (state.total (·.bytes)) (charges made)
    (after.total (·.bytes)) after.heap.bytesAllocated
  /-- Every object takes a region of memory, of which there is not too much. -/
  regions : ∃ more : Nat,
    made.length + after.total (·.regions) = state.total (·.regions) + more ∧
    state.heap.next + 48 * more ≤ after.heap.next ∧
    (more = 0 ∨ state.heap.next + 48 * more ≤ Heap.addressLimit)

section
variable {state middle after : Allotting count} {me : Fin count}

theorem size_layout (request : AllocationRequest) :
    request.layout.size.toNat = 48 + request.size.toNat := by
  have header : Format.objectHeaderSize.toNat = 48 := rfl
  have laid := request.laid
  rw [objectLayout?_eq] at laid
  split at laid
  · next fits =>
    rw [← Option.some.inj laid, UInt64.toNat_add, header, Nat.mod_eq_of_lt (by omega)]
  · cases laid

theorem charges_append (early late : List MadeObject) :
    charges (early ++ late) = charges early + charges late := by
  rw [charges, List.map_append, List.sum_append]
  rfl

theorem phases_go (state : Allotting count) (me : Fin count) (heap : Heap)
    (phase : AllocationPhase) : (state.go me heap phase).phases me = phase :=
  Function.update_self ..

/-- Only the last point counts. -/
theorem go_go (state : Allotting count) (me : Fin count) (early late : Heap)
    (phase later : AllocationPhase) :
    (state.go me early phase).go me late later = state.go me late later := by
  simp only [go, Function.update_idem]

theorem go_of_eq {phase : AllocationPhase} (here : state.phases me = phase) (heap : Heap) :
    state.go me heap phase = { state with heap } := by
  simp only [go, ← here, Function.update_eq_self]

/-- Only the thread that moves counts anew. -/
theorem total_go (measure : AllocationPhase → Nat) (state : Allotting count) (me : Fin count)
    (heap : Heap) (phase : AllocationPhase) :
    total measure (state.go me heap phase) + measure (state.phases me) =
      total measure state + measure phase := by
  have mine (phases : Fin count → AllocationPhase) :=
    Finset.add_sum_erase Finset.univ (fun thread => measure (phases thread)) (Finset.mem_univ me)
  have others :
      ∑ thread ∈ Finset.univ.erase me, measure ((state.go me heap phase).phases thread) =
        ∑ thread ∈ Finset.univ.erase me, measure (state.phases thread) :=
    Finset.sum_congr rfl fun thread member => by
      simp only [go, Function.update_of_ne (Finset.ne_of_mem_erase member)]
  have before := mine state.phases
  have after := mine (state.go me heap phase).phases
  rw [others, phases_go] at after
  unfold total
  omega

theorem total_of_idle {measure : AllocationPhase → Nat} (none : measure .idle = 0)
    (idle : state.Idle) : state.total measure = 0 :=
  Finset.sum_eq_zero fun me _ => by rw [idle me, none]

theorem Tallies.refl (state : Allotting count) : Tallies state [] state where
  objects := .refl ..
  bytes := .refl ..
  regions := ⟨0, Nat.zero_add _, Nat.le_refl _, .inl rfl⟩

theorem Tallies.trans {early late : List MadeObject} (begun : Tallies state early middle)
    (continued : Tallies middle late after) : Tallies state (early ++ late) after := by
  constructor
  · rw [List.length_append]
    exact begun.objects.trans continued.objects
  · rw [charges_append]
    exact begun.bytes.trans continued.bytes
  · obtain ⟨few, counted, grown, room⟩ := begun.regions
    obtain ⟨more, further, on, left⟩ := continued.regions
    refine ⟨few + more, ?_, by omega, by omega⟩
    rw [List.length_append]
    omega

/-! What one step adds. -/

/-- What goes by the counters leaves them alone. -/
theorem bypass_rest {heap after : Heap} (change : heap.Bypass after) :
    after.objectsAllocated = heap.objectsAllocated ∧
      after.bytesAllocated = heap.bytesAllocated ∧ heap.next ≤ after.next := by
  cases change with
  | write r fields =>
    rw [Heap.setFields_rest]
    exact ⟨rfl, rfl, Nat.le_refl _⟩
  | monitor object monitor =>
    rw [Heap.setMonitor_rest]
    exact ⟨rfl, rfl, Nat.le_refl _⟩
  | table placed =>
    obtain ⟨-, -, rfl⟩ := Heap.placeTable_eq_some placed
    exact ⟨rfl, rfl, Nat.le_add_right _ _⟩
  | ownTable table => exact ⟨rfl, rfl, Nat.le_refl _⟩
  | text bytes =>
    unfold Heap.placeText
    split
    · exact ⟨rfl, rfl, Nat.le_refl _⟩
    · next reserved =>
      obtain rfl := Heap.reserve?_eq_some reserved
      exact ⟨rfl, rfl, Nat.le_add_right _ _⟩
  | arrayTable table => exact ⟨rfl, rfl, Nat.le_refl _⟩

/-- A thread moves on, and the counters rise by as much as its own part does. -/
theorem Tallies.step {made : List MadeObject} {heap : Heap} {phase : AllocationPhase}
    (objects bytes regions : Nat)
    (counted : heap.objectsAllocated = state.heap.objectsAllocated + .ofNat objects)
    (charged : heap.bytesAllocated = state.heap.bytesAllocated + .ofNat bytes)
    (grown : state.heap.next + 48 * regions ≤ heap.next)
    (room : regions = 0 ∨ state.heap.next + 48 * regions ≤ Heap.addressLimit)
    (ownObjects : made.length + phase.objects = (state.phases me).objects + objects)
    (ownBytes : charges made + phase.bytes = (state.phases me).bytes + bytes)
    (ownRegions : made.length + phase.regions = (state.phases me).regions + regions) :
    Tallies state made (state.go me heap phase) := by
  constructor
  · have all := total_go (·.objects) state me heap phase
    exact ⟨objects, counted, by omega⟩
  · have all := total_go (·.bytes) state me heap phase
    exact ⟨bytes, charged, by omega⟩
  · have all := total_go (·.regions) state me heap phase
    exact ⟨regions, by omega, grown, room⟩

theorem Move.tallies {made : List MadeObject} (move : Move state made after) :
    Tallies state made after := by
  have zero (word : UInt64) : word = word + .ofNat 0 := (UInt64.add_zero word).symm
  cases move with
  | bypass change =>
    obtain ⟨objects, bytes, next⟩ := bypass_rest change
    exact ⟨⟨0, objects.trans (zero _), Nat.zero_add _⟩, ⟨0, bytes.trans (zero _), Nat.zero_add _⟩,
      ⟨0, Nat.zero_add _, next, .inl rfl⟩⟩
  | accept me request idle =>
    refine .step 0 0 0 (zero _) (zero _) (Nat.le_refl _) (.inl rfl) ?_ ?_ ?_
    all_goals rw [idle]; rfl
  | exhaust me accepted full =>
    refine .step 0 0 0 (zero _) (zero _) (Nat.le_refl _) (.inl rfl) ?_ ?_ ?_
    all_goals rw [accepted]; rfl
  | @reserve me request _ _ accepted room =>
    -- the region is at least as large as a header, and so is the distance to the next
    obtain ⟨holds, -⟩ := Heap.stride_spec request.layout.size.toNat
    have size := size_layout request
    have fits : state.heap.next + request.layout.size.toNat ≤ Heap.addressLimit := by
      by_contra full
      rw [Heap.reserve?, if_neg full] at room
      cases room
    obtain rfl := Heap.reserve?_eq_some room
    refine .step 0 0 1 (zero _) (zero _) ?_ (.inr (by omega)) ?_ ?_ ?_
    · dsimp only
      omega
    all_goals rw [accepted]; rfl
  | count me reserved =>
    refine .step 1 0 0 rfl (zero _) (Nat.le_refl _) (.inl rfl) ?_ ?_ ?_
    all_goals rw [reserved]; rfl
  | @charge me request _ counted =>
    refine .step 0 request.layout.size.toNat 0 (zero _) ?_ (Nat.le_refl _) (.inl rfl) ?_ ?_ ?_
    · rw [UInt64.ofNat_toNat]
      rfl
    all_goals rw [counted]; rfl
  | @place me request _ charged =>
    refine .step 0 0 0 (zero _) (zero _) (Nat.le_refl _) (.inl rfl) ?_ ?_ ?_
    · rw [charged]
      rfl
    · rw [charged]
      exact (size_layout request).symm
    · rw [charged]
      rfl

theorem tallies_of_runs {first last : Allotting count} {made : List MadeObject}
    (run : Runs Move first made last) : Tallies first made last := by
  induction run with
  | start => exact .refl _
  | next _ move ih => exact ih.trans move.tallies

/-- From one state without allocations in progress to another, the counters grow by what was made
in between. -/
theorem grows_of_runs {first last : Allotting count} {made : List MadeObject}
    (run : Runs Move first made last) (before : first.Idle) (after : last.Idle) :
    Heap.Grows first.heap made last.heap := by
  have limit : Heap.addressLimit = 2 ^ 47 := rfl
  have nothing (measure : AllocationPhase → Nat) (none : measure .idle = 0) :
      first.total measure = 0 ∧ last.total measure = 0 :=
    ⟨total_of_idle none before, total_of_idle none after⟩
  obtain ⟨⟨objects, counted, finished⟩, ⟨bytes, charged, paid⟩, regions, placed, -, few⟩ :=
    tallies_of_runs run
  simp only [nothing (·.objects) rfl, Nat.zero_add, Nat.add_zero] at finished
  simp only [nothing (·.bytes) rfl, Nat.zero_add, Nat.add_zero] at paid
  simp only [nothing (·.regions) rfl, Nat.zero_add, Nat.add_zero] at placed
  constructor
  -- memory ends long before there are so many objects that their number wraps
  · rw [counted, UInt64.add_comm, UInt64.add_sub_cancel, ← finished]
    exact UInt64.toNat_ofNat_of_lt' (by simp only [UInt64.size]; omega)
  · rw [charged, UInt64.add_comm, UInt64.add_sub_cancel, paid]

theorem objects_le {first : Allotting count} {early late : List MadeObject} (idle : first.Idle)
    (begun : Runs Move first early middle) (continued : Runs Move middle late after)
    (small : first.heap.objectsAllocated.toNat +
      ((early ++ late).length + after.total (·.objects)) < 2 ^ 64) :
    middle.heap.objectsAllocated ≤ after.heap.objectsAllocated := by
  have counted := (tallies_of_runs begun).objects
  rw [total_of_idle rfl idle] at counted
  rw [List.length_append] at small
  exact counted.le (tallies_of_runs continued).objects small

theorem bytes_le {first : Allotting count} {early late : List MadeObject} (idle : first.Idle)
    (begun : Runs Move first early middle) (continued : Runs Move middle late after)
    (small : first.heap.bytesAllocated.toNat +
      (charges (early ++ late) + after.total (·.bytes)) < 2 ^ 64) :
    middle.heap.bytesAllocated ≤ after.heap.bytesAllocated := by
  have charged := (tallies_of_runs begun).bytes
  rw [total_of_idle rfl idle] at charged
  rw [charges_append] at small
  exact charged.le (tallies_of_runs continued).bytes small

/-! An operation that nobody interrupts is a run of such steps. -/

theorem runs_bypass {heap : Heap} (changes : Relation.ReflTransGen Heap.Bypass state.heap heap) :
    Runs Move state [] { state with heap } := by
  induction changes with
  | refl => exact .start _
  | tail _ change ih => exact ih.next (.bypass _ change)

theorem runs_place {heap : Heap} (idle : state.phases me = .idle) (request : AllocationRequest)
    (placed : state.heap.place request.layout request.size request.table = .ok (r, heap)) :
    Runs Move state [⟨r, request.size.toNat⟩] { state with heap } := by
  unfold Heap.place at placed
  split at placed
  · cases placed
  · next address reserved room =>
    cases placed
    have begun : Runs Move state [] (state.go me state.heap (.accepted request)) :=
      .one (.accept state me request idle)
    have first : Runs Move state [] (state.go me reserved (.reserved request address)) := by
      rw [← go_go state me state.heap reserved (.accepted request)]
      exact begun.next (.reserve _ me (phases_go ..) room)
    have second : Runs Move state []
        (state.go me reserved.countObject (.counted request address)) := by
      rw [← go_go state me reserved _ (.reserved request address)]
      exact first.next (.count _ me (phases_go ..))
    have third : Runs Move state [] (state.go me
        (reserved.countObject.chargeBytes request.layout.size) (.charged request address)) := by
      rw [← go_go state me reserved.countObject _ (.counted request address)]
      exact second.next (.charge _ me (phases_go ..))
    have last := third.next (.place _ me (phases_go ..))
    rw [go_go, go_of_eq idle] at last
    exact last

theorem runs_allocateObject {size table : UInt64} {heap : Heap} (idle : state.phases me = .idle)
    (made : state.heap.allocateObject size table = .ok (r, heap)) :
    Runs Move state [⟨r, size.toNat⟩] { state with heap } := by
  unfold Heap.allocateObject at made
  split at made
  · cases made
  · next layout laid => exact runs_place idle ⟨size, table, layout, laid⟩ made

theorem runs_allocateArray {length : UInt32} {width table : UInt64} {heap : Heap}
    (idle : state.phases me = .idle)
    (made : state.heap.allocateArray length width table = .ok (r, heap)) :
    Runs Move state [⟨r, Heap.arrayPayload length width⟩] { state with heap } := by
  unfold Heap.allocateArray at made
  dsimp only at made
  split at made
  · next small =>
    obtain ⟨⟨object, placed⟩, allocated, written⟩ := Dispatch.bind_eq_ok made
    cases written
    have run := runs_allocateObject idle allocated
    rw [UInt64.toNat_ofNat_of_lt' small] at run
    exact run.next (.bypass _ (.write _ _))
  · cases made

end
end Allotting

namespace Heap
variable {heap : Heap}

theorem bypass_storeTexts (target : Ref) (index : Nat) (texts : List UInt64) :
    Relation.ReflTransGen Bypass heap (heap.storeTexts target index texts) := by
  induction texts generalizing heap index with
  | nil => exact .refl
  | cons address rest ih =>
    have copied : Bypass heap (heap.copyString (heap.textAt address)).2 := .text _
    exact .head copied (.head (.write _ _) (ih (index + 1)))

theorem bypass_copyArray {source destination : Ref} {sourceStart destinationStart count : Int64}
    {after : Heap}
    (copied : heap.copyArray source sourceStart destination destinationStart count = .ok after) :
    Relation.ReflTransGen Bypass heap after := by
  unfold copyArray at copied
  dsimp only at copied
  split at copied
  · cases copied
  · split at copied
    · cases copied
      exact .refl
    · cases copied
      exact .single (.write destination _)

end Heap

theorem Allotting.runs_marshalArguments {count : Nat} {state : Allotting count} {me : Fin count}
    {arguments : List UInt64} {table : UInt64} {heap : Heap} (idle : state.phases me = .idle)
    (made : state.heap.marshalArguments arguments table = .ok (r, heap)) :
    Runs Move state [⟨r, Heap.arrayPayload (UInt32.ofNat (arguments.drop 1).length)
      Format.referenceSize⟩] { state with heap } := by
  obtain ⟨⟨array, placed⟩, allocated, stored⟩ := Dispatch.bind_eq_ok made
  cases stored
  have run := runs_allocateArray idle allocated
  exact run.append (runs_bypass (Heap.bypass_storeTexts ..))

end ManagedRuntime
