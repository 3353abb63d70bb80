import ManagedRuntime.Proofs.Scenario.Turns

/-! On every thread of a scenario both counters are exact, in whatever order the threads take turns,
as long as each record is released where it was captured. -/
namespace ManagedRuntime.Scenario.State
open Exception

/-- Taking a name out of a list that has no name twice. -/
theorem countP_filter_add_lookup {α : Type} {kept : List (String × α)} {name : String}
    (belongs : String → Bool) (distinct : (kept.map Prod.fst).Nodup)
    (mine : belongs name = true) :
    (kept.filter (·.1 != name)).countP (fun entry => belongs entry.1) +
        (kept.lookup name).toList.length = kept.countP (fun entry => belongs entry.1) := by
  induction kept with
  | nil => rfl
  | cons entry rest ih =>
    obtain ⟨key, value⟩ := entry
    obtain ⟨unlike, distinct⟩ := List.nodup_cons.mp distinct
    by_cases same : key = name
    · subst same
      have others : rest.filter (·.1 != key) = rest := by
        refine List.filter_eq_self.mpr fun entry member => ?_
        have different : entry.1 ≠ key := fun equal =>
          unlike (List.mem_map.mpr ⟨entry, member, equal⟩)
        simpa using different
      simp [others, mine]
    · have further := ih distinct
      have other : (name == key) = false := by simpa using Ne.symm same
      rw [List.filter_cons_of_pos (by simpa using same)]
      simp only [List.lookup_cons, other, List.countP_cons]
      omega

/-- The records of thread `me` that have a name. -/
def held (owner : String → Nat) (me : Nat) (state : State) : Nat :=
  state.records.countP fun kept => owner kept.1 == me

/-- No name stands for two records, and every thread counts what it has and what is kept for it. -/
structure Accounted (owner : String → Nat) (state : State) : Prop where
  distinct : (state.records.map Prod.fst).Nodup
  exact : ∀ index, Exact (state.held owner index) (state.strand index)

section
variable {owner : String → Nat} {me : Nat} {state : State}

theorem nodup_filter (distinct : (state.records.map Prod.fst).Nodup) (name : String) :
    ((state.records.filter (·.1 != name)).map Prod.fst).Nodup :=
  distinct.sublist ((List.filter_sublist).map Prod.fst)

theorem held_of_core {later : State} {records : List (String × ExceptionRecord)}
    (same : later.core = (state.strands, records)) :
    later.held owner me = records.countP fun kept => owner kept.1 == me := by
  have kept : later.records = records := congrArg Prod.snd same
  rw [held, kept]

theorem held_filter {name : String} (distinct : (state.records.map Prod.fst).Nodup)
    (mine : owner name = me) :
    (state.records.filter (·.1 != name)).countP (fun kept => owner kept.1 == me) +
        (state.records.lookup name).toList.length = state.held owner me :=
  countP_filter_add_lookup (owner · == me) distinct (by simpa using mine)

theorem balance_done {later : State} {counts now : Counts} {before : Nat}
    (balance : now.live + before = counts.live + later.held owner me) :
    (done me now later).2.1.live + before =
      counts.live + (done me now later).2.2.held owner me + (done me now later).1.handedOver := by
  obtain ⟨same, none⟩ := spares_done later me now
  have kept : (done me now later).2.2.held owner me = later.held owner me :=
    held_of_core (core_done later me now)
  rwa [same, none, kept, Nat.add_zero]

variable {name : String} {counts : Counts} (distinct : (state.records.map Prod.fst).Nodup)
  (mine : owner name = me)
include distinct mine

theorem capture_balance (r : Ref) (depth : UInt64) (height : Nat) :
    (state.capture me name r depth height counts).1.live + state.held owner me =
      counts.live + (state.capture me name r depth height counts).2.held owner me := by
  have taken := held_filter distinct mine
  rw [capture_counts, held_of_core (core_capture ..), List.countP_cons]
  cases found : state.records.lookup name with
  | none =>
    simp only [found, Option.toList_none, List.length_nil] at taken
    simp [Counts.capture, mine]
    omega
  | some record =>
    simp only [found, Option.toList_some, List.length_singleton] at taken
    simp [Counts.capture, Counts.release, mine]
    omega

theorem release_balance (least : state.held owner me ≤ counts.live) :
    (state.releaseRecord me name counts).1.live + state.held owner me =
      counts.live + (state.releaseRecord me name counts).2.held owner me := by
  have taken := held_filter distinct mine
  rw [releaseRecord_counts, held_of_core (core_releaseRecord ..)]
  cases found : state.records.lookup name with
  | none =>
    simp only [found, Option.toList_none, List.length_nil] at taken
    simp
    omega
  | some record =>
    simp only [found, Option.toList_some, List.length_singleton] at taken
    simp [Counts.release]
    omega

omit mine in
/-- What is captured and released under a name changes the counter as it changes what is kept. -/
theorem balanced_host {strand : Strand Instruction Site}
    (exact : Exact (state.held owner me) strand)
    (own : ∀ name ∈ strand.upcoming.elim [] Instruction.touches, owner name = me) :
    Balanced (host me) (held owner me) strand state := by
  intro instruction upcoming
  rw [upcoming] at own
  have running : strand.control ≠ .halted := by
    intro halted
    simp [Strand.upcoming, halted] at upcoming
  have least : state.held owner me ≤ strand.counts.live := by
    rw [exact.live running, Nat.add_assoc]
    exact Nat.le_add_right _ _
  by_cases untouched : instruction.touches = []
  · obtain ⟨counts, none⟩ :=
      spares_perform state me strand.counts strand.frames.length untouched
    have records := records_perform state me strand.counts strand.frames.length untouched
    dsimp only
    rw [counts, none, held, held, records, Nat.add_zero]
  cases instruction with
  | capture name reference depth =>
    exact balance_done (capture_balance distinct (own name List.mem_cons_self) ..)
  | release name =>
    exact balance_done (release_balance distinct (own name List.mem_cons_self) least)
  | raiseCaptured name =>
    have taken := held_filter distinct (own name List.mem_cons_self)
    have kept : (state.takeRecord name).2.held owner me = _ :=
      held_of_core (core_takeRecord state name)
    simp only [host, perform, takeRecord] at kept ⊢
    cases found : state.records.lookup name with
    | none =>
      simp only [found, Option.toList_none, List.length_nil] at taken
      simp only [Reply.handedOver, kept]
      omega
    | some record =>
      simp only [found, Option.toList_some, List.length_singleton] at taken
      simp only [Reply.handedOver, kept]
      omega
  | _ => exact absurd rfl untouched

omit distinct mine

theorem held_hear (index : Nat) (counts : Counts) (signal : Signal Site) (state : State) :
    ((host index).signal counts signal state).held owner me = state.held owner me :=
  held_of_core (core_hear state index counts signal)

theorem held_filter_of_ne {other : Nat} (foreign : owner name ≠ other) :
    (state.records.filter (·.1 != name)).countP (fun kept => owner kept.1 == other) =
      state.held owner other := by
  rw [List.countP_filter, held]
  refine List.countP_congr fun entry _ => ?_
  simp only [Bool.and_eq_true, bne_iff_ne, ne_eq, beq_iff_eq, and_iff_left_iff_imp]
  intro theirs equal
  exact foreign (equal ▸ theirs)

/-- No name comes to stand for two records. -/
theorem nodup_perform (counts : Counts) (height : Nat) (instruction : Instruction)
    (distinct : (state.records.map Prod.fst).Nodup) :
    (((host me).perform counts height instruction state).2.2.records.map Prod.fst).Nodup := by
  rcases records_perform_cases state me counts height instruction with
    same | ⟨name, -, taken | ⟨record, kept⟩⟩
  · rwa [same]
  · rw [taken]
    exact nodup_filter distinct name
  · rw [kept, List.map_cons, List.nodup_cons]
    refine ⟨fun member => ?_, nodup_filter distinct name⟩
    obtain ⟨entry, there, same⟩ := List.mem_map.mp member
    have different := (List.mem_filter.mp there).2
    simp [same] at different

/-- A thread that deals with its own records leaves those of the others. -/
theorem held_perform_of_ne (counts : Counts) (height : Nat) {instruction : Instruction}
    {other : Nat} (different : other ≠ me) (own : ∀ name ∈ instruction.touches, owner name = me) :
    ((host me).perform counts height instruction state).2.2.held owner other =
      state.held owner other := by
  rcases records_perform_cases state me counts height instruction with
    same | ⟨name, touched, taken | ⟨record, kept⟩⟩
  · rw [held, held, same]
  · have foreign : owner name ≠ other := (own name touched).trans_ne different.symm
    rw [held, taken, held_filter_of_ne foreign]
  · have foreign : owner name ≠ other := (own name touched).trans_ne different.symm
    rw [held, kept, List.countP_cons_of_neg (by simpa using foreign), held_filter_of_ne foreign]

end

section
variable {owner : String → Nat} {state : State} {index : Nat}

theorem records_stepThread :
    (state.stepThread index).records =
      ((state.strand index).step (host index) state).2.records :=
  congrArg Prod.snd (core_stepThread state index)

/-- A new thread has no records: nothing was kept for it before it began. -/
theorem exact_fresh {strand : Strand Instruction Site} {kept : Nat} (fresh : IsFresh strand)
    (before : Exact kept absent) : Exact kept strand := by
  obtain ⟨program, rfl⟩ := fresh
  exact ⟨rfl, fun _ => before.live nofun⟩

theorem held_stepThread (me : Nat) : (state.stepThread index).held owner me =
    ((state.strand index).step (host index) state).2.held owner me :=
  held_of_core (congrArg (Prod.mk _) records_stepThread)

/-- A turn keeps what is held for a thread if its instruction does. -/
theorem held_stepThread_of_perform (me : Nat)
    (kept : ∀ instruction, (state.strand index).upcoming = some instruction →
      ((host index).perform (state.strand index).counts (state.strand index).frames.length
        instruction state).2.2.held owner me = state.held owner me) :
    (state.stepThread index).held owner me = state.held owner me := by
  rw [held_stepThread]
  refine (state.strand index).step_relates
    (fun before after => after.held owner me = before.held owner me) (fun _ => rfl) ?_
    (held_hear index) state kept
  exact fun early late => Eq.trans late early

/-- A thread that deals with its own records keeps its counters exact, at every point of its
turn. -/
theorem exact_stepThread (accounted : Accounted owner state)
    (own : ∀ name ∈ (state.strand index).upcoming.elim [] Instruction.touches, owner name = index) :
    Exact ((state.stepThread index).held owner index) ((state.stepThread index).strand index) ∧
      ∀ point ∈ (state.strand index).told (host index) state,
        point.1.handlers = regionsOn ((state.stepThread index).strand index).frames ∧
          (point.2 ≠ .cleanupEscaped → point.1.live =
            (state.stepThread index).held owner index + point.2.inHand +
              recordsOn ((state.stepThread index).strand index).frames) := by
  rw [strand_stepThread, held_stepThread]
  exact exact_step (held_hear index) (steady_host index)
    (balanced_host accounted.distinct (accounted.exact index) own) (accounted.exact index)

theorem accounted_stepThread (accounted : Accounted owner state)
    (own : ∀ name ∈ (state.strand index).upcoming.elim [] Instruction.touches, owner name = index) :
    Accounted owner (state.stepThread index) := by
  constructor
  · rw [records_stepThread]
    refine (state.strand index).step_relates
      (fun before after => (before.records.map Prod.fst).Nodup → (after.records.map Prod.fst).Nodup)
      (fun _ => id) ?_ ?_ state ?_ accounted.distinct
    · exact fun early late distinct => late (early distinct)
    · intro counts signal state distinct
      have same : ((host index).signal counts signal state).records = state.records :=
        congrArg Prod.snd (core_hear state index counts signal)
      rwa [same]
    · exact fun instruction _ => nodup_perform _ _ instruction
  · intro me
    by_cases mine : me = index
    · subst mine
      exact (exact_stepThread accounted own).1
    · have others : (state.stepThread index).held owner me = state.held owner me := by
        refine held_stepThread_of_perform me fun instruction upcoming => ?_
        exact held_perform_of_ne _ _ mine (by simpa [upcoming] using own)
      rw [others]
      rcases strand_stepThread_of_ne state index mine with same | ⟨none, fresh⟩
      · rw [same]
        exact accounted.exact me
      · exact exact_fresh fresh (none ▸ accounted.exact me)

theorem accounted_of_turns {start last : State} {touched : List (Nat × String)}
    (begins : AtStart start) (run : Runs Turn start touched last)
    (own : ∀ touch ∈ touched, owner touch.2 = touch.1) : Accounted owner last := by
  induction run with
  | start =>
    refine ⟨by simp [begins.records], fun index => ?_⟩
    have none : start.held owner index = 0 := by simp [held, begins.records]
    rw [none]
    rcases begins.strand_cases index with fresh | gone
    · exact exact_fresh fresh ⟨rfl, fun _ => rfl⟩
    · exact gone ▸ ⟨rfl, fun _ => rfl⟩
  | next early turn ih =>
    have accounted := ih fun touch member => own touch (List.mem_append_left _ member)
    cases turn with
    | elapse | switch => exact ⟨accounted.distinct, accounted.exact⟩
    | step index =>
      refine accounted_stepThread accounted fun name member => ?_
      exact own (index, name) (List.mem_append_right _ (List.mem_map_of_mem member))

/-- A region that ends leaves both counters as it found them. Only what was kept under a name while
it was active, or taken, makes a difference. -/
theorem region_restores {outer : Strand Instruction Site} {early : Nat} {site : Site}
    {body handler todo : List Step} (accounted : Accounted owner state) (first : Exact early outer)
    (entering : outer.control = .run (.protect site body handler :: todo))
    (innermost : (state.strand index).frames = .protect site handler todo :: outer.frames)
    (left : ((state.stepThread index).strand index).frames = outer.frames) :
    ((state.stepThread index).strand index).counts.handlers = outer.counts.handlers ∧
      ((state.stepThread index).strand index).counts.live + early =
        outer.counts.live + state.held owner index := by
  have entered := first.live (by simp [entering])
  rw [entering] at entered
  have moved := strand_stepThread state index
  have ends := region_ends innermost ((congrArg Strand.frames moved).symm.trans left)
  rw [← moved] at ends
  -- no instruction is carried out as the region ends
  have silent : (state.strand index).upcoming = none := by
    rcases ends with ⟨way, -⟩ | ⟨_, way, -⟩ | ⟨_, way, -⟩ <;> simp [Strand.upcoming, way]
  have unchanged : (state.stepThread index).held owner index = state.held owner index :=
    held_stepThread_of_perform index fun _ upcoming => by cases silent.symm.trans upcoming
  have own (name : String) (member : name ∈ (state.strand index).upcoming.elim []
      Instruction.touches) : owner name = index := by
    simp [silent] at member
  have finished := (exact_stepThread accounted own).1
  rw [unchanged] at finished
  have quiet : ((state.stepThread index).strand index).counts.live =
      state.held owner index + recordsOn outer.frames := by
    rcases ends with ⟨-, now⟩ | ⟨_, -, now⟩ | ⟨_, -, now⟩
    · simpa [now, left, Control.records] using finished.live
    · simpa [now, left, Control.records] using finished.live
    · simpa [now, left, Control.records, Payload.records] using finished.live
  constructor
  · rw [finished.handlers, left, first.handlers]
  · rw [quiet, entered]
    simp only [Control.records]
    omega

end

/-- Both counters are exact on every thread, whatever the programs and the order of turns. The
number of handlers is the number of regions on the stack: those that were entered and not left,
also while cleanups inside them run, and no more in a handler or once a foreign unwind has passed.
The number of live records is the number of those on their way, suspended by cleanups, or kept
under a name of the thread. So it is between steps and at every point that a step tells. Neither
counter is ever taken below zero, and a region that ends in any way leaves both as it found them,
but for records kept or taken meanwhile. -/
theorem counters_exact {owner : String → Nat} {start entry last : State}
    {before between : List (Nat × String)} (begins : AtStart start)
    (early : Runs Turn start before entry) (late : Runs Turn entry between last)
    (own : ∀ touch ∈ before ++ between, owner touch.2 = touch.1) (me : Nat) :
    let strand := last.strand me
    let outer := entry.strand me
    let after := (last.stepThread me).strand me
    strand.counts.handlers = regionsOn strand.frames ∧
      (strand.control ≠ .halted → strand.counts.live =
        last.held owner me + strand.control.records + recordsOn strand.frames) ∧
      ((∀ touch ∈ last.touchedBy me, owner touch.2 = touch.1) →
        ∀ point ∈ strand.told (host me) last, point.1.handlers = regionsOn after.frames ∧
          (point.2 ≠ .cleanupEscaped → point.1.live =
            (last.stepThread me).held owner me + point.2.inHand + recordsOn after.frames)) ∧
      (∀ frame ∈ strand.frames, frame.isRegion = true → 0 < strand.counts.handlers) ∧
      (∀ record, strand.control = .unwind (.managed record) → 0 < strand.counts.live) ∧
      (∀ name ∈ last.records.map Prod.fst, owner name = me → strand.control ≠ .halted →
        0 < strand.counts.live) ∧
      ∀ site body handler todo, outer.control = .run (.protect site body handler :: todo) →
        strand.frames = .protect site handler todo :: outer.frames →
        after.frames = outer.frames →
        after.counts.handlers = outer.counts.handlers ∧
          after.counts.live + entry.held owner me = outer.counts.live + last.held owner me := by
  intro strand outer after
  have accounted := accounted_of_turns begins (early.append late) own
  have exact : Exact (last.held owner me) strand := accounted.exact me
  refine ⟨exact.handlers, exact.live, ?_, ?_, ?_, ?_, ?_⟩
  · intro touches
    exact (exact_stepThread accounted fun name member =>
      touches (me, name) (List.mem_map_of_mem member)).2
  · intro frame member region
    rw [exact.handlers]
    exact List.countP_pos_iff.mpr ⟨frame, member, region⟩
  · intro record way
    rw [exact.live (by simp [way]), way]
    simp only [Control.records, Payload.records]
    omega
  · intro name member mine running
    have some : 0 < last.held owner me := by
      obtain ⟨kept, there, rfl⟩ := List.mem_map.mp member
      exact List.countP_pos_iff.mpr ⟨kept, there, by simpa using mine⟩
    rw [exact.live running]
    omega
  · intro site body handler todo entering innermost left
    have first := accounted_of_turns begins early fun touch member =>
      own touch (List.mem_append_left _ member)
    exact region_restores accounted (first.exact me) entering innermost left

/-- A thread whose cleanup throws in a region of its own, and one that keeps a record. -/
def throwingTwice : State where
  machine := {}
  threads := #[
    { strand := { control := .run [.protect (.attempt .direct none false)
        [.guarded (.guarded "frame") [.act (.throw "$null" .direct)]
          [.protect (.attempt .direct none false) [.act (.throw "$null" .direct)] []]] []] } },
    { strand := { control := .run [.act (.capture "kept" "$null" 1)] } }]

/-- Two exceptions of the first thread are on their way at once. -/
def thrownTwice : State := throwingTwice.takeTurns [0, 0, 0, 1, 0, 0, 0]

theorem counters_exact_nested : ∃ touched, Runs Turn throwingTwice touched thrownTwice ∧
    (thrownTwice.strand 0).counts = ⟨2, 2⟩ ∧ (thrownTwice.strand 1).counts = ⟨0, 1⟩ := by
  have begins : AtStart throwingTwice := by
    refine ⟨fun strand member => ?_, rfl⟩
    simp only [throwingTwice, strands, List.map_toArray, List.map_cons, List.map_nil,
      List.mem_toArray, List.mem_cons, List.not_mem_nil, or_false] at member
    rcases member with rfl | rfl <;> exact ⟨_, rfl⟩
  have run : Runs Turn throwingTwice (throwingTwice.touchedIn [0, 0, 0, 1, 0, 0, 0]) thrownTwice :=
    runs_takeTurns throwingTwice _
  have own : ∀ touch ∈ [] ++ throwingTwice.touchedIn [0, 0, 0, 1, 0, 0, 0],
      Function.const String 1 touch.2 = touch.1 := by
    decide +kernel
  have counts (me : Nat) (goesOn : isActive (thrownTwice.thread me) = true) :
      (thrownTwice.strand me).counts = ⟨regionsOn (thrownTwice.strand me).frames,
        thrownTwice.held (Function.const String 1) me + (thrownTwice.strand me).control.records +
          recordsOn (thrownTwice.strand me).frames⟩ := by
    have exact := counters_exact begins (.start _) run own me
    have running : (thrownTwice.strand me).control ≠ .halted := by
      intro halted
      rw [strand] at halted
      simp [isActive, halted] at goesOn
    exact congr (congrArg Counts.mk exact.1) (exact.2.1 running)
  refine ⟨_, run, ?_, ?_⟩
  · rw [counts 0 (by decide +kernel)]
    decide +kernel
  · rw [counts 1 (by decide +kernel)]
    decide +kernel

end ManagedRuntime.Scenario.State
