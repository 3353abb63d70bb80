import ManagedRuntime.Proofs.Exception.Backtrace
import ManagedRuntime.Proofs.Exception.Carried
import ManagedRuntime.Proofs.Exception.Report
import ManagedRuntime.Proofs.Scenario.Consultations
import ManagedRuntime.Proofs.Scenario.Counters

/-! How long the backtraces in a process are. Whatever record its threads carry, keep or report was
captured to a depth that an instruction gave, or to the one that is configured. -/
namespace ManagedRuntime.Scenario.State
open Exception

/-- A bound for the frames of one capture, and who set it. -/
inductive Depth
  | given (frames : UInt64)
  | configured (frames : UInt64)

def Depth.frames : Depth → UInt64
  | .given frames | .configured frames => frames

/-- The depths that an instruction captures to. -/
def depthsOf (state : State) (me : Nat) (counts : Counts) (height : Nat)
    (instruction : Instruction) : List Depth :=
  match instruction with
  | .raise _ depth _ | .capture _ _ depth => [.given depth]
  | _ =>
    if ((host me).perform counts height instruction state).1.isThrow then
      [.configured state.machine.readSettings.1.backtraceDepth]
    else []

/-- Those of the next turn of a thread. -/
def depths (state : State) (me : Nat) : List Depth :=
  (state.strand me).upcoming.elim []
    (state.depthsOf me (state.strand me).counts (state.strand me).frames.length)

/-- Threads take turns in any order, whatever time it is and whatever the variables are. -/
inductive Captures : State → List Depth → State → Prop
  | turn (state : State) (me : Nat) : Captures state (state.depths me) (state.stepThread me)
  | elapse (state : State) (clock : Nat) : Captures state [] { state with clock }
  | switch (state : State) (running : Nat) : Captures state [] { state with running }
  | surround (state : State) (environment : Environment) :
      Captures state [] (state.setMachine { state.machine with environment })

/-- The record was captured to one of these depths, from the stack of some moment. -/
def CapturedTo (depths : List Depth) (record : ExceptionRecord) : Prop :=
  ∃ depth ∈ depths, ∃ height, record =
    .capture record.throwable depth.frames (stackOf height)

theorem CapturedTo.mono {fewer more : List Depth} {record : ExceptionRecord}
    (captured : CapturedTo fewer record) (within : ∀ depth ∈ fewer, depth ∈ more) :
    CapturedTo more record := by
  obtain ⟨depth, among, height, same⟩ := captured
  exact ⟨depth, within depth among, height, same⟩

section
variable {state : State} {me : Nat} {counts : Counts} {height : Nat} {record : ExceptionRecord}

theorem capturedTo_of_throw {instruction : Instruction} {mode : UnwindMode}
    (thrown : ((host me).perform counts height instruction state).1 = .throw mode record) :
    CapturedTo (state.depthsOf me counts height instruction) record := by
  have captured := (throw_reads thrown).1.record
  have throws : ((host me).perform counts height instruction state).1.isThrow = true :=
    Reply.isThrow_iff.mpr ⟨mode, record, thrown⟩
  refine ⟨.configured state.machine.readSettings.1.backtraceDepth, ?_, height, captured⟩
  cases instruction with
  | raise => cases thrown
  | capture name reference depth =>
    have idle : ((host me).perform counts height (.capture name reference depth) state).1.isIdle =
        true := idle_perform state me counts height rfl
    rw [thrown] at idle
    cases idle
  | _ => simp only [depthsOf, throws, if_true, List.mem_singleton]

/-- Of the instructions that do not throw only raises bring a record along: a new one, or one that
was kept. -/
theorem capturedTo_of_carried {instruction : Instruction}
    (member : record ∈ ((host me).perform counts height instruction state).1.carried) :
    CapturedTo (state.depthsOf me counts height instruction) record ∨
      ∃ name, (name, record) ∈ state.records := by
  have thrown {mode : UnwindMode} {other : ExceptionRecord}
      (answer : ((host me).perform counts height instruction state).1 = .throw mode other) :
      CapturedTo (state.depthsOf me counts height instruction) record := by
    rw [answer] at member
    obtain rfl := List.mem_singleton.mp member
    exact capturedTo_of_throw answer
  have idle {reply : Reply Instruction Site} (idle : reply.isIdle = true)
      (member : record ∈ reply.carried) : False := by
    cases reply with
    | done | pending | halted => cases member
    | run | throw | raise | raiseHeld | foreign => cases idle
  have called (r : Ref) (interface : Option UInt64) (index : Nat) (announced : Bool)
      (answer : ((host me).perform counts height instruction state).1 =
        (state.invoke me r interface index announced height counts).1) :
      CapturedTo (state.depthsOf me counts height instruction) record := by
    rcases invoke_cases state me counts r interface index announced height with
      resting | ⟨method, code⟩ | ⟨machine, throws⟩
    · exact (idle resting (answer ▸ member)).elim
    · rw [answer, code] at member
      cases member
    · exact thrown (answer.trans (congrArg Prod.fst throws))
  cases instruction with
  | raise name depth mode =>
    obtain rfl := List.mem_singleton.mp member
    exact .inl ⟨.given depth, List.mem_cons_self, height, rfl⟩
  | raiseCaptured name =>
    right
    simp only [host, perform, takeRecord] at member
    cases found : state.records.lookup name with
    | none =>
      rw [found] at member
      cases member
    | some kept =>
      rw [found] at member
      obtain rfl := List.mem_singleton.mp member
      obtain ⟨early, late, entries, -⟩ := List.lookup_eq_some_iff.mp found
      exact ⟨name, entries ▸ List.mem_append_right early List.mem_cons_self⟩
  | throw | rethrowLevel => exact .inl (thrown rfl)
  | foreign => cases member
  | call | invoke => exact .inl (called _ _ _ _ rfl)
  | start =>
    simp only [host, perform, startProgram_eq] at member
    split at member <;> cases member
  | nextJob =>
    simp only [host, perform, nextJob] at member
    split at member
    · cases member
    · split at member <;> cases member
  | _ => exact (idle (idle_perform state me counts height rfl) member).elim

/-- A record that is kept afterwards was kept before, or has just been captured. -/
theorem capturedTo_of_kept {instruction : Instruction} {name : String}
    (member : (name, record) ∈
      ((host me).perform counts height instruction state).2.2.records) :
    CapturedTo (state.depthsOf me counts height instruction) record ∨
      (name, record) ∈ state.records := by
  by_cases untouched : instruction.touches = []
  · rw [records_perform state me counts height untouched] at member
    exact .inr member
  have left {others : String} (member : (name, record) ∈ state.records.filter (·.1 != others)) :
      (name, record) ∈ state.records := (List.mem_filter.mp member).1
  cases instruction with
  | capture other reference depth =>
    have records :
        ((host me).perform counts height (.capture other reference depth) state).2.2.records =
          (other, .capture (state.reference reference) depth (stackOf height)) ::
          state.records.filter (·.1 != other) :=
      congrArg Prod.snd ((core_flushJournal _ me).trans
        (core_capture state me other (state.reference reference) depth height counts))
    rw [records] at member
    rcases List.mem_cons.mp member with now | earlier
    · obtain ⟨rfl, rfl⟩ := Prod.mk.inj now
      exact .inl ⟨.given depth, List.mem_cons_self, height, rfl⟩
    · exact .inr (left earlier)
  | release other =>
    have records : ((host me).perform counts height (.release other) state).2.2.records =
        state.records.filter (·.1 != other) :=
      congrArg Prod.snd ((core_flushJournal _ me).trans
        (core_releaseRecord state me other counts))
    exact .inr (left (records ▸ member))
  | raiseCaptured other =>
    have records : ((host me).perform counts height (.raiseCaptured other) state).2.2.records =
        state.records.filter (·.1 != other) := by
      simp only [host, perform, takeRecord]
      split <;> next taken => obtain ⟨-, rfl⟩ := Prod.mk.inj taken; rfl
    exact .inr (left (records ▸ member))
  | _ => exact absurd rfl untouched

end

/-- Whatever the threads carry or keep was captured to one of these depths, and the configured ones
among them are what the settings in force say. -/
structure Bounded (depths : List Depth) (state : State) : Prop where
  carried : ∀ me, Carries (CapturedTo depths) (state.strand me)
  kept : ∀ name record, (name, record) ∈ state.records → CapturedTo depths record
  configured : ∀ frames, .configured frames ∈ depths → ∃ settings,
    state.machine.settings.installed = some settings ∧ settings.backtraceDepth = frames

section
variable {state : State} {depths : List Depth} (me : Nat)

/-- A turn as far as the surroundings of the thread are concerned. -/
theorem performed_stepThread (state : State) (me : Nat) :
    (state.stepThread me).records = ((state.strand me).performed (host me) state).records ∧
      (state.stepThread me).machine.settings =
        ((state.strand me).performed (host me) state).machine.settings := by
  have heard := (state.strand me).step_hears
    (fun before after : State => after.records = before.records ∧
      after.machine.settings = before.machine.settings)
    (fun _ => ⟨rfl, rfl⟩)
    (fun early late => ⟨late.1.trans early.1, late.2.trans early.2⟩)
    (fun counts signal state => ⟨congrArg Prod.snd (core_hear state me counts signal),
      settings_hear me counts signal state⟩) state
  rw [records_stepThread, machine_stepThread]
  exact heard

theorem carries_fresh {strand : Strand Instruction Site} (fresh : IsFresh strand)
    (good : ExceptionRecord → Prop) : Carries good strand := by
  obtain ⟨program, rfl⟩ := fresh
  exact ⟨nofun, nofun⟩

theorem installed_of_read (machine : Machine) :
    machine.readSettings.2.settings.installed = some machine.readSettings.1 := by
  rw [(Machine.settings_readSettings machine).1, Machine.readSettings_fst]
  unfold SettingsCell.read
  split
  · next held => exact held
  · split <;> rfl

/-- The depth a throw is captured to is what the settings say from then on. -/
theorem configured_stepThread (frames : UInt64) (member : .configured frames ∈ state.depths me) :
    ∃ settings, (state.stepThread me).machine.settings.installed = some settings ∧
      settings.backtraceDepth = frames := by
  rw [(performed_stepThread state me).2]
  unfold depths at member
  unfold Strand.performed
  cases next : (state.strand me).upcoming with
  | none =>
    rw [next] at member
    cases member
  | some instruction =>
    rw [next] at member
    have throws : ((host me).perform (state.strand me).counts (state.strand me).frames.length
          instruction state).1.isThrow = true ∧
        frames = state.machine.readSettings.1.backtraceDepth := by
      cases instruction with
      | raise | capture =>
        obtain ⟨⟩ := List.mem_singleton.mp member
      | _ =>
        simp only [Option.elim_some, depthsOf] at member
        split at member
        · next thrown =>
          obtain ⟨rfl⟩ := List.mem_singleton.mp member
          exact ⟨thrown, rfl⟩
        · cases member
    obtain ⟨thrown, rfl⟩ := throws
    obtain ⟨mode, record, thrown⟩ := Reply.isThrow_iff.mp thrown
    refine ⟨state.machine.readSettings.1, ?_, rfl⟩
    dsimp only
    rw [(throw_reads thrown).2, installed_of_read]

/-- Settings in force stay so. -/
theorem installed_stepThread {settings : Settings}
    (held : state.machine.settings.installed = some settings) :
    (state.stepThread me).machine.settings.installed = some settings := by
  refine (runs_stepThread me state).invariant
    (fun cell => cell.installed = some settings) ?_ held
  intro cell calls after held consults
  rw [(SettingsCell.findsOut_of_held held consults).1]
  exact held

/-- What an instruction captures in a turn. -/
theorem CapturedTo.now {instruction : Instruction} {record : ExceptionRecord}
    (captured : CapturedTo (state.depthsOf me (state.strand me).counts
      (state.strand me).frames.length instruction) record)
    (next : (state.strand me).upcoming = some instruction) :
    CapturedTo (depths ++ state.depths me) record := by
  apply captured.mono
  intro depth among
  apply List.mem_append_right
  rw [State.depths, next]
  exact among

theorem captured_stepThread (bounded : Bounded depths state) :
    ∀ instruction, (state.strand me).upcoming = some instruction →
      ∀ record ∈ ((host me).perform (state.strand me).counts (state.strand me).frames.length
        instruction state).1.carried, CapturedTo (depths ++ state.depths me) record := by
  intro instruction next record member
  rcases capturedTo_of_carried member with now | ⟨name, kept⟩
  · exact now.now me next
  · exact (bounded.kept name record kept).mono fun _ => List.mem_append_left _

theorem bounded_stepThread (bounded : Bounded depths state) :
    Bounded (depths ++ state.depths me) (state.stepThread me) := by
  have earlier : ∀ depth ∈ depths, depth ∈ depths ++ state.depths me :=
    fun _ => List.mem_append_left _
  have wider (record : ExceptionRecord) (captured : CapturedTo depths record) :=
    captured.mono earlier
  have own := carries_step ((bounded.carried me).imp wider) (captured_stepThread me bounded)
  constructor
  · intro other
    by_cases mine : other = me
    · subst mine
      rw [strand_stepThread]
      exact own.1
    · rcases strand_stepThread_of_ne state me mine with same | ⟨-, fresh⟩
      · rw [same]
        exact (bounded.carried other).imp wider
      · exact carries_fresh fresh _
  · intro name record member
    rw [(performed_stepThread state me).1] at member
    unfold Strand.performed at member
    cases next : (state.strand me).upcoming with
    | none =>
      rw [next] at member
      exact wider record (bounded.kept name record member)
    | some instruction =>
      rw [next] at member
      rcases capturedTo_of_kept member with now | kept
      · exact now.now me next
      · exact wider record (bounded.kept name record kept)
  · intro frames member
    rcases List.mem_append.mp member with before | now
    · obtain ⟨settings, held, same⟩ := bounded.configured frames before
      exact ⟨settings, installed_stepThread me held, same⟩
    · exact configured_stepThread me frames now

end

theorem bounded_of_runs {first last : State} {depths : List Depth} (begins : AtStart first)
    (run : Runs Captures first depths last) : Bounded depths last := by
  induction run with
  | start =>
    refine ⟨fun me => ?_, fun name record member => ?_, fun _ none => by cases none⟩
    · rcases begins.strand_cases me with fresh | none
      · exact carries_fresh fresh _
      · rw [none]
        exact ⟨nofun, nofun⟩
    · rw [begins.records] at member
      cases member
  | next _ step ih =>
    cases step with
    | turn me => exact bounded_stepThread me ih
    | elapse | switch | surround =>
      rw [List.append_nil]
      exact ⟨ih.carried, ih.kept, ih.configured⟩

theorem told_of_bounded {state : State} {depths : List Depth} (bounded : Bounded depths state)
    (me : Nat) : ∀ point ∈ (state.strand me).told (host me) state, ∀ record ∈ point.2.carried,
      CapturedTo (depths ++ state.depths me) record := by
  have wider (record : ExceptionRecord) (captured : CapturedTo depths record) :=
    captured.mono fun _ => List.mem_append_left (state.depths me)
  exact (carries_step ((bounded.carried me).imp wider) (captured_stepThread me bounded)).2

/-- A capture keeps just as many of the innermost frames as its depth allows, and whoever captures
is shown these frames only: nothing after the last one, and nothing at all for depth zero. Along
every run the records that threads carry, keep and tell of were captured so, to a depth that an
instruction gave or to the configured one, which is the same for all throws; and a report has one
line for each of their frames. -/
theorem backtraces_truncate_exactly :
    (∀ depth stack, Truncates depth stack ∧
      (captureBacktrace depth stack).length = min depth.toNat stack.length) ∧
    (∀ stack, (observedCapture 0 stack).2 = []) ∧
    (∀ depths record, CapturedTo depths record → ∃ depth ∈ depths, ∃ height,
      record.backtrace = (stackOf height).take depth.frames.toNat ∧
      ∀ symbols name, (reportLines symbols name record).length =
        min depth.frames.toNat (stackOf height).length + 1) ∧
    ∀ first depths last, AtStart first → Runs Captures first depths last →
      (∀ me, Carries (CapturedTo depths) (last.strand me)) ∧
      (∀ name record, (name, record) ∈ last.records → CapturedTo depths record) ∧
      (∀ me, ∀ point ∈ (last.strand me).told (host me) last, ∀ record ∈ point.2.carried,
        CapturedTo (depths ++ last.depths me) record) ∧
      ∀ frames, .configured frames ∈ depths →
        last.machine.readSettings.1.backtraceDepth = frames := by
  refine ⟨fun depth stack => ⟨capture_truncates depth stack, length_captureBacktrace depth stack⟩,
    fun stack => rfl, ?_, ?_⟩
  · rintro depths record ⟨depth, among, height, captured⟩
    have backtrace : record.backtrace = captureBacktrace depth.frames (stackOf height) :=
      congrArg ExceptionRecord.backtrace captured
    refine ⟨depth, among, height, ?_, fun symbols name => ?_⟩
    · rw [backtrace, (capture_truncates ..).kept]
    · rw [reportLines, List.length_cons, List.length_map, backtrace, length_captureBacktrace]
  · intro first depths last begins run
    have bounded := bounded_of_runs begins run
    refine ⟨bounded.carried, bounded.kept, told_of_bounded bounded, fun frames member => ?_⟩
    obtain ⟨settings, held, same⟩ := bounded.configured frames member
    rw [Machine.readSettings_of_installed held, same]

/-- A thread keeps a record of a single frame and then throws, where two frames are configured. -/
def shortening : State where
  machine := { settings := ⟨some { backtraceDepth := 2 }⟩ }
  threads := #[{ strand := { control := .run [.act (.capture "kept" "$null" 1),
    .act (.throw "$null" .direct)] } }]

theorem backtraces_truncate_exactly_shortening :
    let kept := ExceptionRecord.capture .null 1 (stackOf 0)
    let thrown := ExceptionRecord.capture .null 2 (stackOf 0)
    let last := shortening.stepThread 0
    Runs Captures shortening [.given 1] last ∧ CapturedTo [.given 1] kept ∧
      CapturedTo [.given 1, .configured 2] thrown ∧
      kept.backtrace.length = 1 ∧ thrown.backtrace.length = 2 ∧
      ∀ name, (reportLines noSymbols name kept).length = 2 := by
  intro kept thrown last
  have run : Runs Captures shortening [.given 1] last := .one (.turn shortening 0)
  have begins : AtStart shortening := by
    refine ⟨fun strand member => ?_, rfl⟩
    simp only [shortening, strands, List.map_toArray, List.map_cons, List.map_nil,
      List.mem_toArray, List.mem_singleton] at member
    exact ⟨_, member⟩
  obtain ⟨-, held, told, -⟩ := backtraces_truncate_exactly.2.2.2 shortening _ last begins run
  have single : CapturedTo [.given 1] kept := held "kept" kept List.mem_cons_self
  refine ⟨run, single, ?_, rfl, rfl, fun name => ?_⟩
  · exact told 0 (⟨0, 2⟩, .uncaught thrown) List.mem_cons_self thrown List.mem_cons_self
  · obtain ⟨depth, among, height, -, lines⟩ := backtraces_truncate_exactly.2.2.1 _ _ single
    obtain rfl := List.mem_singleton.mp among
    have high : (stackOf height).length = height + 3 := by
      simp only [stackOf, List.length_map, List.length_range]
    have one : (Depth.given 1).frames.toNat = 1 := rfl
    rw [lines noSymbols name, high, one]
    omega

end ManagedRuntime.Scenario.State
