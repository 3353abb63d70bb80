import ManagedRuntime.Proofs.Scenario.Disguise
import ManagedRuntime.Proofs.Scenario.EndOfStack
import ManagedRuntime.Proofs.Scenario.Persistence
import ManagedRuntime.Proofs.Scenario.Replies

/-! Throws that end the process where they happen. Until the first of them a program does the same
as one whose throws look for a catch region. -/
namespace ManagedRuntime.Scenario
open Exception

/-- Shows and sets no settings, and neither starts threads nor gives them work. -/
def Instruction.isDiscreet : Instruction → Bool
  | .config | .start _ _ _ _ _ | .started _ | .spawn _ _ _ _ | .stress _ _ _ _ | .assign _ _ _ _
  | .nextJob => false
  | _ => true

def Instruction.Discreet (instruction : Instruction) : Prop := instruction.isDiscreet = true

/-- With these settings in force, and nothing else changed. -/
def forcing (settings : Settings) : Guise := { machine := { settings := some ⟨some settings⟩ } }

namespace State

def withSettings (state : State) (settings : Settings) : State :=
  { state with machine := { state.machine with settings := ⟨some settings⟩ } }

theorem under_forcing (state : State) (settings : Settings) :
    state.under (forcing settings) = state.withSettings settings := by
  rw [state.under_of_plain rfl rfl rfl, Machine.under_of_plain ⟨rfl, rfl, rfl⟩ (.inl rfl)]
  rfl

/-! Discreet programs stay discreet. -/

section
variable (state : State) (me : Nat) (counts : Exception.Counts)

theorem discreet_perform (height : Nat) {instruction : Instruction}
    (discreet : instruction.Discreet) :
    ∀ other ∈ ((host me).perform counts height instruction state).1.instructions,
      other.Discreet := by
  intro other member
  have compiled := compiled_perform state me counts height
    (show instruction.bringsSteps = false by cases instruction <;> first | rfl | cases discreet)
    other member
  cases other with
  | lock | load | store | unlock | tellCall => rfl
  | _ => cases compiled

end

/-- Whatever the threads of the state may come to is discreet. -/
def IsDiscreet (state : State) : Prop :=
  ∀ index, (state.strand index).Within Instruction.Discreet

theorem discreet_stepThread {state : State} (discreet : state.IsDiscreet) (me : Nat) :
    (state.stepThread me).IsDiscreet := by
  intro index
  by_cases mine : index = me
  · subst mine
    rw [strand_stepThread]
    refine Strand.within_step (discreet index) fun instruction next => ?_
    exact discreet_perform state index _ _ ((discreet index).upcoming next)
  · have stepped : ((state.strand me).step (host me) state).2.strands = state.strands :=
      (Strand.step_relates (fun before after : State => after.strands = before.strands)
        (fun _ => rfl) (fun early late => late.trans early)
        (fun counts signal state => congrArg Prod.fst (core_hear state me counts signal))
        (state.strand me) state fun instruction next => by
          refine strands_perform state me _ _ ?_
          have allowed := (discreet me).upcoming next
          cases instruction with
          | spawn | stress => cases allowed
          | _ => rfl)
    rw [strand_of_kept stepped mine]
    exact discreet index

theorem discreet_of_threads {before after : State} (same : after.threads = before.threads)
    (discreet : before.IsDiscreet) : after.IsDiscreet := by
  intro index
  have strand : after.strand index = before.strand index := by simp only [strand, thread, same]
  rw [strand]
  exact discreet index

theorem discreet_advance {state : State} (discreet : state.IsDiscreet) :
    state.advance.IsDiscreet := by
  cases stopped : state.isOver with
  | true => simpa only [advance, stopped, if_true] using discreet
  | false =>
    cases chosen : state.choose with
    | some me =>
      have switched : { state with running := me }.IsDiscreet := discreet_of_threads rfl discreet
      simpa only [advance, stopped, chosen, Bool.false_eq_true, if_false] using
        discreet_stepThread switched me
    | none =>
      cases next : state.nextMoment with
      | some moment =>
        have later : { state with clock := moment }.IsDiscreet := discreet_of_threads rfl discreet
        simpa only [advance, stopped, chosen, next, Bool.false_eq_true, if_false] using later
      | none =>
        simpa only [advance, stopped, chosen, next, Bool.false_eq_true, if_false] using discreet

theorem discreet_run {state : State} (discreet : state.IsDiscreet) (fuel : Nat) :
    (state.run fuel).IsDiscreet := by
  induction fuel with
  | zero => exact discreet
  | succ fuel ih =>
    rw [run_advance]
    exact discreet_advance ih

/-! Other settings in force. -/

theorem faithful_forcing (settings : Settings) : (forcing settings).Faithful :=
  ⟨rfl, fun _ => rfl, fun _ => rfl⟩

/-- The thread that throws with the next step, and the record of what it throws. -/
def throwing (state : State) : Option (Nat × ExceptionRecord) :=
  state.upNext.bind fun (me, instruction) =>
    match (state.answer me instruction).1 with
    | .throw _ record => some (me, record)
    | _ => none

theorem advance_forcing {state : State} {settings : Settings} {mode : UnwindMode}
    (installed : state.machine.settings.installed = some { settings with unwind := mode })
    (discreet : state.IsDiscreet) (calm : state.throwing = none) :
    (state.withSettings settings).advance = state.advance.withSettings settings := by
  have faithful := faithful_forcing settings
  have alike : Matches (forcing settings) {} state (state.withSettings settings) :=
    matches_plain.mpr (under_forcing state settings).symm
  rw [← under_forcing state.advance]
  refine matches_plain.mp
    (alike.advance rfl ⟨rfl, rfl, rfl⟩ ⟨rfl, rfl, rfl⟩ (hears_faithful faithful) ?_)
  intro me instruction next
  have allowed : instruction.Discreet := (discreet me).upcoming (upNext_eq_some next).2.2
  have fits : Machine.Fits (forcing settings).machine state.machine := by
    refine ⟨rfl, ?_⟩
    rintro cell ⟨⟩
    exact ⟨settings, mode, rfl, installed⟩
  have quiet (mode : UnwindMode) (record : ExceptionRecord) :
      (state.answer me instruction).1 ≠ .throw mode record := by
    intro thrown
    simp [throwing, next, thrown] at calm
  have allows : (forcing settings).Allows { state with running := me } me (state.strand me).counts
      (state.strand me).frames.length instruction :=
    { calm := .inr quiet
      fits := fun _ => fits
      unseen := fun shown => by
        cases instruction with
        | config | start => cases allowed
        | _ => cases shown
      logs := fun _ => ⟨fun _ => ⟨rfl, (Logger.limited_all _).symm⟩, rfl⟩
      known := fun _ => .inl rfl
      tokens := fun _ => ⟨rfl, rfl, rfl⟩ }
  have answered := answers_faithful faithful allows
  rw [under_forcing] at answered
  exact answered

theorem withSettings_of_installed {state : State} {settings : Settings}
    (installed : state.machine.settings.installed = some settings) :
    state.withSettings settings = state := by
  have cell : state.machine.settings = ⟨some settings⟩ := congrArg SettingsCell.mk installed
  simp only [withSettings, ← cell]

theorem installed_advance {state : State} {settings : Settings}
    (installed : state.machine.settings.installed = some settings) (discreet : state.IsDiscreet)
    (calm : state.throwing = none) :
    state.advance.machine.settings.installed = some settings := by
  have same := @advance_forcing state settings settings.unwind installed discreet calm
  rw [withSettings_of_installed installed] at same
  rw [same]
  rfl

/-- Up to the first throw, runs with and without a search for catch regions go together. -/
theorem run_forcing {state : State} {settings held : Settings} {mode : UnwindMode}
    (held_eq : held = { settings with unwind := mode })
    (installed : state.machine.settings.installed = some held) (discreet : state.IsDiscreet)
    (fuel : Nat) (calm : ∀ earlier < fuel, (state.run earlier).throwing = none) :
    (state.withSettings settings).run fuel = (state.run fuel).withSettings settings ∧
      (state.run fuel).machine.settings.installed = some held := by
  induction fuel with
  | zero => exact ⟨rfl, installed⟩
  | succ fuel ih =>
    obtain ⟨together, still⟩ := ih fun earlier before => calm earlier (by omega)
    have quiet := calm fuel (by omega)
    have modest := discreet_run discreet fuel
    rw [run_advance, run_advance, together]
    exact ⟨advance_forcing (held_eq ▸ still) modest quiet, installed_advance still modest quiet⟩

/-! A throw that looks for no region. -/

/-- The process ends with the report on an exception. The report is written at the throw, then the
record is released, and then the process exits. Nothing else is told, every frame is as it was, and
so is the memory. -/
structure EndsAtThrow (me : Nat) (record : ExceptionRecord) (before : State) : Prop where
  told : ((before.strand me).told (host me) { before with running := me }).map Prod.snd =
    [.uncaught record]
  report : ∃ early, before.advance.machine.errors =
    before.machine.errors ++ early ++ utf8 (reportText (before.currentName me) record)
  releases : ReleasesNext me record before.advance
  released : before.advance.advance = before.advance.stepThread me
  exits : ExitsNext me before.advance.advance
  exited : before.advance.advance.advance = before.advance.advance.stepThread me
  frames : ∀ index, (before.advance.advance.advance.strand index).frames =
    (before.strand index).frames
  heap : before.advance.advance.advance.machine.heap = before.machine.heap
  final : ∀ fuel, before.advance.advance.advance.run fuel = before.advance.advance.advance

theorem run_of_ended {state : State} (stopped : state.machine.ended.isSome = true) (fuel : Nat) :
    state.run fuel = state := by
  cases fuel with
  | zero => rfl
  | succ fuel =>
    have stopped : state.isOver = true := by simp only [isOver, stopped, Bool.true_or]
    simp only [run, stopped, if_true]

/-! Which instructions throw, and how. -/

theorem throwReply_of_installed {state : State} {settings : Settings}
    (installed : state.machine.settings.installed = some settings) (me : Nat) (r : Ref)
    (route : Route) (height : Nat) (counts : Exception.Counts) :
    state.throwReply me r route height counts =
      (.throw settings.unwind (.capture r settings.backtraceDepth (stackOf height)), counts,
        state.flushJournal me) := by
  simp only [throwReply_eq, Machine.readSettings_of_installed installed]
  rfl

theorem runMethod_throws {state : State} {me : Nat} {r : Ref} {method : UInt64}
    {announced : Bool} {height : Nat} {counts : Exception.Counts} {mode : UnwindMode}
    {record : ExceptionRecord}
    (thrown : (state.runMethod me r method announced height counts).1 = .throw mode record)
    {other : State} (same : other.codeBase = state.codeBase) :
    other.runMethod me r method announced height counts =
      other.throwReply me r .entryPoint height counts := by
  cases decoded : MethodCode.ofAddress state.codeBase method with
  | compiled code =>
    simp only [runMethod, decoded, same] at thrown ⊢
    cases code with
    | throwing => rfl
    | get | increment | abstract => cases thrown
  | stub stub =>
    simp only [runMethod, decoded] at thrown
    split at thrown <;> cases thrown
  | unknown =>
    simp only [runMethod, decoded] at thrown
    cases thrown

/-- What a throw finds: the reference it throws, and the process, in which at most an error was
logged. -/
structure Throws (me : Nat) (counts : Exception.Counts) (height : Nat) (instruction : Instruction)
    (state : State) (r : Ref) (route : Route) (machine : Machine) : Prop where
  answer : ∀ guise, (host me).perform counts height instruction (state.under guise) =
    ((state.setMachine machine).under guise).throwReply me r route height counts
  settings : machine.settings = state.machine.settings
  environment : machine.environment = state.machine.environment
  heap : machine.heap = state.machine.heap
  ended : machine.ended = state.machine.ended
  errors : state.machine.errors <+: machine.errors

theorem perform_throws {state : State} {me : Nat} {counts : Exception.Counts} {height : Nat}
    {instruction : Instruction} {mode : UnwindMode} {record : ExceptionRecord}
    (thrown : ((host me).perform counts height instruction state).1 = .throw mode record) :
    ∃ r route machine, Throws me counts height instruction state r route machine := by
  have idle (idle : ((host me).perform counts height instruction state).1.isIdle = true) :
    False := by
    rw [thrown] at idle
    cases idle
  have called {r : Ref} {interface : Option UInt64} {index : Nat} {announced : Bool}
      (thrown : (state.invoke me r interface index announced height counts).1 =
        .throw mode record) :
      ∃ machine, (∀ guise, (state.under guise).invoke me r interface index announced height counts =
          ((state.setMachine machine).under guise).throwReply me r .entryPoint height counts) ∧
        (machine.settings = state.machine.settings ∧
          machine.environment = state.machine.environment) ∧
        machine.heap = state.machine.heap ∧ machine.ended = state.machine.ended ∧
        state.machine.errors <+: machine.errors := by
    cases interface with
    | none =>
      refine ⟨state.machine, fun guise => ?_, ⟨rfl, rfl⟩, rfl, rfl, List.prefix_rfl⟩
      simp only [invoke_none, EntryPoint.vtableLookup, machine_under,
        Machine.vtableLookup_under] at thrown ⊢
      exact runMethod_throws thrown rfl
    | some interface =>
      simp only [invoke_some] at thrown
      refine ⟨(EntryPoint.itableLookup state.machine r interface (UInt64.ofNat index)).2,
        fun guise => ?_, ?_⟩
      · simp only [invoke_some, machine_under, EntryPoint.itableLookup_under, setMachine_under]
        exact runMethod_throws thrown (codeBase_under ..)
      · refine ⟨EntryPoint.settings_itableLookup .., ?_⟩
        unfold EntryPoint.itableLookup
        split
        · exact ⟨rfl, rfl, List.prefix_rfl⟩
        · exact ⟨Machine.heap_log .., Machine.ended_log .., Machine.errors_log ..⟩
  cases instruction with
  | throw name route =>
    exact ⟨state.reference name, route, state.machine, fun _ => rfl, rfl, rfl, rfl, rfl,
      List.prefix_rfl⟩
  | rethrowLevel nest =>
    exact ⟨(state.tally nest).last, .direct, state.machine, fun _ => rfl, rfl, rfl, rfl, rfl,
      List.prefix_rfl⟩
  | call name interface index =>
    obtain ⟨machine, answer, ⟨settings, environment⟩, heap, ended, errors⟩ := called thrown
    exact ⟨_, .entryPoint, machine, answer, settings, environment, heap, ended, errors⟩
  | invoke receiver interface index announced =>
    obtain ⟨machine, answer, ⟨settings, environment⟩, heap, ended, errors⟩ := called thrown
    exact ⟨_, .entryPoint, machine, answer, settings, environment, heap, ended, errors⟩
  | foreign | raise => cases thrown
  | raiseCaptured name =>
    simp only [host, perform] at thrown
    split at thrown <;> cases thrown
  | start =>
    simp only [host, perform, startProgram_eq] at thrown
    split at thrown <;> cases thrown
  | nextJob =>
    simp only [host, perform, nextJob] at thrown
    split at thrown
    · cases thrown
    · split at thrown <;> cases thrown
  | _ => exact (idle (idle_perform state me counts height rfl)).elim

theorem upNext_withSettings (state : State) (settings : Settings) :
    (state.withSettings settings).upNext = state.upNext := by
  have stopped := isOver_under (forcing settings) state
  have chosen := choose_under (forcing settings) state
  rw [under_forcing] at stopped chosen
  simp only [upNext, stopped, chosen]
  rfl

/-- The throw of a process whose settings are installed. -/
theorem throwing_answer {state : State} {settings : Settings}
    (installed : state.machine.settings.installed = some settings) {me : Nat}
    {record : ExceptionRecord} (throwing : state.throwing = some (me, record)) :
    ∃ instruction machine,
      state.upNext = some (me, instruction) ∧
      state.answer me instruction = (.throw settings.unwind record, (state.strand me).counts,
        ({ state with running := me }.setMachine machine).flushJournal me) ∧
      (∀ other : Settings, other.backtraceDepth = settings.backtraceDepth →
        (state.withSettings other).throwing = some (me, record)) ∧
      machine.heap = state.machine.heap ∧ machine.ended = state.machine.ended ∧
      state.machine.errors <+: machine.errors := by
  obtain ⟨⟨index, instruction⟩, next, thrown⟩ := Option.bind_eq_some_iff.mp throwing
  dsimp only at thrown
  split at thrown
  · next mode found answered =>
    obtain ⟨rfl, rfl⟩ := Prod.mk.inj (Option.some.inj thrown)
    obtain ⟨r, route, machine, answer, kept, -, heap, ended, errors⟩ := perform_throws answered
    have held : machine.settings.installed = some settings := kept ▸ installed
    have here := answer {}
    rw [under_plain, under_plain, throwReply_of_installed held] at here
    have same : found = .capture r settings.backtraceDepth
        (stackOf (state.strand index).frames.length) := by
      have reply := answered.symm.trans (congrArg Prod.fst here)
      exact (Reply.throw.inj reply).2
    subst same
    refine ⟨instruction, machine, next, here, fun other depth => ?_, heap, ended, errors⟩
    have there := answer (forcing other)
    rw [under_forcing, under_forcing, throwReply_of_installed rfl, depth] at there
    have reply : ((state.withSettings other).answer index instruction).1 =
        .throw other.unwind (.capture r settings.backtraceDepth
          (stackOf (state.strand index).frames.length)) := congrArg Prod.fst there
    simp only [State.throwing, upNext_withSettings, next, Option.bind_some, reply]
  · cases thrown

/-- A turn in which an exception finds no region, from the answer that threw it. -/
theorem turn_unhandled {state later : State} {me : Nat} {instruction : Instruction}
    {mode : UnwindMode} {record : ExceptionRecord} {counts : Exception.Counts}
    (next : (state.strand me).upcoming = some instruction)
    (answered : (host me).perform (state.strand me).counts (state.strand me).frames.length
      instruction state = (.throw mode record, counts, later))
    (lost : Strand.reachesRegion mode counts.capture = false) :
    (state.strand me).step (host me) state =
        (⟨.exiting (some record), (state.strand me).frames, counts.capture⟩,
          hear me counts.capture (.uncaught record) later) ∧
      (state.strand me).told (host me) state = [(counts.capture, .uncaught record)] := by
  obtain ⟨todo, shape⟩ := Strand.eq_of_upcoming next
  generalize state.strand me = strand at *
  rw [shape]
  exact ⟨step_unhandled answered lost, told_unhandled answered lost⟩

theorem endsAtThrow {before : State} {settings : Settings}
    (installed : before.machine.settings.installed = some settings)
    (terminates : settings.unwind = .terminate) {me : Nat} {record : ExceptionRecord}
    (throwing : before.throwing = some (me, record)) : EndsAtThrow me record before := by
  obtain ⟨instruction, machine, next, answered, -, heap, ended, errors⟩ :=
    throwing_answer installed throwing
  obtain ⟨going, chosen, upcoming⟩ := upNext_eq_some next
  let now : State := { before with running := me }
  let later := (now.setMachine machine).flushJournal me
  let reported := hear me (before.strand me).counts.capture (.uncaught record) later
  have advanced : before.advance = now.stepThread me := by
    simp only [advance, going, chosen, Bool.false_eq_true, if_false]
    rfl
  have lost : Strand.reachesRegion settings.unwind (before.strand me).counts.capture = false := by
    rw [terminates]
    rfl
  obtain ⟨stepped, told⟩ := @turn_unhandled now later me _ _ _ _ upcoming answered lost
  have flushed : later.machine = { machine with journal := [] } := machine_flushJournal _ me
  have heard : OnlyHeard now reported :=
    (onlyHeard_setMachine now me heap).trans (onlyHeard_setMachine later me rfl)
  have control : (before.advance.strand me).control = .exiting (some record) := by
    rw [advanced, strand_stepThread]
    exact congrArg (fun moment => moment.1.control) stepped
  have turn : OnTurn me before.advance := by
    rw [advanced]
    refine OnTurn.next (onTurn_of_choose going chosen) stepped heard ?_ ?_ rfl
    · refine (ended_uncaught later me (before.strand me).counts.capture record).trans ?_
      rw [flushed]
      exact ended
    · obtain ⟨todo, shape⟩ := Strand.eq_of_upcoming upcoming
      have running : now.strand me = before.strand me := rfl
      rw [running, show before.strand me = _ from shape]
      rintro payload ⟨⟩
  obtain ⟨released, exited⟩ := advance_of_reported turn control
  have releases := releasesNext control
  have held : Leaving me record before.advance := .of_held control
  have freed : Leaving me record before.advance.advance := by
    rw [released]
    exact (held.step me).1
  have exits : ExitsNext me before.advance.advance := by
    rw [released]
    exact exitsNext releases.control
  have exited : before.advance.advance.advance = before.advance.advance.stepThread me := by
    rw [exited, released]
  refine ⟨congrArg (List.map Prod.snd) told, ?_, releases, released, exits, exited, ?_, ?_, ?_⟩
  · obtain ⟨early, more⟩ := errors
    have written := errors_uncaught later me (before.strand me).counts.capture record
    have name : later.currentName me = before.currentName me :=
      currentName_flushJournal (now.setMachine machine) me me
    have kept : later.machine.errors = machine.errors := by rw [flushed]; rfl
    refine ⟨early, ?_⟩
    rw [advanced, machine_stepThread, more, ← name, ← kept, ← written]
    exact congrArg (fun moment => moment.2.machine.errors) stepped
  · intro index
    rw [exited, freed.frames index, released, held.frames index, advanced]
    by_cases mine : index = me
    · subst mine
      rw [strand_stepThread]
      exact congrArg (fun moment => moment.1.frames) stepped
    · exact frames_stepThread_of_ne now me mine
  · rw [exited, exits.heap, released, releases.heap, advanced, machine_stepThread]
    exact (congrArg (fun moment => moment.2.machine.heap) stepped).trans heard.heap
  · refine run_of_ended ?_
    rw [exited, exits.ended]
    rfl

/-- Throws that look for no region cut a run short, and do nothing else to it. Up to the first
throw both runs go through the same states. There the process reports what was thrown and exits,
whatever frames are around the throw: none of them is left, unwound or told anything. -/
theorem degraded_runs (first : State) (settings : Settings) (discreet : first.IsDiscreet)
    (fuel : Nat) :
    let propagating := first.withSettings { settings with unwind := .propagate }
    let terminating := first.withSettings { settings with unwind := .terminate }
    (∀ earlier < fuel, (propagating.run earlier).throwing = none) →
      terminating.run fuel =
          (propagating.run fuel).withSettings { settings with unwind := .terminate } ∧
        ∀ me record, (propagating.run fuel).throwing = some (me, record) →
          EndsAtThrow me record (terminating.run fuel) ∧
            ∀ more, terminating.run (fuel + 3 + more) =
              (terminating.run fuel).advance.advance.advance := by
  intro propagating terminating calm
  obtain ⟨together, installed⟩ := @run_forcing propagating
    { settings with unwind := .terminate } { settings with unwind := .propagate } .propagate rfl rfl
    (discreet_of_threads rfl discreet) fuel calm
  refine ⟨together, fun me record throwing => ?_⟩
  obtain ⟨-, -, -, -, same, -⟩ := throwing_answer installed throwing
  have ends : EndsAtThrow me record (terminating.run fuel) := by
    refine @endsAtThrow _ { settings with unwind := .terminate } ?_ rfl me record ?_
    · exact (congrArg (·.machine.settings.installed) together).trans rfl
    · exact (congrArg State.throwing together).trans (same _ rfl)
  refine ⟨ends, fun more => ?_⟩
  rw [run_add, run_advance, run_advance, run_advance, ends.final]

/-- A throw inside a frame inside a catch region. -/
def shelteredProgram : List Step :=
  [.protect (.attempt .direct none false)
    [.guarded (.guarded "frame") [.act (.throw "$null" .direct)] []] []]

def shelteredThrow : State where
  machine := {}
  threads := #[{ strand := { control := .run shelteredProgram } }]

theorem degraded_runs_sheltered :
    EndsAtThrow 0 (.capture .null 64 (stackOf 2))
      ((shelteredThrow.withSettings { unwind := .terminate }).run 2) := by
  have discreet : shelteredThrow.IsDiscreet := by
    intro index
    match index with
    | 0 =>
      refine ⟨fun instruction member => ?_, nofun⟩
      obtain rfl : instruction = .throw "$null" .direct := List.mem_singleton.mp member
      rfl
    | index + 1 => exact ⟨nofun, nofun⟩
  have calm : ∀ earlier < 2,
      ((shelteredThrow.withSettings { unwind := .propagate }).run earlier).throwing = none := by
    intro earlier before
    match earlier with
    | 0 => rfl
    | 1 => rfl
  have thrown : ((shelteredThrow.withSettings { unwind := .propagate }).run 2).throwing =
      some (0, .capture .null 64 (stackOf 2)) := rfl
  exact ((degraded_runs shelteredThrow {} discreet 2 calm).2 _ _ thrown).1

end State
end ManagedRuntime.Scenario
