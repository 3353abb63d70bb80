import ManagedRuntime.Proofs.Machine.Tables
import ManagedRuntime.Proofs.Scenario.Twins

/-! Logging only observes. With its log at a lower level a program goes through the same states,
tells the same events, writes the same reports and ends alike. Of the log there are those records
left that the lower level admits, with the same text. Only at the level that tells names a thread
may be asked for its token when it is not asked otherwise; others have different tokens from then
on. -/
namespace ManagedRuntime.Scenario
open Exception

/-- Records of the log pass if the level admits them, and every other event does. -/
def Event.passes (level : Threshold) : Event → Bool
  | .log severity _ => level.admits severity
  | _ => true

/-- The setting with its log at a level: a session is given it, any other process is asked for it by
its variables. -/
def Setting.logging (setting : Setting) (level : Threshold) : Setting :=
  match setting.session with
  | some _ => { setting with session := some level }
  | none => { setting with environment := setting.environment.put Settings.logKey level.name }

/-- Less of the log, and maybe variables that ask for less. -/
def quieting (environment : Option Environment) (level : Threshold) : Guise where
  machine := { environment, level }
  event event := if event.passes level then some event else none
  plain event plain := by
    cases event with
    | status | started | log => cases plain
    | _ => rfl
  logged _ _ := rfl

theorem faithful_quieting (environment : Option Environment) (level : Threshold) :
    (quieting environment level).Faithful :=
  ⟨rfl, fun _ => rfl, fun _ => rfl⟩

theorem sameTokens_quieting (environment : Option Environment) (level : Threshold) :
    (quieting environment level).SameTokens :=
  ⟨rfl, rfl, rfl⟩

/-- What happens by a fixed schedule: the turn of a thread, or time that passes. -/
inductive Beat
  | turn (thread : Nat)
  | elapse (clock : Nat)
deriving DecidableEq, Repr

namespace State

def beat (state : State) : Beat → State
  | .turn me => { state with running := me }.stepThread me
  | .elapse clock => { state with clock }

def play (state : State) (beats : List Beat) : State := beats.foldl beat state

/-! Logs that do not tell names. -/

/-- No record is so light that it tells a name, now or later. -/
structure Untold (state : State) : Prop where
  same : state.under (quieting none ⟨some .debug⟩) = state
  suits : Machine.Suits (quieting none ⟨some .debug⟩).machine state.machine

section
variable {state : State}

theorem Untold.untraced (untold : Untold state) : Machine.Untraced state.machine := by
  constructor
  · have worded := congrArg (·.machine.wordsRecords .trace) untold.same
    simp only [machine_under, Machine.wordsRecords_under] at worded
    rw [← worded]
    exact Bool.and_false _
  · intro silent
    have logger : state.machine.backend.logger state.machine.environment = _ :=
      (untold.suits.logs.logger silent).2
    rw [logger]
    exact (Threshold.admits_min ..).trans (Bool.and_false _)

theorem Untold.stepThread (untold : Untold state) (me : Nat) : Untold (state.stepThread me) := by
  refine ⟨?_, suits_stepThread me untold.suits⟩
  exact under_stepThread_of_same me (faithful_quieting ..) untold.same fun instruction _ =>
    Guise.allows_of_suits (sameTokens_quieting ..) untold.suits (.inr untold.untraced) ..

end

section
variable {guise : Guise} {state : State}

theorem suits_beat (suits : Machine.Suits guise.machine state.machine) (beat : Beat) :
    Machine.Suits guise.machine (state.beat beat).machine := by
  cases beat with
  | elapse clock => exact suits
  | turn me => exact @suits_stepThread { state with running := me } me _ suits

theorem Untold.beat (untold : Untold state) (beat : Beat) : Untold (state.beat beat) := by
  cases beat with
  | elapse clock =>
    have same := congrArg (fun state : State => { state with clock }) untold.same
    exact ⟨same, untold.suits⟩
  | turn me =>
    have same := congrArg (fun state : State => { state with running := me }) untold.same
    have now : Untold { state with running := me } := ⟨same, untold.suits⟩
    exact now.stepThread me

/-- Either names are told in both runs or in none of them. -/
theorem beat_under (faithful : guise.Faithful) (same : guise.SameTokens)
    (suits : Machine.Suits guise.machine state.machine)
    (known : guise.machine.level.admits .trace = true ∨ Untold state) (beat : Beat) :
    (state.under guise).beat beat = (state.beat beat).under guise := by
  cases beat with
  | elapse clock => rfl
  | turn me =>
    let now : State := { state with running := me }
    have known := known.imp_right Untold.untraced
    exact @stepThread_under _ faithful now me fun instruction _ =>
      @Guise.allows_of_suits _ now same suits known ..

theorem play_under (faithful : guise.Faithful) (same : guise.SameTokens)
    (suits : Machine.Suits guise.machine state.machine)
    (known : guise.machine.level.admits .trace = true ∨ Untold state) (beats : List Beat) :
    (state.under guise).play beats = (state.play beats).under guise := by
  induction beats generalizing state with
  | nil => rfl
  | cons beat rest ih =>
    have later := ih (suits_beat suits beat)
      (known.imp_right fun untold => untold.beat beat)
    have first := beat_under faithful same suits known beat
    simp only [play, List.foldl_cons, first]
    exact later

/-! Whatever names are told. -/

theorem twins_beat (faithful : guise.Faithful) {upper lower : State}
    (twins : Twins guise upper lower) (suits : Machine.Suits guise.machine upper.machine)
    (leftAbove : upper.TokensLeft 2) (leftBelow : lower.TokensLeft 2) (beat : Beat) :
    Twins guise (upper.beat beat) (lower.beat beat) := by
  cases beat with
  | elapse clock =>
    exact twins.apply faithful (tokenless_setClock clock)
  | turn me =>
    have now : Twins guise { upper with running := me } { lower with running := me } :=
      twins.apply faithful (tokenless_setRunning me)
    exact now.stepThread faithful suits leftAbove leftBelow me

theorem twins_play (faithful : guise.Faithful) {upper lower : State}
    (twins : Twins guise upper lower) (suits : Machine.Suits guise.machine upper.machine)
    (beats : List Beat)
    (left : ∀ early, early <+: beats →
      (upper.play early).TokensLeft 2 ∧ (lower.play early).TokensLeft 2) :
    Twins guise (upper.play beats) (lower.play beats) := by
  induction beats generalizing upper lower with
  | nil => exact twins
  | cons beat rest ih =>
    obtain ⟨leftAbove, leftBelow⟩ := left [] List.nil_prefix
    refine ih (twins_beat faithful twins suits leftAbove leftBelow beat) (suits_beat suits beat) ?_
    intro early before
    exact left (beat :: early) (List.cons_prefix_cons.mpr ⟨rfl, before⟩)

end

end State

/-! Processes at their beginning. -/

theorem placeStatic_renamed (rename : Rename) (heap : Heap) (table : Memory.Block) :
    placeStatic (heap.renamed rename) table =
      ((placeStatic heap table).1, (placeStatic heap table).2.renamed rename) := by
  simp only [placeStatic, Heap.placeTable_renamed]
  cases heap.placeTable table <;> rfl

/-- There is no monitor yet that could know a thread. -/
theorem heap_placeLibrary (rename : Rename) (codeBase : Nat) :
    (placeLibrary codeBase).heap.renamed rename = (placeLibrary codeBase).heap := by
  have bare : ({ next := codeBase + codeRoom } : Heap).renamed rename =
      { next := codeBase + codeRoom } := by
    have objects : (({ next := codeBase + codeRoom } : Heap).objects.map fun _ object =>
        { object with monitor := object.monitor.renamed rename }) =
          ({ next := codeBase + codeRoom } : Heap).objects := by
      refine Std.ExtTreeMap.ext_getElem? fun address => ?_
      simp
    rw [Heap.renamed, objects]
  have placed (printStream empty : Memory.Block) (heap : Heap) :
      (Library.place (heap.renamed rename) printStream empty).heap =
        (Library.place heap printStream empty).heap.renamed rename := by
    simp only [Library.place, placeStatic_renamed]
  have library := placed (Dispatch.staticTable (printStreamMethods codeBase))
    (Dispatch.staticTable []) { next := codeBase + codeRoom }
  rw [bare] at library
  exact library.symm

section
variable (setting : Setting)

/-- A process has nothing but memory, its surroundings and maybe a journal before its first step. -/
theorem machine_initialProcess (codeBase : Nat) :
    let machine := (initialProcess setting codeBase).machine
    machine.environment = setting.environment ∧ machine.backend = setting.backend ∧
      machine.tokens = {} ∧ machine.sink = setting.session.elim .nowhere .journal := by
  let machine := (setting.prepare (placeLibrary codeBase).heap).2
  obtain ⟨environment, backend, tokens, sink⟩ : machine.environment = setting.environment ∧
      machine.backend = setting.backend ∧ machine.tokens = {} ∧ machine.sink = .nowhere := by
    simp only [machine, Setting.prepare]
    split
    · rw [Machine.rest_arrayTable]
      exact ⟨rfl, rfl, rfl, rfl⟩
    · exact ⟨rfl, rfl, rfl, rfl⟩
  show (setting.attach machine).environment = _ ∧ (setting.attach machine).backend = _ ∧
    (setting.attach machine).tokens = _ ∧ (setting.attach machine).sink = _
  unfold Setting.attach
  cases setting.session with
  | none => exact ⟨environment, backend, tokens, sink⟩
  | some threshold => exact ⟨environment, backend, tokens, rfl⟩

end

/-- A setting whose processes begin as those of another one do in a guise. -/
structure Setting.Wears (guise : Machine.Guise) (setting other : Setting) : Prop where
  environment : other.environment = guise.environment.getD setting.environment
  backend : guise.backend = none ∧ other.backend = setting.backend
  session : other.session = setting.session.map (min · guise.level)
  hasArrayTable : other.hasArrayTable = setting.hasArrayTable
  asked : other.asked = setting.asked
  own : guise.settings = none ∧ guise.tokens = none ∧ guise.muffled = false

section
variable {guise : Machine.Guise} {setting other : Setting} (wears : setting.Wears guise other)
include wears

theorem Setting.Wears.prepare {heap : Heap} (bare : heap.renamed guise.rename = heap) :
    other.prepare heap = ((setting.prepare heap).1, (setting.prepare heap).2.under guise) := by
  obtain ⟨settings, tokens, muffled⟩ := wears.own
  let machine : Machine := { environment := setting.environment, backend := setting.backend, heap }
  have before : { environment := other.environment, backend := other.backend, heap } =
      machine.under guise := by
    simp only [machine, Machine.under, bare, settings, wears.backend, tokens, Machine.Guise.sink,
      muffled, wears.environment]
    rfl
  simp only [Setting.prepare, wears.hasArrayTable, before]
  split
  · exact Machine.arrayTable_under ..
  · rfl

theorem Setting.Wears.attach (machine : Machine) :
    other.attach (machine.under guise) = (setting.attach machine).under guise := by
  unfold Setting.attach
  rw [wears.session]
  cases setting.session with
  | none => rfl
  | some threshold =>
    simp only [Option.map_some, Machine.under, Machine.Guise.sink, wears.own.1, Option.getD_none]

theorem Setting.Wears.process (codeBase : Nat) :
    initialProcess other codeBase = (initialProcess setting codeBase).setMachine
      ((initialProcess setting codeBase).machine.under guise) := by
  have bare := heap_placeLibrary guise.rename codeBase
  unfold initialProcess
  generalize placeLibrary codeBase = library at bare
  simp only [wears.prepare bare, wears.attach]
  rfl

end

section
variable {guise : Guise} (faithful : guise.Faithful) {setting other : Setting}
  (wears : setting.Wears guise.machine other)
include faithful wears

theorem Setting.Wears.beginning (steps : List Step) :
    (initialProcess other (placement steps)).beginning steps =
      ((initialProcess setting (placement steps)).beginning steps).under guise := by
  have route : rerouteAll guise.route steps = steps := by
    rw [faithful.route]
    exact rerouteAll_id steps
  rw [State.beginning_under, route, wears.process]

theorem Setting.Wears.state (same : guise.SameTokens) (steps : List Step) :
    initialState other steps = (initialState setting steps).under guise := by
  rw [initialState_eq, initialState_eq, wears.beginning faithful, wears.asked,
    State.askFirst_under same]

end

section
variable (setting : Setting)

/-- Only the log depends on its level. -/
theorem wears_logging {lower upper : Threshold} (below : lower ≤ upper) :
    (setting.logging upper).Wears (quieting (setting.logging lower).environment lower).machine
      (setting.logging lower) := by
  obtain ⟨environment, backend, session, hasArrayTable, asked⟩ := setting
  cases session with
  | none => exact ⟨rfl, ⟨rfl, rfl⟩, rfl, rfl, rfl, rfl, rfl, rfl⟩
  | some held =>
    have session : some lower = (some upper).map (min · lower) :=
      congrArg some (Threshold.min_eq_right below).symm
    exact ⟨rfl, ⟨rfl, rfl⟩, session, rfl, rfl, rfl, rfl, rfl⟩

theorem wears_renamed (rename : Rename) :
    setting.Wears (Guise.renamed rename).machine setting := by
  have session : setting.session = setting.session.map (min · .all) := by
    cases setting.session with
    | none => rfl
    | some held => exact congrArg some (Threshold.min_all held).symm
  exact ⟨rfl, ⟨rfl, rfl⟩, session, rfl, rfl, rfl, rfl, rfl⟩

theorem wears_debug {level : Threshold} (untraced : level.admits .trace = false) :
    (setting.logging level).Wears (quieting none ⟨some .debug⟩).machine
      (setting.logging level) := by
  obtain ⟨environment, backend, session, hasArrayTable, asked⟩ := setting
  cases session with
  | none => exact ⟨rfl, ⟨rfl, rfl⟩, rfl, rfl, rfl, rfl, rfl, rfl⟩
  | some held =>
    have session : some level = (some level).map (min · ⟨some .debug⟩) :=
      congrArg some (Threshold.min_eq_left (Threshold.le_debug untraced)).symm
    exact ⟨rfl, ⟨rfl, rfl⟩, session, rfl, rfl, rfl, rfl, rfl⟩

section
variable (levelled : setting.backend.Levelled) (codeBase : Nat)
include levelled

/-- The lower level asks for the logger of the upper one, as far as it admits. -/
theorem suits_logging {lower upper : Threshold} (below : lower ≤ upper) :
    Machine.Suits (quieting (setting.logging lower).environment lower).machine
      (initialProcess (setting.logging upper) codeBase).machine := by
  obtain ⟨environment, backend, -, sink⟩ := machine_initialProcess (setting.logging upper) codeBase
  generalize (initialProcess (setting.logging upper) codeBase).machine = machine at *
  obtain ⟨given, loggers, session, hasArrayTable, asked⟩ := setting
  cases session with
  | none =>
    refine ⟨rfl, Machine.fits_of_free rfl ?_, fun _ => ⟨rfl, ?_⟩, ?_⟩
    · rw [environment]
      exact (Environment.settings_put ..).trans (Environment.settings_put ..).symm
    · rw [environment, backend]
      exact levelled.limited given below
    · rw [environment, backend]
      exact (levelled.calm given lower).trans (levelled.calm given upper).symm
  | some held =>
    refine ⟨rfl, Machine.fits_of_free rfl ?_, fun silent => ?_, ?_⟩
    · rw [environment]
      rfl
    · rw [silent] at sink
      cases sink
    · rw [environment, backend]
      rfl

theorem suits_debug {level : Threshold} (untraced : level.admits .trace = false) :
    Machine.Suits (quieting none ⟨some .debug⟩).machine
      (initialProcess (setting.logging level) codeBase).machine := by
  obtain ⟨environment, backend, -, sink⟩ := machine_initialProcess (setting.logging level) codeBase
  generalize (initialProcess (setting.logging level) codeBase).machine = machine at *
  refine ⟨rfl, Machine.fits_of_free rfl rfl, fun silent => ⟨rfl, ?_⟩, rfl⟩
  obtain ⟨given, loggers, session, hasArrayTable, asked⟩ := setting
  cases session with
  | none =>
    have limited := levelled.limited_above given (Threshold.le_debug untraced)
    have same : machine.backend.logger machine.environment =
        loggers.logger (given.put Settings.logKey level.name) := by
      rw [environment, backend]
      rfl
    rw [← same] at limited
    exact limited.symm
  | some held =>
    rw [silent] at sink
    cases sink

end

/-- No token is known anywhere before the first step. -/
theorem beginning_renamed (rename : Rename) (steps : List Step) :
    ((initialProcess setting (placement steps)).beginning steps).under (.renamed rename) =
      (initialProcess setting (placement steps)).beginning steps := by
  have process := (wears_renamed setting rename).process (placement steps)
  have route : rerouteAll (Guise.renamed rename).route steps = steps := rerouteAll_id steps
  rw [State.beginning_under, route, ← process]

/-- Asking the first thread for its token changes nothing about its surroundings. -/
theorem suits_initial {guise : Machine.Guise} {steps : List Step}
    (suits : Machine.Suits guise (initialProcess setting (placement steps)).machine) :
    Machine.Suits guise (initialState setting steps).machine := by
  rw [initialState_eq]
  cases setting.asked with
  | false => exact suits
  | true =>
    exact ⟨suits.free, ⟨suits.fits.environment, suits.fits.installed⟩,
      ⟨suits.logs.logger, suits.logs.warning⟩⟩

theorem untold_initial (levelled : setting.backend.Levelled) {level : Threshold}
    (untraced : level.admits .trace = false) (steps : List Step) :
    (initialState (setting.logging level) steps).Untold :=
  ⟨((wears_debug setting untraced).state (faithful_quieting ..)
      (sameTokens_quieting ..) steps).symm,
    suits_initial _ (suits_debug setting levelled _ untraced)⟩

/-- Nobody has a token before the first step. -/
theorem token_beginning (steps : List Step) (me : Nat) :
    ((initialProcess setting (placement steps)).beginning steps).token me = nobody := by
  cases me <;> rfl

theorem apart_beginning (steps : List Step) :
    ((initialProcess setting (placement steps)).beginning steps).Apart := by
  have counter : ((initialProcess setting (placement steps)).beginning steps).machine.tokens = {} :=
    (machine_initialProcess setting (placement steps)).2.2.1
  refine ⟨fun me => ?_, fun me other drawn _ => absurd (token_beginning setting steps me) drawn⟩
  rw [token_beginning, counter]
  decide

theorem left_beginning (steps : List Step) :
    ((initialProcess setting (placement steps)).beginning steps).TokensLeft 1 := by
  have counter : ((initialProcess setting (placement steps)).beginning steps).machine.tokens = {} :=
    (machine_initialProcess setting (placement steps)).2.2.1
  rw [State.TokensLeft, counter]
  decide

/-- At their beginning two runs that differ in their log are alike whatever tokens are to come. -/
theorem twins_initial {lower upper : Threshold} (below : lower ≤ upper) (steps : List Step) :
    Twins (quieting (setting.logging lower).environment lower)
      (initialState (setting.logging upper) steps)
        (initialState (setting.logging lower) steps) := by
  let guise := quieting (setting.logging lower).environment lower
  have wears := wears_logging setting below
  have beginning := wears.beginning (faithful_quieting ..) steps
  have twins := Twins.of_bare (sameTokens_quieting (setting.logging lower).environment lower)
    (apart_beginning (setting.logging upper) steps)
    fun rename => beginning_renamed (setting.logging upper) rename steps
  rw [← beginning] at twins
  rw [initialState_eq, initialState_eq, wears.asked]
  cases (setting.logging upper).asked with
  | false => exact twins
  | true =>
    exact twins.askToken (left_beginning _ steps) (left_beginning _ steps) Nat.zero_lt_one "main"

end

/-! Two runs. -/

/-- Nothing is different but what there is of the log, which log was asked for, and the tokens that
threads have. -/
structure OnlyLogDiffers (level : Threshold) (rename : Rename) (lower upper : State) : Prop where
  told : ∀ me, (lower.thread me).told =
    (upper.thread me).told.filter fun entry => entry.event.passes level
  journal : lower.machine.journal =
    upper.machine.journal.filter fun record => level.admits record.severity
  written : lower.machine.written.map ErrorText.shown =
    (upper.machine.written.filter (·.passes level)).map fun text => (text.renamed rename).shown
  tokens : Renames rename upper lower
  machine :
    { lower.machine with
      environment := {}, tokens := {}, sink := .nowhere, journal := [], written := [] } =
    { upper.machine with
      heap := upper.machine.heap.renamed rename
      labels := rename.names upper.machine.labels
      environment := {}, tokens := {}, sink := .nowhere, journal := [], written := [] }
  threads : lower.threads.map (fun thread => { thread with told := [], token := nobody }) =
    upper.threads.map fun thread => { thread with told := [], token := nobody }
  rest : { lower with machine := {}, threads := #[] } = { upper with machine := {}, threads := #[] }

/-- What there is on the error stream then. -/
theorem OnlyLogDiffers.errors {level : Threshold} {rename : Rename} {lower upper : State}
    (differs : OnlyLogDiffers level rename lower upper) :
    lower.machine.errors =
      (upper.machine.written.filter (·.passes level)).flatMap fun text =>
        (text.renamed rename).bytes := by
  have bytes (text : ErrorText) : text.shown.2 = text.bytes := by
    cases text <;> rfl
  have written := congrArg (List.flatMap Prod.snd) differs.written
  simp only [List.flatMap_map, bytes] at written
  exact written

theorem onlyLogDiffers_of_matches {environment : Option Environment} {level : Threshold}
    {rename : Rename} {lower upper : State}
    (alike : Matches ((quieting environment level).veiled rename) veil upper lower)
    (tokens : Renames rename upper lower) : OnlyLogDiffers level rename lower upper := by
  have faithful := (faithful_quieting environment level).veiled rename
  have unveiled (thread : Thread) : veil.thread thread = { thread with token := nobody } :=
    State.thread_of_plain rfl rfl thread
  constructor
  · intro me
    have told := congrArg Thread.told (alike.threads me)
    rw [unveiled, faithful.thread] at told
    refine told.trans ?_
    rw [← List.filterMap_eq_filter]
    refine congrArg (List.filterMap · _) (funext fun entry => ?_)
    simp only [Guise.entry, Guise.veiled, quieting, Option.guard]
    split <;> rfl
  · have journal := congrArg (·.machine.journal) alike
    have all : lower.machine.journal.filter (fun record => Threshold.all.admits record.severity) =
        lower.machine.journal :=
      List.filter_eq_self.mpr fun _ _ => Threshold.admits_all _
    exact all.symm.trans journal
  · have written := congrArg (·.machine.written) alike
    have all : veil.machine.written lower.machine.written = lower.machine.written :=
      Machine.Guise.written_of_plain rfl rfl _
    refine (congrArg (List.map ErrorText.shown) (all.symm.trans written)).trans ?_
    refine List.map_map.trans (List.map_congr_left fun text passing => ?_)
    cases text with
    | plain bytes => rfl
    | logged note write =>
      have admitted : level.admits note.severity = true := (List.mem_filter.mp passing).2
      have limited : level.limit write ((note.renamed rename).render numbered) =
          write ((note.renamed rename).render numbered) := if_pos admitted
      exact congrArg (fun line => (some (note.renamed rename), utf8 line)) limited
  · exact tokens
  · have machine := congrArg (fun state : State => { state.machine with
      environment := {}, tokens := {}, sink := .nowhere, journal := [], written := [] }) alike
    simp only [State.machine_under, Machine.under, veil, Guise.veiled, Heap.renamed_same,
      Rename.names_same, Option.getD_none, Option.getD_some] at machine
    exact machine
  · have threads := congrArg (fun state : State => state.threads.map fun thread =>
      { thread with told := [], token := nobody }) alike
    simp only [State.under, Array.map_map, Function.comp_def, unveiled, faithful.thread] at threads
    exact threads
  · have rest := congrArg (fun state : State => { state with machine := {}, threads := #[] }) alike
    exact rest

/-- In a guise that leaves them as they are, all tokens are the same. -/
theorem onlyLogDiffers_under (environment : Option Environment) (level : Threshold)
    (state : State) :
    let shown := state.under (quieting environment level)
    OnlyLogDiffers level .same shown state ∧ shown.token = state.token ∧
      shown.machine.tokens = state.machine.tokens := by
  intro shown
  have held : shown.token = state.token := by
    funext me
    simp only [State.token, shown, State.thread_under]
    rfl
  have plain : state.under (.renamed .same) = state := state.under_plain
  refine ⟨@onlyLogDiffers_of_matches environment level _ _ _ ?_ fun me _ => ?_, held, rfl⟩
  · rw [Matches, State.under_veiled rfl, plain]
  · rw [held, Rename.same_apply]

/-- Logging only observes. A program with its log at two levels goes by any schedule through the
same states with the same events, reports and ending, and the records of the lower level are those
of the upper one that the lower one admits, in the same order and with the same text. Where the
upper one tells no names, threads have the same tokens as well. Where it does, who is named without
having been asked draws a token for the record; as long as there are tokens left, nothing differs
then but which token a thread has, one for one. -/
theorem logging_observes (setting : Setting) (levelled : setting.backend.Levelled)
    {lower upper : Threshold} (below : lower ≤ upper) (steps : List Step) (beats : List Beat) :
    let quiet := initialState (setting.logging lower) steps
    let loud := initialState (setting.logging upper) steps
    (upper.admits .trace = false →
      OnlyLogDiffers lower .same (quiet.play beats) (loud.play beats) ∧
        (quiet.play beats).token = (loud.play beats).token ∧
        (quiet.play beats).machine.tokens = (loud.play beats).machine.tokens) ∧
      ((∀ early, early <+: beats →
          (loud.play early).TokensLeft 2 ∧ (quiet.play early).TokensLeft 2) →
        ∃ rename, OnlyLogDiffers lower rename (quiet.play beats) (loud.play beats)) := by
  intro quiet loud
  let guise := quieting (setting.logging lower).environment lower
  have faithful : guise.Faithful := faithful_quieting ..
  have suits : Machine.Suits guise.machine loud.machine :=
    suits_initial _ (suits_logging setting levelled _ below)
  refine ⟨fun untraced => ?_, fun left => ?_⟩
  · have untold : loud.Untold := untold_initial setting levelled untraced steps
    have same : quiet = loud.under guise :=
      (wears_logging setting below).state faithful (sameTokens_quieting ..) steps
    rw [same, State.play_under faithful (sameTokens_quieting ..) suits (.inr untold)]
    exact onlyLogDiffers_under ..
  · have twins := State.twins_play faithful (twins_initial setting below steps) suits beats left
    obtain ⟨rename, there⟩ := twins.exists_renames
    exact ⟨rename, onlyLogDiffers_of_matches (twins.alike rename there) there⟩

/-- Is asked for a level by its name, and writes plain lines. -/
def plainLog : LogBackend where
  logger environment :=
    let level := ((environment.lookup Settings.logKey).bind Threshold.ofName?).getD ⟨some .warn⟩
    ⟨level, level.limit fun record => record.line .plain ++ "\n"⟩
  warning _ := ""

theorem plainLog_put (environment : Environment) (level : Threshold) :
    plainLog.logger (environment.put Settings.logKey level.name) =
      ⟨level, level.limit fun record => record.line .plain ++ "\n"⟩ := by
  have named : Threshold.ofName? level.name = some level := by
    obtain ⟨least⟩ := level
    cases least with
    | none => decide +kernel
    | some severity => cases severity <;> decide +kernel
  simp only [plainLog, Environment.lookup_put_self, Option.bind_some, named, Option.getD_some]

theorem plainLog_levelled : plainLog.Levelled := by
  constructor
  · intro environment level
    rw [plainLog_put]
  · intro environment lower upper record admitted above
    simp only [plainLog_put, Threshold.limit, admitted, above]
  · intro environment level record refused
    simp only [plainLog_put, Threshold.limit, refused, Bool.false_eq_true, if_false]
  · intro environment level
    rfl

/-- Two threads are started and named, and the second one leaves a monitor that it does not own. -/
def misusingProgram : List Step :=
  [.act .initLogging, .act (.object "o" 8 none .direct), .act (.spawn "A" (some "a") true false),
    .act (.spawn "B" (some "b") true false),
    .act (.assign "B" "exit" 100 [.act (.monitor .exit "o" .direct false)])]

/-- The program with its log at a level. -/
def misusing (backend : LogBackend) (level : Threshold) : State :=
  initialState (Setting.logging { backend } level) misusingProgram

def misusingBeats : List Beat := List.replicate 5 (.turn 0) ++ List.replicate 3 (.turn 2)

/-- Names are only told at the upper level, where the first thread that was started has drawn a
token before the second one does. At the lower level it has not, so the records of the misuse do not
name the same token. -/
theorem tokens_drawn_for_names :
    let quiet := (misusing plainLog ⟨some .warn⟩).play misusingBeats
    let loud := (misusing plainLog .all).play misusingBeats
    quiet.machine.errors =
        utf8 "[WARN  jrt::monitor] monitor exit by thread 2 while owned by thread 0\n" ∧
      (loud.machine.written.filter (·.passes ⟨some .warn⟩)).flatMap ErrorText.bytes =
        utf8 "[WARN  jrt::monitor] monitor exit by thread 3 while owned by thread 0\n" ∧
      ¬ OnlyLogDiffers ⟨some .warn⟩ .same quiet loud := by
  intro quiet loud
  have here : quiet.machine.errors =
      utf8 "[WARN  jrt::monitor] monitor exit by thread 2 while owned by thread 0\n" := by
    decide +kernel
  have there : (loud.machine.written.filter (·.passes ⟨some .warn⟩)).flatMap ErrorText.bytes =
      utf8 "[WARN  jrt::monitor] monitor exit by thread 3 while owned by thread 0\n" := by
    decide +kernel
  refine ⟨here, there, fun differs => ?_⟩
  have errors := differs.errors
  simp only [ErrorText.renamed_same] at errors
  rw [here, there] at errors
  exact absurd errors (by decide +kernel)

theorem logging_observes_misuse :
    let quiet := (misusing plainLog ⟨some .warn⟩).play misusingBeats
    let loud := (misusing plainLog .all).play misusingBeats
    (∃ rename, OnlyLogDiffers ⟨some .warn⟩ rename quiet loud) ∧
      OnlyLogDiffers ⟨some .warn⟩ .same ((misusing filteredLog ⟨some .warn⟩).play misusingBeats)
        ((misusing filteredLog ⟨some .debug⟩).play misusingBeats) ∧
      quiet.machine.written.length = 2 ∧ loud.machine.written.length = 5 := by
  intro quiet loud
  have left : ∀ count < 9, ((misusing plainLog .all).play (misusingBeats.take count)).TokensLeft 2 ∧
      ((misusing plainLog ⟨some .warn⟩).play (misusingBeats.take count)).TokensLeft 2 := by
    simp only [State.TokensLeft]
    decide +kernel
  have renamed := (logging_observes { backend := plainLog } plainLog_levelled
    (show (⟨some .warn⟩ : Threshold) ≤ .all by decide) misusingProgram misusingBeats).2
      fun early before => by
        rw [List.prefix_iff_eq_take.mp before]
        exact left early.length (Nat.lt_succ_of_le before.length_le)
  have untraced := (logging_observes { backend := filteredLog } filteredLog_levelled
    (show (⟨some .warn⟩ : Threshold) ≤ ⟨some .debug⟩ by decide) misusingProgram misusingBeats).1 rfl
  exact ⟨renamed, untraced.1, by decide +kernel, by decide +kernel⟩

end ManagedRuntime.Scenario
