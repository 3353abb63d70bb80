import ManagedRuntime.Machine.EntryPoints
import ManagedRuntime.Machine.Exceptions
import ManagedRuntime.Proofs.Heap.Renaming
import ManagedRuntime.Proofs.Journal.Levels
import ManagedRuntime.Proofs.Machine.Strictness

/-! A process in a guise: with other settings or variables, with other tokens for its threads, or
without the less urgent records of its log. What it does to memory and to its streams is the same
but for those records, and so is what it does to monitors if it is as strict. -/
namespace ManagedRuntime

/-- Records of the log pass if the level admits them, and everything else does. -/
def ErrorText.passes (level : Threshold) : ErrorText → Bool
  | .logged note _ => level.admits note.severity
  | .plain _ => true

@[simp] theorem ErrorText.passes_all (text : ErrorText) : text.passes .all = true := by
  cases text with
  | logged note write => exact Threshold.admits_all note.severity
  | plain bytes => rfl

/-! Records that know threads under other tokens. -/

def LogPiece.renamed (rename : Rename) : LogPiece → LogPiece
  | .text words => .text words
  | .thread token => .thread (rename token)

def Note.renamed (rename : Rename) (note : Note) : Note :=
  { note with pieces := note.pieces.map (·.renamed rename) }

@[simp] theorem LogPiece.renamed_same (piece : LogPiece) : piece.renamed .same = piece := by
  cases piece <;> rfl

@[simp] theorem Note.renamed_same (note : Note) : note.renamed .same = note := by
  have pieces : note.pieces.map (·.renamed .same) = note.pieces := by
    simp only [LogPiece.renamed_same, List.map_id']
  rw [Note.renamed, pieces]

/-- The record, if it is one, knows threads under other tokens. -/
def ErrorText.renamed (rename : Rename) : ErrorText → ErrorText
  | .logged note write => .logged (note.renamed rename) write
  | .plain bytes => .plain bytes

@[simp] theorem ErrorText.renamed_same (text : ErrorText) : text.renamed .same = text := by
  cases text with
  | logged note write => rw [renamed, Note.renamed_same]
  | plain bytes => rfl

@[simp] theorem ErrorText.passes_renamed (level : Threshold) (rename : Rename) (text : ErrorText) :
    (text.renamed rename).passes level = text.passes level := by
  cases text <;> rfl

/-- What a text is on the error stream: its bytes, and the record they tell if they tell one. -/
def ErrorText.shown : ErrorText → Option Note × List UInt8
  | .logged note write => (some note, (ErrorText.logged note write).bytes)
  | .plain bytes => (none, bytes)

/-- Who names threads alike words records alike. -/
theorem Note.render_renamed {rename : Rename} {name other : Token → String}
    (alike : ∀ token, other (rename token) = name token) (note : Note) :
    (note.renamed rename).render other = note.render name := by
  have worded (piece : LogPiece) :
      (match piece.renamed rename with
        | .text text => text
        | .thread token => "thread " ++ other token) =
      match piece with
        | .text text => text
        | .thread token => "thread " ++ name token := by
    cases piece with
    | text => rfl
    | thread token => exact congrArg ("thread " ++ ·) (alike token)
  simp only [Note.renamed, Note.render, List.map_map]
  congr 2
  exact List.map_congr_left fun piece _ => worded piece

namespace Machine

/-- What is changed about a process. -/
structure Guise where
  /-- A cell of settings instead of its own. -/
  settings : Option SettingsCell := none
  environment : Option Environment := none
  /-- Someone else to provide loggers. -/
  backend : Option LogBackend := none
  /-- A counter of tokens instead of its own. -/
  tokens : Option TokenCounter := none
  /-- Other tokens for its threads. -/
  rename : Rename := .same
  /-- Only records that the level admits are left of the log. -/
  level : Threshold := .all
  /-- A process without a logger has one that is handed nothing. -/
  muffled : Bool := false

/-- The sink that keeps no more than the level admits. -/
def Guise.sink (guise : Guise) : LogSink → LogSink
  | .nowhere => if guise.muffled then .console .silent else .nowhere
  | .console logger => .console (logger.limited guise.level)
  | .journal threshold => .journal (min threshold guise.level)

def Guise.text (guise : Guise) : ErrorText → ErrorText
  | .logged note write => .logged (note.renamed guise.rename) (guise.level.limit write)
  | .plain bytes => .plain bytes

def Guise.written (guise : Guise) (written : List ErrorText) : List ErrorText :=
  (written.filter (·.passes guise.level)).map guise.text

def under (guise : Guise) (machine : Machine) : Machine :=
  { machine with
    settings := guise.settings.getD machine.settings
    environment := guise.environment.getD machine.environment
    backend := guise.backend.getD machine.backend
    heap := machine.heap.renamed guise.rename
    tokens := guise.tokens.getD machine.tokens
    sink := guise.sink machine.sink
    labels := guise.rename.names machine.labels
    journal := machine.journal.filter fun record => guise.level.admits record.severity
    written := guise.written machine.written }

/-- Leaves the log and the tokens as they are, and changes only what a process is given. -/
structure Guise.Plain (guise : Guise) : Prop where
  level : guise.level = .all
  rename : guise.rename = .same
  tokens : guise.tokens = none

section
variable {guise : Guise}

/-- Sinks stay as they are if all records pass, those that there are at least. -/
theorem Guise.sink_of_all (all : guise.level = .all) {sink : LogSink}
    (heard : guise.muffled = false ∨ sink ≠ .nowhere) : guise.sink sink = sink := by
  cases sink with
  | nowhere =>
    have heard := heard.resolve_right fun there => there rfl
    simp only [Guise.sink, heard, Bool.false_eq_true, if_false]
  | console logger => rw [Guise.sink, all, logger.limited_all]
  | journal threshold => rw [Guise.sink, all, threshold.min_all]

theorem Guise.written_of_plain (level : guise.level = .all) (rename : guise.rename = .same)
    (written : List ErrorText) : guise.written written = written := by
  have same (text : ErrorText) : guise.text text = text := by
    cases text with
    | plain bytes => rfl
    | logged note write =>
      rw [Guise.text, level, rename, Note.renamed_same, Threshold.limit_all]
  have passing : written.filter (·.passes guise.level) = written :=
    List.filter_eq_self.mpr fun _ _ => by rw [level, ErrorText.passes_all]
  rw [Guise.written, passing]
  exact (List.map_congr_left fun text _ => same text).trans (List.map_id' _)

theorem under_of_plain (plain : guise.Plain) {machine : Machine}
    (heard : guise.muffled = false ∨ machine.sink ≠ .nowhere) :
    machine.under guise = { machine with
      settings := guise.settings.getD machine.settings
      environment := guise.environment.getD machine.environment
      backend := guise.backend.getD machine.backend } := by
  have journal : machine.journal.filter (fun record => guise.level.admits record.severity) =
      machine.journal :=
    List.filter_eq_self.mpr fun _ _ => by rw [plain.level, Threshold.admits_all]
  have written := Guise.written_of_plain plain.level plain.rename machine.written
  simp only [under, journal, written, guise.sink_of_all plain.level heard, plain.rename,
    plain.tokens, Heap.renamed_same, Rename.names_same, Option.getD_none]

theorem Guise.written_renamed (same : guise.rename = .same) (rename : Rename)
    (tokens : Option TokenCounter) (written : List ErrorText) :
    ({ guise with rename, tokens } : Guise).written written =
      guise.written (written.map (·.renamed rename)) := by
  have text (text : ErrorText) : guise.text (text.renamed rename) =
      ({ guise with rename, tokens } : Guise).text text := by
    cases text with
    | logged note write => simp only [ErrorText.renamed, Guise.text, same, Note.renamed_same]
    | plain bytes => rfl
  have passing : (written.map (·.renamed rename)).filter (·.passes guise.level) =
      (written.filter (·.passes guise.level)).map (·.renamed rename) := by
    simp only [List.filter_map, Function.comp_def, ErrorText.passes_renamed]
  rw [Guise.written, Guise.written, passing, List.map_map]
  exact (List.map_congr_left fun known _ => text known).symm

/-- What a process looks like with other tokens in a guise that leaves them as they are. -/
theorem under_renamed (same : guise.rename = .same) (rename : Rename) (tokens : TokenCounter)
    (machine : Machine) : machine.under { guise with rename, tokens := some tokens } =
      ((machine.under { rename }).under guise).under { tokens := some tokens } := by
  have all (journal : List LogRecord) : journal.filter (fun record =>
      Threshold.all.admits record.severity) = journal :=
    List.filter_eq_self.mpr fun _ _ => Threshold.admits_all _
  have sink (sink : LogSink) : ({ guise with rename, tokens := some tokens } : Guise).sink sink =
      guise.sink sink := by
    cases sink <;> rfl
  have first : ({ rename } : Guise).written machine.written =
      machine.written.map (·.renamed rename) := by
    refine (@Guise.written_renamed {} rfl rename none machine.written).trans ?_
    exact Guise.written_of_plain rfl rfl _
  have shown (sink : LogSink) : ({ rename } : Guise).sink sink = sink :=
    Guise.sink_of_all rfl (.inl rfl)
  have counted (sink : LogSink) : ({ tokens := some tokens } : Guise).sink sink = sink :=
    Guise.sink_of_all rfl (.inl rfl)
  have last (written : List ErrorText) :
      ({ tokens := some tokens } : Guise).written written = written :=
    Guise.written_of_plain rfl rfl written
  have written := Guise.written_renamed same rename (some tokens) machine.written
  simp only [under, sink, written, first, shown, counted, last, all, same,
    Heap.renamed_same, Rename.names_same, Option.getD_none,
    Option.getD_some]

end

@[simp] theorem under_default (machine : Machine) : machine.under {} = machine :=
  under_of_plain ⟨rfl, rfl, rfl⟩ (.inl rfl)

section
variable (guise : Guise) (machine : Machine)

@[simp] theorem heap_under : (machine.under guise).heap = machine.heap.renamed guise.rename := rfl

@[simp] theorem tokens_under :
    (machine.under guise).tokens = guise.tokens.getD machine.tokens := rfl

@[simp] theorem output_under : (machine.under guise).output = machine.output := rfl

@[simp] theorem outputBroken_under : (machine.under guise).outputBroken = machine.outputBroken :=
  rfl

@[simp] theorem ended_under : (machine.under guise).ended = machine.ended := rfl

/-! Logging and endings. -/

/-- What is worded is worded in a guise if its level admits it. -/
@[simp] theorem wordsRecords_under (severity : Severity) :
    (machine.under guise).wordsRecords severity =
      (machine.wordsRecords severity && guise.level.admits severity) := by
  have sink : (machine.under guise).sink = guise.sink machine.sink := rfl
  simp only [wordsRecords, sink]
  cases machine.sink with
  | nowhere =>
    cases muffled : guise.muffled with
    | false => simp only [Guise.sink, muffled, Bool.false_eq_true, if_false, Bool.false_and]
    | true =>
      simp only [Guise.sink, muffled, if_true, Bool.false_and]
      cases severity <;> rfl
  | console logger => exact Threshold.admits_min ..
  | journal threshold => exact Threshold.admits_min ..

theorem writeError_under {text : ErrorText} (passes : text.passes guise.level = true) :
    (machine.under guise).writeError (guise.text text) = (machine.writeError text).under guise := by
  have written : guise.written (machine.written ++ [text]) =
      guise.written machine.written ++ [guise.text text] := by
    rw [Guise.written, List.filter_append, List.filter_cons_of_pos passes, List.filter_nil,
      List.map_append]
    rfl
  simp only [writeError, under, written]

theorem writeError_hidden {text : ErrorText} (hidden : text.passes guise.level = false) :
    (machine.writeError text).under guise = machine.under guise := by
  have written : guise.written (machine.written ++ [text]) = guise.written machine.written := by
    rw [Guise.written, List.filter_append,
      List.filter_cons_of_neg (Bool.eq_false_iff.mp hidden), List.filter_nil, List.append_nil]
    rfl
  simp only [writeError, under, written]

theorem writePlain_under (bytes : List UInt8) :
    (machine.under guise).writeError (.plain bytes) =
      (machine.writeError (.plain bytes)).under guise :=
  @writeError_under guise machine (.plain bytes) rfl

@[simp] theorem printError_under (text : String) :
    (machine.under guise).printError text = (machine.printError text).under guise :=
  writePlain_under ..

/-- Threads keep their names in the journal. -/
@[simp] theorem label_under (token : Token) :
    (machine.under guise).label (guise.rename token) = machine.label token := by
  simp only [label, Rename.apply_eq_nobody_iff]
  split
  · rfl
  · exact congrArg (Option.getD · _) (guise.rename.lookup_names machine.labels token)

@[simp] theorem addLabel_under (token : Token) (label : String) :
    (machine.under guise).addLabel (guise.rename token) label =
      (machine.addLabel token label).under guise := rfl

theorem keepNote_under {note : Note} (heard : machine.sink ≠ .nowhere)
    (admitted : guise.level.admits note.severity = true) :
    (machine.under guise).keepNote (note.renamed guise.rename) =
      (machine.keepNote note).under guise := by
  have there : (machine.under guise).sink = guise.sink machine.sink := rfl
  cases sink : machine.sink with
  | nowhere => exact absurd sink heard
  | console logger =>
    rw [sink] at there
    simp only [keepNote, there, sink, Guise.sink]
    exact @writeError_under guise machine (.logged note logger.write) admitted
  | journal threshold =>
    rw [sink] at there
    have worded : (note.renamed guise.rename).render (machine.under guise).label =
        note.render machine.label := note.render_renamed (label_under guise machine)
    have added : (machine.journal ++ [note.render machine.label]).filter
          (fun record => guise.level.admits record.severity) =
        machine.journal.filter (fun record => guise.level.admits record.severity) ++
          [note.render machine.label] := by
      rw [List.filter_append]
      exact congrArg _ (List.filter_cons_of_pos admitted)
    simp only [keepNote, there, sink, Guise.sink, worded]
    simp only [under, added, sink, Guise.sink]

theorem keepNote_hidden {note : Note} (hidden : guise.level.admits note.severity = false) :
    (machine.keepNote note).under guise = machine.under guise := by
  cases sink : machine.sink with
  | nowhere => simp only [keepNote, sink]
  | console logger =>
    simp only [keepNote, sink]
    exact @writeError_hidden guise machine (.logged note logger.write) hidden
  | journal threshold =>
    have dropped : (machine.journal ++ [note.render machine.label]).filter
          (fun record => guise.level.admits record.severity) =
        machine.journal.filter fun record => guise.level.admits record.severity := by
      have gone : [note.render machine.label].filter
          (fun record => guise.level.admits record.severity) = [] :=
        List.filter_cons_of_neg (Bool.eq_false_iff.mp hidden)
      rw [List.filter_append, gone, List.append_nil]
    simp only [keepNote, sink, under, dropped]

@[simp] theorem log_under (severity : Severity) (part : Part) (pieces : List LogPiece) :
    (machine.under guise).log severity part (pieces.map (·.renamed guise.rename)) =
      (machine.log severity part pieces).under guise := by
  simp only [log, wordsRecords_under]
  cases worded : machine.wordsRecords severity with
  | false => rfl
  | true =>
    cases admitted : guise.level.admits severity with
    | false =>
      simp only [Bool.and_false, Bool.false_eq_true, if_false, if_true]
      exact (@keepNote_hidden guise machine ⟨severity, part.target, pieces⟩ admitted).symm
    | true =>
      have heard : machine.sink ≠ .nowhere := by
        intro nowhere
        simp only [wordsRecords, nowhere, Bool.false_eq_true] at worded
      simp only [Bool.and_self, if_true]
      exact @keepNote_under guise machine ⟨severity, part.target, pieces⟩ heard admitted

@[simp] theorem logText_under (severity : Severity) (part : Part) (text : String) :
    (machine.under guise).logText severity part text =
      (machine.logText severity part text).under guise :=
  log_under guise machine severity part [.text text]

/-- The variables ask for the same logger, if one is still to be installed, but for what the guise
lets through. -/
structure Logs (guise : Guise) (machine : Machine) : Prop where
  logger : machine.sink = .nowhere → guise.muffled = false ∧
    (guise.backend.getD machine.backend).logger (guise.environment.getD machine.environment) =
      (machine.backend.logger machine.environment).limited guise.level
  warning :
    (guise.backend.getD machine.backend).warning (guise.environment.getD machine.environment) =
      machine.backend.warning machine.environment

variable {guise machine} in
theorem initLogging_under (logs : Logs guise machine) :
    (machine.under guise).initLogging = machine.initLogging.under guise := by
  have warning : (machine.under guise).backend.warning (machine.under guise).environment =
      machine.backend.warning machine.environment := logs.warning
  have there : (machine.under guise).sink = guise.sink machine.sink := rfl
  cases sink : machine.sink with
  | nowhere =>
    obtain ⟨heard, logger⟩ := logs.logger sink
    have logger : (machine.under guise).backend.logger (machine.under guise).environment = _ :=
      logger
    simp only [sink, Guise.sink, heard, Bool.false_eq_true, if_false] at there
    simp only [initLogging, sink, there, warning, logger, printError_under]
    rfl
  | console logger =>
    rw [sink] at there
    simp only [initLogging, sink, there, warning, printError_under, Guise.sink]
  | journal threshold =>
    rw [sink] at there
    simp only [initLogging, sink, there, warning, printError_under, Guise.sink]

/-- Names are not told with tokens: no logger that there is, or that is asked for, is handed records
of so little weight. -/
structure Untraced (machine : Machine) : Prop where
  unworded : machine.wordsRecords .trace = false
  asked : machine.sink = .nowhere →
    (machine.backend.logger machine.environment).ceiling.admits .trace = false

theorem wordsRecords_log (severity other : Severity) (part : Part) (pieces : List LogPiece) :
    (machine.log severity part pieces).wordsRecords other = machine.wordsRecords other := by
  obtain ⟨kept, written, same⟩ := log_eq machine severity part pieces
  rw [same]
  rfl

theorem wordsRecords_readSettings (severity : Severity) :
    machine.readSettings.2.wordsRecords severity = machine.wordsRecords severity := by
  unfold readSettings
  split
  · exact wordsRecords_log ..
  · rfl

variable {machine} in
theorem Untraced.beginStart (untraced : Untraced machine) (count : Nat) :
    (machine.beginStart count).wordsRecords .trace = false := by
  have logging : machine.initLogging.wordsRecords .trace = false := by
    cases sink : machine.sink with
    | nowhere =>
      simp only [initLogging, sink]
      exact untraced.asked sink
    | console | journal =>
      simp only [initLogging, sink]
      exact untraced.unworded
  unfold Machine.beginStart
  exact (wordsRecords_log ..).trans ((wordsRecords_readSettings ..).trans logging)

@[simp] theorem trap_under (reason : Trap) :
    (machine.under guise).trap reason = (machine.trap reason).under guise := by
  simp only [trap, logText_under, printError_under]
  rfl

@[simp] theorem abort_under : (machine.under guise).abort = machine.abort.under guise := rfl

@[simp] theorem exit_under (status : Nat) :
    (machine.under guise).exit status = (machine.exit status).under guise := rfl

theorem breakOutput_under : { machine.under guise with outputBroken := true } =
    { machine with outputBroken := true }.under guise := rfl

@[simp] theorem logRaising_under (throwable : Ref) (handlers : Nat) :
    (machine.under guise).logRaising throwable handlers =
      (machine.logRaising throwable handlers).under guise :=
  logText_under ..

@[simp] theorem logCaught_under (throwable : Ref) :
    (machine.under guise).logCaught throwable = (machine.logCaught throwable).under guise :=
  logText_under ..

@[simp] theorem logReleased_under (record : Exception.ExceptionRecord) :
    (machine.under guise).logReleased record = (machine.logReleased record).under guise :=
  logText_under ..

@[simp] theorem reportUncaught_under (name : Option String) (record : Exception.ExceptionRecord) :
    (machine.under guise).reportUncaught name record =
      (machine.reportUncaught name record).under guise :=
  writePlain_under ..

/-! Memory. -/

theorem setHeap_under (heap : Heap) :
    { machine.under guise with heap := heap.renamed guise.rename } =
      { machine with heap }.under guise := rfl

theorem allocated_under (size : UInt64) (outcome : Except AllocationFault (Ref × Heap)) :
    (machine.under guise).allocated size (Heap.renamedOutcome guise.rename outcome) =
      ((machine.allocated size outcome).1, (machine.allocated size outcome).2.under guise) := by
  cases outcome with
  | ok made => exact Prod.ext rfl (logText_under guise { machine with heap := made.2 } ..)
  | error fault =>
    cases fault with
    | refused reason => rfl
    | exhausted bytes =>
      simp only [Heap.renamedOutcome, Except.map, allocated, logText_under, abort_under]

@[simp] theorem newObject_under (size table : UInt64) :
    (machine.under guise).newObject size table =
      ((machine.newObject size table).1, (machine.newObject size table).2.under guise) := by
  simp only [newObject, heap_under, Heap.allocateObject_renamed, allocated_under]

@[simp] theorem setArrayTable_under (table : UInt64) :
    (machine.under guise).setArrayTable table = (machine.setArrayTable table).under guise := by
  simp only [setArrayTable, logText_under, heap_under, Heap.setArrayTable_renamed]
  exact setHeap_under ..

@[simp] theorem buildTable_under (blueprint : Dispatch.Blueprint) :
    (machine.under guise).buildTable blueprint =
      (machine.buildTable blueprint).map fun built => (built.1, built.2.under guise) := by
  simp only [buildTable, heap_under, Heap.residue_renamed, Heap.next_renamed]
  cases blueprint.build (machine.heap.residue machine.heap.next) with
  | error fault => rfl
  | ok table =>
    simp only [bind, Except.bind, Heap.placeTable_renamed]
    cases machine.heap.placeTable table with
    | none => exact congrArg (Except.ok ∘ Prod.mk _) (abort_under ..)
    | some placed =>
      exact congrArg (Except.ok ∘ Prod.mk _)
        (logText_under guise { machine with heap := placed.2 } ..)

@[simp] theorem arrayTable_under :
    (machine.under guise).arrayTable =
      (machine.arrayTable.1, machine.arrayTable.2.under guise) := by
  simp only [arrayTable, heap_under, Heap.arrayTable?_renamed, buildTable_under]
  cases machine.heap.arrayTable? with
  | some table => rfl
  | none =>
    cases machine.buildTable {} with
    | error fault => simp only [Except.map, trap_under]
    | ok built =>
      obtain ⟨table, built⟩ := built
      cases table <;> rfl

/-- An allocation that does not see the guise still does not when it needs the array table. -/
theorem withArrayTable_under {allocate other : UInt64 → Machine → Except Trap Ref × Machine}
    (blind : ∀ table ready, other table (ready.under guise) =
      ((allocate table ready).1, (allocate table ready).2.under guise)) :
    (machine.under guise).withArrayTable other =
      ((machine.withArrayTable allocate).1, (machine.withArrayTable allocate).2.under guise) := by
  simp only [withArrayTable, arrayTable_under]
  obtain ⟨table, ready⟩ := machine.arrayTable
  cases table with
  | none => rfl
  | some table => exact blind table ready

@[simp] theorem newArray_under (length : UInt32) (width : UInt64) :
    (machine.under guise).newArray length width =
      ((machine.newArray length width).1, (machine.newArray length width).2.under guise) := by
  simp only [newArray]
  split
  · refine withArrayTable_under _ _ fun table ready => ?_
    rw [heap_under, Heap.allocateArray_renamed, allocated_under]
  · rfl

@[simp] theorem marshalArguments_under (arguments : List UInt64) :
    (machine.under guise).marshalArguments arguments =
      ((machine.marshalArguments arguments).1,
        (machine.marshalArguments arguments).2.under guise) := by
  refine withArrayTable_under _ _ fun table ready => ?_
  rw [heap_under, Heap.marshalArguments_renamed, allocated_under]

@[simp] theorem copyArray_under (source : Ref) (sourceStart : Int64) (destination : Ref)
    (destinationStart count : Int64) :
    (machine.under guise).copyArray source sourceStart destination destinationStart count =
      (machine.copyArray source sourceStart destination destinationStart count).map
        (·.under guise) := by
  simp only [copyArray, heap_under, Heap.copyArray_renamed]
  cases machine.heap.copyArray source sourceStart destination destinationStart count with
  | error reason => rfl
  | ok heap => rfl

@[simp] theorem vtableLookup_under (r : Ref) (index : Nat) :
    (machine.under guise).vtableLookup r index = machine.vtableLookup r index := by
  simp only [vtableLookup, heap_under, Heap.table_renamed]

@[simp] theorem itableLookup_under (r : Ref) (interface : UInt64) (index : Nat) :
    (machine.under guise).itableLookup r interface index =
      machine.itableLookup r interface index := by
  simp only [itableLookup, heap_under, Heap.table_renamed]

@[simp] theorem println_under (r : Ref) :
    (machine.under guise).println r = (machine.println r).under guise := by
  simp only [println, heap_under, Heap.textAt_renamed, outputBroken_under, logText_under]
  split
  · rfl
  · rfl

end

end Machine

/-! Entry points and stubs. -/

section
variable (guise : Machine.Guise) (machine : Machine)

@[simp] theorem EntryPoint.orTrap_under (outcome : Except Trap α × Machine) :
    EntryPoint.orTrap (outcome.1, outcome.2.under guise) =
      ((EntryPoint.orTrap outcome).1, (EntryPoint.orTrap outcome).2.under guise) := by
  obtain ⟨made, machine⟩ := outcome
  cases made with
  | error reason => exact Prod.ext rfl (Machine.trap_under ..)
  | ok value => rfl

@[simp] theorem EntryPoint.itableLookup_under (r : Ref) (interface index : UInt64) :
    EntryPoint.itableLookup (machine.under guise) r interface index =
      ((EntryPoint.itableLookup machine r interface index).1,
        (EntryPoint.itableLookup machine r interface index).2.under guise) := by
  simp only [EntryPoint.itableLookup, Machine.itableLookup_under, Machine.logText_under]
  cases machine.itableLookup r interface index.toNat <;> rfl

theorem EntryPoint.settings_itableLookup (r : Ref) (interface index : UInt64) :
    (EntryPoint.itableLookup machine r interface index).2.settings = machine.settings ∧
      (EntryPoint.itableLookup machine r interface index).2.environment = machine.environment := by
  unfold EntryPoint.itableLookup
  split
  · exact ⟨rfl, rfl⟩
  · exact Machine.settings_log ..

@[simp] theorem EntryPoint.arrayCopy_under (source : Ref) (sourceStart : Int32) (destination : Ref)
    (destinationStart count : Int32) :
    EntryPoint.arrayCopy (machine.under guise) source sourceStart destination destinationStart
        count =
      (EntryPoint.arrayCopy machine source sourceStart destination destinationStart count).under
        guise := by
  simp only [EntryPoint.arrayCopy, Machine.copyArray_under, Machine.trap_under]
  cases machine.copyArray source _ destination _ _ <;> rfl

@[simp] theorem Native.Stub.callArrayCopy_under (source : Ref) (sourceStart : Int32)
    (destination : Ref) (destinationStart count : Int32) :
    Native.Stub.callArrayCopy (machine.under guise) source sourceStart destination destinationStart
        count =
      (Native.Stub.callArrayCopy machine source sourceStart destination destinationStart
        count).under guise := by
  simp only [Native.Stub.callArrayCopy, Machine.copyArray_under, Machine.trap_under]
  cases machine.copyArray source _ destination _ _ <;> rfl

end

namespace Machine

/-! Settings that fit. -/

/-- The variables ask for the same settings, and if settings are forced, those that are in force
differ at most in the unwind mode. -/
structure Fits (guise : Guise) (machine : Machine) : Prop where
  environment : (guise.environment.getD machine.environment).settings = machine.environment.settings
  installed : ∀ cell, guise.settings = some cell → ∃ settings mode,
    cell.installed = some settings ∧
      machine.settings.installed = some { settings with unwind := mode }

section
variable {guise : Guise} {machine : Machine}

theorem Fits.congr {other : Machine} (fits : Fits guise machine)
    (settings : other.settings = machine.settings)
    (environment : other.environment = machine.environment) : Fits guise other := by
  constructor
  · rw [environment]
    exact fits.environment
  · rw [settings]
    exact fits.installed

/-- Where no settings are forced, the variables have to fit only. -/
theorem fits_of_free (settings : guise.settings = none)
    (environment : (guise.environment.getD machine.environment).settings =
      machine.environment.settings) : Fits guise machine :=
  ⟨environment, settings ▸ nofun⟩

theorem Fits.log (fits : Fits guise machine) (severity : Severity) (part : Part)
    (pieces : List LogPiece) : Fits guise (machine.log severity part pieces) :=
  fits.congr (settings_log ..).1 (settings_log ..).2

/-- Settings that are in force are read, and nothing else happens. -/
theorem readSettings_of_installed {settings : Settings}
    (installed : machine.settings.installed = some settings) :
    machine.readSettings = (settings, machine) := by
  simp only [readSettings, SettingsCell.read, installed]

/-- Where no settings are forced, they are read as they would be otherwise. -/
theorem readSettings_free (fits : Fits guise machine) (free : guise.settings = none) :
    (machine.under guise).readSettings =
      (machine.readSettings.1, machine.readSettings.2.under guise) := by
  have cell : (machine.under guise).settings = machine.settings := by
    simp only [under, free, Option.getD_none]
  have same : (machine.under guise).environment.settings = machine.environment.settings :=
    fits.environment
  have put (settings : SettingsCell) : ({ machine.under guise with settings } : Machine) =
      { machine with settings }.under guise := by
    simp only [under, free, Option.getD_none]
  simp only [readSettings, cell, same, put, logText_under]
  split <;> rfl

/-- Where no settings are forced, they are installed as they would be otherwise. -/
theorem configure_free (free : guise.settings = none) (machine : Machine) (settings : Settings) :
    (machine.under guise).configure settings =
      (machine.configure settings).map (·.under guise) := by
  have cell : (machine.under guise).settings = machine.settings := by
    simp only [under, free, Option.getD_none]
  have put (settings : SettingsCell) : ({ machine.under guise with settings } : Machine) =
      { machine with settings }.under guise := by
    simp only [under, free, Option.getD_none]
  simp only [configure, cell]
  cases machine.settings.install settings with
  | error fault => rfl
  | ok installed => exact congrArg Except.ok (put installed)

/-- What is read differs at most in the unwind mode. -/
theorem Fits.readSettings (fits : Fits guise machine) : ∃ mode,
    (machine.under guise).readSettings =
      ({ machine.readSettings.1 with unwind := mode }, machine.readSettings.2.under guise) := by
  cases forced : guise.settings with
  | none => exact ⟨machine.readSettings.1.unwind, readSettings_free fits forced⟩
  | some cell =>
    obtain ⟨settings, mode, held, installed⟩ := fits.installed cell forced
    have cell : (machine.under guise).settings.installed = some settings := by
      simp only [under, forced, Option.getD_some, held]
    refine ⟨settings.unwind, ?_⟩
    rw [readSettings_of_installed installed]
    exact readSettings_of_installed cell

theorem Fits.afterReading (fits : Fits guise machine) : Fits guise machine.readSettings.2 := by
  constructor
  · rw [(settings_readSettings machine).2]
    exact fits.environment
  · intro cell forced
    obtain ⟨settings, mode, held, installed⟩ := fits.installed cell forced
    rw [readSettings_of_installed installed]
    exact ⟨settings, mode, held, installed⟩

/-! Guises that leave settings to a process. -/

/-- Forces no settings, and has the same ones asked for, and the same logger. -/
structure Suits (guise : Guise) (machine : Machine) : Prop where
  free : guise.settings = none
  fits : Fits guise machine
  logs : Logs guise machine

/-- Leaves to a process what it was given, and its log. -/
structure Guise.Alike (guise : Guise) (machine : Machine) : Prop where
  settings : guise.settings = none
  environment : guise.environment.getD machine.environment = machine.environment
  backend : guise.backend.getD machine.backend = machine.backend
  level : guise.level = .all
  heard : guise.muffled = false ∨ machine.sink ≠ .nowhere

theorem Guise.Alike.logs (alike : guise.Alike machine) : Logs guise machine := by
  constructor
  · intro sink
    refine ⟨alike.heard.resolve_right fun there => there sink, ?_⟩
    rw [alike.environment, alike.backend, alike.level, Logger.limited_all]
  · rw [alike.environment, alike.backend]

theorem Guise.Alike.suits (alike : guise.Alike machine) : Suits guise machine :=
  ⟨alike.settings,
    fits_of_free alike.settings (congrArg Environment.settings alike.environment), alike.logs⟩

/-- A program that is started logs and reads as it would otherwise. -/
theorem Suits.beginStart (suits : Suits guise machine) (count : Nat) :
    (machine.under guise).beginStart count = (machine.beginStart count).under guise := by
  have kept := settings_initLogging machine
  have fits : Fits guise machine.initLogging := suits.fits.congr kept.1 kept.2
  simp only [Machine.beginStart, initLogging_under suits.logs, readSettings_free fits suits.free,
    logText_under]

/-! Monitors. -/

theorem Fits.trap (fits : Fits guise machine) (reason : Trap) :
    Fits guise (machine.trap reason) :=
  fits.congr (settings_log ..).1 (settings_log ..).2

theorem Fits.heed (fits : Fits guise machine) (me : Token) (object : UInt64) (note : MonitorNote) :
    Fits guise (machine.heed me object note) := by
  cases note with
  | entered | released => exact fits.log ..
  | overflow => exact fits.trap _
  | misuse operation owner =>
    simp only [Machine.heed]
    split
    · exact fits.afterReading.trap _
    · exact fits.afterReading.log ..

theorem heed_under (fits : Fits guise machine) (me : Token) (object : UInt64)
    (note : MonitorNote) :
    (machine.under guise).heed (guise.rename me) object (note.renamed guise.rename) =
      (machine.heed me object note).under guise := by
  cases note with
  | entered =>
    exact log_under guise machine .trace .monitor
      [.text (monitorName object ++ " entered by "), .thread me]
  | released =>
    exact log_under guise machine .trace .monitor
      [.text (monitorName object ++ " released by "), .thread me]
  | overflow => exact trap_under ..
  | misuse operation owner =>
    obtain ⟨mode, read⟩ := fits.readSettings
    have warned := @log_under guise machine.readSettings.2 .warn .monitor
      [.text ("monitor " ++ operation ++ " by "), .thread me, .text " while owned by ",
        .thread owner]
    simp only [heed, MonitorNote.renamed, read, trap_under]
    split
    · rfl
    · exact warned

theorem Fits.setHeap (fits : Fits guise machine) (heap : Heap) :
    Fits guise { machine with heap } := fits.congr rfl rfl

theorem Fits.step (fits : Fits guise machine)
    (stepped : machine.stepMonitor me object = some after) :
    Fits guise after := by
  obtain ⟨⟨note, monitor⟩, -, rfl⟩ := Option.map_eq_some_iff.mp stepped
  cases note with
  | none => exact fits.setHeap _
  | some note => exact (fits.setHeap _).heed me object note

theorem stepMonitor_under (fits : Fits guise machine) (me : Token) (object : UInt64) :
    (machine.under guise).stepMonitor (guise.rename me) object =
      (machine.stepMonitor me object).map (·.under guise) := by
  simp only [stepMonitor, heap_under, Heap.monitor_renamed, Monitor.step_renamed, Option.map_map]
  congr 1
  funext answer
  obtain ⟨note, monitor⟩ := answer
  simp only [Function.comp_apply, Monitor.renamedAnswer, Heap.setMonitor_renamed, setHeap_under]
  cases note with
  | none => rfl
  | some note => exact heed_under (fits.setHeap _) me object note

theorem runMonitor_under (fits : Fits guise machine) (me : Token) (object : UInt64) (fuel : Nat) :
    (machine.under guise).runMonitor (guise.rename me) object fuel =
      (machine.runMonitor me object fuel).under guise := by
  induction fuel generalizing machine with
  | zero => rfl
  | succ fuel ih =>
    simp only [runMonitor, ended_under, stepMonitor_under fits]
    split
    · rfl
    · cases stepped : machine.stepMonitor me object with
      | none => rfl
      | some after => exact ih (fits.step stepped)

theorem request_under (fits : Fits guise machine) (me : Token) (object : UInt64)
    (request : MonitorRequest) :
    (machine.under guise).request (guise.rename me) object request =
      (machine.request me object request).under guise := by
  simp only [Machine.request, heap_under, Heap.monitor_renamed, Monitor.begin_renamed,
    Heap.setMonitor_renamed, setHeap_under]
  exact runMonitor_under (fits.setHeap _) me object 8

theorem notify_under (fits : Fits guise machine) (me : Token) (r : Ref) (all : Bool) :
    (machine.under guise).notify (guise.rename me) r all =
      (machine.notify me r all).under guise := by
  obtain ⟨mode, read⟩ := fits.readSettings
  simp only [Machine.notify, read]
  exact request_under fits.afterReading ..

theorem timeOut_under (machine : Machine) (me : Token) (object : UInt64) :
    (machine.under guise).timeOut (guise.rename me) object =
      (machine.timeOut me object).under guise := by
  simp only [timeOut, heap_under, Heap.monitor_renamed, Monitor.rouse_renamed,
    Heap.setMonitor_renamed, setHeap_under]

theorem Fits.timeOut (fits : Fits guise machine) (me : Token) (object : UInt64) :
    Fits guise (machine.timeOut me object) := fits.setHeap _

end

end ManagedRuntime.Machine
