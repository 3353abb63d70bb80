import ManagedRuntime.Proofs.Machine.Guise
import ManagedRuntime.Proofs.Scenario.Routes
import ManagedRuntime.Proofs.Scenario.Tokens

/-! A scenario in a guise: with other settings or variables of its process, other routes in its
code, and without the records and events that the guise hides. What it does to memory, threads and
accounts is the same. -/
namespace ManagedRuntime.Scenario
open Exception

/-- Whether an event is told in every guise as it is. Only those that show which route was taken and
the records of the log may be hidden. -/
@[simp] def Event.isPlain : Event → Bool
  | .status _ | .started _ | .log _ _ => false
  | _ => true

/-! A guise that changes nothing meets what is expected of one. -/

theorem id_nobody : id nobody = nobody := rfl

theorem Event.plain_shown (told : Event) (_ : told.isPlain = true) : some told = some told := rfl

theorem Event.logged_shown (severity : Severity) (text : String) :
    some (Event.log severity text) =
      if Threshold.all.admits severity then some (.log severity text) else none :=
  (if_pos (Threshold.admits_all severity)).symm

/-- What is changed about a state. Plain events are told as they are, and of the log what the
process keeps of it. -/
structure Guise where
  machine : Machine.Guise := {}
  /-- What threads show of their tokens. -/
  cell : Token → Token := id
  empty : cell nobody = nobody := by exact id_nobody
  route : Route → Route := id
  event : Event → Option Event := some
  plain : ∀ told, told.isPlain = true → event told = some told := by exact Event.plain_shown
  logged : ∀ severity text, event (.log severity text) =
      if machine.level.admits severity then some (.log severity text) else none := by
    exact Event.logged_shown

namespace Guise
variable (guise : Guise)

def entry (told : Entry) : Option Entry := (guise.event told.event).map (⟨told.thread, ·⟩)

def thread (thread : Thread) : Thread :=
  { thread with
    told := thread.told.filterMap guise.entry
    token := guise.cell thread.token
    strand := (rerouting guise.route).strand thread.strand
    inbox := thread.inbox.map (·.map (Step.reroute guise.route)) }

/-- Leaves all tokens as they are. -/
structure SameTokens : Prop where
  cell : guise.cell = id
  rename : guise.machine.rename = .same
  counter : guise.machine.tokens = none

/-- Shows no tokens of threads, nor which one is next. -/
structure HidesTokens : Prop where
  cell : ∀ token, guise.cell token = nobody
  counter : guise.machine.tokens ≠ none

end Guise

namespace State

def under (guise : Guise) (state : State) : State :=
  { state with
    machine := state.machine.under guise.machine
    threads := state.threads.map guise.thread }

section
variable (guise : Guise) (state : State) (me : Nat)

/-- A guise that keeps routes and events changes no more about a thread than its token. -/
theorem thread_of_plain {guise : Guise} (route : guise.route = id) (event : guise.event = some)
    (thread : Thread) : guise.thread thread = { thread with token := guise.cell thread.token } := by
  have entry : guise.entry = some := by
    funext told
    simp only [Guise.entry, event, Option.map_some]
  have inbox : thread.inbox.map (·.map (Step.reroute id)) = thread.inbox := by
    cases thread.inbox with
    | none => rfl
    | some steps => simp only [Option.map_some, ← rerouteAll_eq_map, rerouteAll_id]
  simp only [Guise.thread, entry, route, rerouting_id_strand, List.filterMap_some, inbox]

/-- A guise that keeps the tokens of threads as well changes the process only. -/
theorem under_of_plain {guise : Guise} (route : guise.route = id) (event : guise.event = some)
    (cell : guise.cell = id) :
    state.under guise = { state with machine := state.machine.under guise.machine } := by
  have same (thread : Thread) : guise.thread thread = thread := by
    rw [thread_of_plain route event, cell]
    rfl
  have threads : state.threads.map guise.thread = state.threads :=
    (Array.map_congr_left fun thread _ => same thread).trans (Array.map_id' _)
  simp only [under, threads]

theorem under_plain : state.under {} = state := by
  rw [state.under_of_plain rfl rfl rfl, Machine.under_default]

/-! What a guise leaves as it is. -/

@[simp] theorem machine_under :
    (state.under guise).machine = state.machine.under guise.machine := rfl

@[simp] theorem clock_under : (state.under guise).clock = state.clock := rfl

@[simp] theorem running_under : (state.under guise).running = state.running := rfl

@[simp] theorem codeBase_under : (state.under guise).codeBase = state.codeBase := rfl

@[simp] theorem references_under : (state.under guise).references = state.references := rfl

@[simp] theorem tables_under : (state.under guise).tables = state.tables := rfl

@[simp] theorem made_under : (state.under guise).made = state.made := rfl

@[simp] theorem records_under : (state.under guise).records = state.records := rfl

@[simp] theorem nests_under : (state.under guise).nests = state.nests := rfl

@[simp] theorem size_under : (state.under guise).threads.size = state.threads.size :=
  Array.size_map

/-- There is nothing to see of a thread that is not there. -/
theorem absent_under : guise.thread {} = {} := by
  simp only [Guise.thread, guise.empty]
  rfl

@[simp] theorem thread_under (index : Nat) :
    (state.under guise).thread index = guise.thread (state.thread index) := by
  simp only [thread, under, Array.getD_eq_getD_getElem?, Array.getElem?_map]
  cases state.threads[index]? with
  | none => exact (absent_under guise).symm
  | some thread => rfl

@[simp] theorem reference_under (name : String) :
    (state.under guise).reference name = state.reference name := rfl

@[simp] theorem nameOf_under (r : Ref) : (state.under guise).nameOf r = state.nameOf r := rfl

@[simp] theorem tableAddress_under (table : Option String) :
    (state.under guise).tableAddress table = state.tableAddress table := by
  cases table <;> rfl

@[simp] theorem tableName_under (address : UInt64) :
    (state.under guise).tableName address = state.tableName address := rfl

@[simp] theorem recordView_under (record : ExceptionRecord) (counts : Counts) :
    (state.under guise).recordView record counts = state.recordView record counts := rfl

@[simp] theorem tally_under (nest : Nat) : (state.under guise).tally nest = state.tally nest := rfl

@[simp] theorem indexOf?_under (label : String) :
    (state.under guise).indexOf? label = state.indexOf? label := by
  simp only [indexOf?, size_under, thread_under]
  rfl

@[simp] theorem currentName_under : (state.under guise).currentName me = state.currentName me := by
  simp only [currentName, thread_under]
  rfl

@[simp] theorem logEntry_under (record : LogRecord) :
    (state.under guise).logEntry me record = state.logEntry me record := by
  simp only [logEntry, thread_under]
  rfl

/-! Changes that are made in a guise as they are made without. -/

theorem updateThread_under_of {index : Nat} {change changed : Thread → Thread}
    (same : ∀ thread, changed (guise.thread thread) = guise.thread (change thread)) :
    (state.under guise).updateThread index changed =
      (state.updateThread index change).under guise := by
  have threads : (state.threads.map guise.thread).modify index changed =
      (state.threads.modify index change).map guise.thread := by
    refine Array.ext (by simp) fun position _ _ => ?_
    simp only [Array.getElem_modify, Array.getElem_map]
    split
    · exact same _
    · rfl
  simp only [updateThread, under, threads]

theorem updateThread_under (index : Nat) (change : Thread → Thread)
    (same : ∀ thread, change (guise.thread thread) = guise.thread (change thread)) :
    (state.under guise).updateThread index change = (state.updateThread index change).under guise :=
  updateThread_under_of guise state same

@[simp] theorem setMachine_under (machine : Machine) :
    (state.under guise).setMachine (machine.under guise.machine) =
      (state.setMachine machine).under guise := rfl

@[simp] theorem bind_under (name : String) (r : Ref) :
    (state.under guise).bind name r = (state.bind name r).under guise := rfl

@[simp] theorem keepObject_under (name : String) (r : Ref) :
    (state.under guise).keepObject name r = (state.keepObject name r).under guise := rfl

@[simp] theorem updateTally_under (nest : Nat) (change : NestTally → NestTally) :
    (state.under guise).updateTally nest change = (state.updateTally nest change).under guise := rfl

@[simp] theorem setWaiting_under (index : Nat) (waiting : Waiting) :
    (state.under guise).setWaiting index waiting = (state.setWaiting index waiting).under guise :=
  updateThread_under guise state index _ fun _ => rfl

/-- An entry is told as the guise has it, or not at all. -/
theorem tellEntry_under_of {entry : Entry} {shown : Entry} (kept : guise.entry entry = some shown) :
    (state.under guise).tellEntry me shown = (state.tellEntry me entry).under guise :=
  updateThread_under_of guise state fun thread => by
    simp only [Guise.thread, List.filterMap_cons_some kept]

theorem updateThread_hidden {index : Nat} {change : Thread → Thread}
    (hidden : ∀ thread, guise.thread (change thread) = guise.thread thread) :
    (state.updateThread index change).under guise = state.under guise := by
  have same := @updateThread_under_of guise state index change id fun thread => (hidden thread).symm
  refine same.symm.trans ?_
  simp only [updateThread]
  congr 1
  refine Array.ext (by simp) fun position _ _ => ?_
  simp only [Array.getElem_modify, id, ite_self]
  rfl

theorem tellEntry_hidden {entry : Entry} (hidden : guise.entry entry = none) :
    (state.tellEntry me entry).under guise = state.under guise :=
  updateThread_hidden guise state fun thread => by
    simp only [Guise.thread, List.filterMap_cons_none hidden]

@[simp] theorem event_plain {event : Event} (plain : event.isPlain = true) :
    guise.event event = some event := guise.plain event plain

@[simp] theorem tellEntry_under {entry : Entry} (plain : entry.event.isPlain = true) :
    (state.under guise).tellEntry me entry = (state.tellEntry me entry).under guise :=
  tellEntry_under_of guise state me
    (by simp only [Guise.entry, guise.plain _ plain, Option.map_some])

theorem foldl_under {ε : Type} (operation : State → ε → State)
    (same : ∀ state item, operation (state.under guise) item = (operation state item).under guise)
    (items : List ε) :
    items.foldl operation (state.under guise) = (items.foldl operation state).under guise := by
  induction items generalizing state with
  | nil => rfl
  | cons item rest ih => rw [List.foldl_cons, same, ih, List.foldl_cons]

/-- Entries that the guise hides are not handed on either. -/
theorem tellAll_under (entries : List Entry) :
    (entries.filterMap guise.entry).foldl (fun told entry => told.tellEntry me entry)
        (state.under guise) =
      (entries.foldl (fun told entry => told.tellEntry me entry) state).under guise := by
  induction entries generalizing state with
  | nil => rfl
  | cons entry rest ih =>
    rw [List.foldl_cons, ← ih]
    cases kept : guise.entry entry with
    | none => rw [List.filterMap_cons_none kept, tellEntry_hidden guise state me kept]
    | some shown =>
      rw [List.filterMap_cons_some kept, List.foldl_cons, tellEntry_under_of guise state me kept]

/-- Of the journal the guise shows the entries of the records that it keeps. -/
theorem entries_under (records : List LogRecord) :
    (records.map (state.logEntry me)).filterMap guise.entry =
      (records.filter fun record => guise.machine.level.admits record.severity).map
        (state.logEntry me) := by
  have shown (record : LogRecord) : guise.entry (state.logEntry me record) =
      if guise.machine.level.admits record.severity then some (state.logEntry me record)
      else none := by
    simp only [Guise.entry, logEntry, guise.logged]
    split <;> rfl
  induction records with
  | nil => rfl
  | cons record rest ih =>
    rw [List.map_cons, List.filterMap_cons, shown, List.filter_cons, ih]
    cases guise.machine.level.admits record.severity <;> rfl

theorem flushJournal_eq : state.flushJournal me =
    (state.machine.journal.map (state.logEntry me)).foldl
      (fun told entry => told.tellEntry me entry)
      { state with machine := { state.machine with journal := [] } } := by
  rw [List.foldl_map]
  rfl

@[simp] theorem flushJournal_under :
    (state.under guise).flushJournal me = (state.flushJournal me).under guise := by
  have same : (state.under guise).logEntry me = state.logEntry me :=
    funext (logEntry_under guise state me)
  have shown := entries_under guise state me state.machine.journal
  rw [flushJournal_eq, flushJournal_eq, ← tellAll_under guise, shown, same]
  rfl

theorem tell_under_of {event shown : Event} (kept : guise.event event = some shown) :
    (state.under guise).tell me shown = (state.tell me event).under guise := by
  have entry : guise.entry ⟨(state.thread me).label, event⟩ =
      some ⟨(state.thread me).label, shown⟩ := by
    simp only [Guise.entry, kept, Option.map_some]
  simp only [tell, flushJournal_under, thread_under]
  exact tellEntry_under_of guise _ me entry

@[simp] theorem tell_under {event : Event} (plain : event.isPlain = true) :
    (state.under guise).tell me event = (state.tell me event).under guise :=
  tell_under_of guise state me (guise.plain event plain)

@[simp] theorem tellUnlessEnded_under {event : Event} (plain : event.isPlain = true) :
    (state.under guise).tellUnlessEnded me event =
      (state.tellUnlessEnded me event).under guise := by
  simp only [tellUnlessEnded, machine_under, Machine.ended_under, flushJournal_under,
    tell_under guise state me plain]
  split <;> rfl

/-! Tokens that are drawn. -/

theorem currentToken_under (same : guise.SameTokens) :
    (state.under guise).currentToken me =
      ((state.currentToken me).1, (state.currentToken me).2.under guise) := by
  have cell : (guise.thread (state.thread me)).token = (state.thread me).token :=
    congrFun same.cell _
  have counter : (state.machine.under guise.machine).tokens = state.machine.tokens := by
    rw [Machine.tokens_under, same.counter, Option.getD_none]
  have set (tokens : TokenCounter) : { state.machine.under guise.machine with tokens } =
      { state.machine with tokens }.under guise.machine := by
    simp only [Machine.under, same.counter, Option.getD_none]
  simp only [currentToken, Machine.currentToken, machine_under, thread_under, cell, counter, set]
  refine Prod.ext rfl (updateThread_under guise (state.setMachine _) me _ fun thread => ?_)
  simp only [Guise.thread, same.cell, id]

/-- A guise that hides tokens does not show which one is next. -/
theorem setTokens_hidden (hides : guise.HidesTokens) (tokens : TokenCounter) :
    (state.setMachine { state.machine with tokens }).under guise = state.under guise := by
  obtain ⟨counter, hidden⟩ := Option.ne_none_iff_exists'.mp hides.counter
  simp only [setMachine, under, Machine.under, hidden, Option.getD_some]

/-- Nor does it show that one was drawn. -/
theorem draw_hidden (hides : guise.HidesTokens) :
    (draw me state).under guise = state.under guise := by
  refine (updateThread_hidden guise (state.setMachine _) fun thread => ?_).trans
    (setTokens_hidden guise state hides _)
  simp only [Guise.thread, hides.cell]

@[simp] theorem nameAs_under (token : Token) (name : String) :
    (state.under guise).nameAs me (guise.machine.rename token) name =
      (state.nameAs me token name).under guise := by
  have named := updateThread_under guise state me
    (fun thread => { thread with ownName := some name }) fun _ => rfl
  have logged := Machine.log_under guise.machine state.machine .trace .thread
    [.thread token, .text (" named " ++ Text.quoted name)]
  exact congr (congrArg setMachine named) logged

/-- Without a record to word it makes no difference what the token is. -/
theorem nameAs_of_unworded (unworded : state.machine.wordsRecords .trace = false)
    (token other : Token) (name : String) :
    state.nameAs me token name = state.nameAs me other name := by
  simp only [nameAs, Machine.log, unworded, Bool.false_eq_true, if_false]

end
end State

/-- The answer to an instruction, in a guise. -/
def Guise.answer (guise : Guise) (answer : Reply Instruction Site × Counts × State) :
    Reply Instruction Site × Counts × State :=
  ((rerouting guise.route).reply answer.1, answer.2.1, answer.2.2.under guise)

end ManagedRuntime.Scenario
