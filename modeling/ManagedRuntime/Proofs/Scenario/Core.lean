import ManagedRuntime.Proofs.Scenario.Surroundings
import ManagedRuntime.Proofs.Thread.Completion

/-! The core of a scenario: where its threads are, and which records have a name. Most instructions
and all signals leave it alone, and whatever else one sees of threads that takes no notice of what
they tell, hold and wait for. -/
namespace ManagedRuntime.Scenario
open Exception

/-- A view of threads that takes no notice of what they tell, hold and wait for. -/
class Aloof {α : Type} (view : Thread → α) : Prop where
  told (thread : Thread) (told : List Entry) : view { thread with told } = view thread
  waiting (thread : Thread) (waiting : Waiting) : view { thread with waiting } = view thread
  scratch (thread : Thread) (scratch : UInt32) : view { thread with scratch } = view thread
  job (thread : Thread) (job : Option Job) : view { thread with job } = view thread
  inbox (thread : Thread) (inbox : Option (List Step)) : view { thread with inbox } = view thread
  toldToEnd (thread : Thread) (toldToEnd : Bool) : view { thread with toldToEnd } = view thread
  /-- Callers come and go; the thread is over or it is not. -/
  callers (thread : Thread) (completion : Completion)
    (same : completion.done = thread.completion.done) :
    view { thread with completion } = view thread

/-- A view that does not even notice tokens. -/
class Blind {α : Type} (view : Thread → α) : Prop extends Aloof view where
  token (thread : Thread) (token : Token) : view { thread with token } = view thread

instance : Blind fun thread => thread.strand :=
  { told := fun _ _ => rfl, waiting := fun _ _ => rfl, token := fun _ _ => rfl
    scratch := fun _ _ => rfl, job := fun _ _ => rfl
    inbox := fun _ _ => rfl, toldToEnd := fun _ _ => rfl
    callers := fun _ _ _ => rfl }

namespace State

def strands (state : State) : Array (Strand Instruction Site) := state.threads.map (·.strand)

/-- Where the threads are, and the records that have a name. -/
def core (state : State) : Array (Strand Instruction Site) × List (String × ExceptionRecord) :=
  (state.strands, state.records)

/-- What a view sees of the threads, and the records that have a name. -/
def seen {α : Type} (view : Thread → α) (state : State) :
    Array α × List (String × ExceptionRecord) :=
  (state.threads.map view, state.records)

/-- A view that sees the same of two states sees the same of each thread. -/
theorem view_of_map {α : Type} {view : Thread → α} {before after : State}
    (same : after.threads.map view = before.threads.map view) (index : Nat) :
    view (after.thread index) = view (before.thread index) := by
  have read (state : State) : view (state.thread index) =
      (state.threads.map view).getD index (view {}) := by
    simp only [thread, Array.getD_eq_getD_getElem?, Array.getElem?_map]
    cases state.threads[index]? <;> rfl
  rw [read, read, same]

theorem view_of_seen {α : Type} {view : Thread → α} {before after : State}
    (same : after.seen view = before.seen view) (index : Nat) :
    view (after.thread index) = view (before.thread index) :=
  view_of_map (congrArg Prod.fst same) index

/-- Nor does a view notice threads that join behind the others and look like none. -/
theorem view_append {α : Type} {view : Thread → α} (state : State) {fresh : Array Thread}
    (blank : ∀ thread ∈ fresh, view thread = view {}) (index : Nat) :
    view (({ state with threads := state.threads ++ fresh } : State).thread index) =
      view (state.thread index) := by
  simp only [thread, Array.getD_eq_getD_getElem?]
  rcases Nat.lt_or_ge index state.threads.size with old | new
  · rw [Array.getElem?_append_left old]
  · rw [Array.getElem?_append_right new, Array.getElem?_eq_none new]
    cases joined : fresh[index - state.threads.size]? with
    | none => rfl
    | some thread => exact blank thread (Array.mem_of_getElem? joined)

theorem thread_updateThread (state : State) {me : Nat} (change : Thread → Thread)
    (known : me < state.threads.size) (index : Nat) :
    (state.updateThread me change).thread index =
      if index = me then change (state.thread me) else state.thread index := by
  simp only [thread, updateThread, Array.getD_eq_getD_getElem?, Array.getElem?_modify]
  split
  · next same =>
    subst same
    simp [known]
  · next different => rw [if_neg (Ne.symm different)]

/-- How the threads are when one of them has been asked for its token. -/
theorem thread_currentToken (state : State) {me : Nat} (known : me < state.threads.size)
    (index : Nat) : (state.currentToken me).2.thread index =
      if index = me then { state.thread me with token := (state.currentToken me).1 }
      else state.thread index :=
  thread_updateThread
    { state with machine := (state.machine.currentToken (state.thread me).token).2 }
    (fun thread => { thread with token := (state.currentToken me).1 }) known index

theorem updateThread_of_unknown (state : State) {me : Nat} (change : Thread → Thread)
    (unknown : ¬me < state.threads.size) :
    state.updateThread me change = state := by
  have same : state.threads.modify me change = state.threads := by
    refine Array.ext_getElem? fun position => ?_
    rw [Array.getElem?_modify]
    split
    · next here => simp [← here, Nat.le_of_not_lt unknown]
    · rfl
  simp only [updateThread, same]

/-! What only touches the process, the names or what a thread told leaves the core alone. -/

section
variable {α : Type} {view : Thread → α} [Aloof view] (state : State) (me : Nat)

omit [Aloof view] in
theorem seen_updateThread {state : State} {index : Nat} {change : Thread → Thread}
    (keeps : ∀ thread, view (change thread) = view thread) :
    (state.updateThread index change).seen view = state.seen view := by
  have same : (state.threads.modify index change).map view = state.threads.map view := by
    refine Array.ext (by simp) fun position _ _ => ?_
    simp only [Array.getElem_map, Array.getElem_modify]
    split
    · exact keeps _
    · rfl
  exact congrArg (·, state.records) same

omit [Aloof view] in
@[simp] theorem seen_setMachine (machine : Machine) :
    (state.setMachine machine).seen view = state.seen view := rfl

omit [Aloof view] in
@[simp] theorem seen_bind (name : String) (r : Ref) :
    (state.bind name r).seen view = state.seen view := rfl

omit [Aloof view] in
@[simp] theorem seen_keepObject (name : String) (r : Ref) :
    (state.keepObject name r).seen view = state.seen view := rfl

omit [Aloof view] in
@[simp] theorem seen_updateTally (nest : Nat) (change : NestTally → NestTally) :
    (state.updateTally nest change).seen view = state.seen view := rfl

@[simp] theorem seen_setWaiting (index : Nat) (waiting : Waiting) :
    (state.setWaiting index waiting).seen view = state.seen view :=
  seen_updateThread fun thread => Aloof.waiting thread waiting

@[simp] theorem seen_tellEntry (entry : Entry) :
    (state.tellEntry me entry).seen view = state.seen view :=
  seen_updateThread fun thread => Aloof.told thread (entry :: thread.told)

omit [Aloof view] in
theorem seen_foldl {ε : Type} (operation : State → ε → State)
    (keeps : ∀ state item, (operation state item).seen view = state.seen view) (items : List ε) :
    (items.foldl operation state).seen view = state.seen view := by
  induction items generalizing state with
  | nil => rfl
  | cons item rest ih => exact (ih _).trans (keeps state item)

@[simp] theorem seen_flushJournal : (state.flushJournal me).seen view = state.seen view :=
  seen_foldl _ _ (fun told record => seen_tellEntry told me (state.logEntry me record)) _

@[simp] theorem seen_tell (event : Event) : (state.tell me event).seen view = state.seen view := by
  simp only [tell, seen_tellEntry, seen_flushJournal]

@[simp] theorem seen_tellUnlessEnded (event : Event) :
    (state.tellUnlessEnded me event).seen view = state.seen view := by
  unfold tellUnlessEnded
  split <;> simp

omit [Aloof view] in
@[simp] theorem seen_currentToken [Blind view] :
    (state.currentToken me).2.seen view = state.seen view :=
  seen_updateThread fun thread => Blind.token thread _

/-- Who is asked for a token goes on waiting. -/
theorem waiting_currentToken (index : Nat) :
    ((state.currentToken me).2.thread index).waiting = (state.thread index).waiting := by
  have seen : (state.currentToken me).2.seen Thread.waiting = state.seen Thread.waiting :=
    @seen_updateThread _ Thread.waiting
      { state with machine := (state.machine.currentToken (state.thread me).token).2 } _ _
      fun _ => rfl
  exact view_of_seen seen index

omit [Aloof view] in
@[simp] theorem seen_askToken [Blind view] (label : String) :
    (state.askToken me label).seen view = state.seen view :=
  (seen_setMachine ..).trans (seen_currentToken state me)

omit [Aloof view] in
@[simp] theorem seen_tokenToWord [Blind view] (worded : Bool) :
    (state.tokenToWord me worded).2.seen view = state.seen view :=
  seen_updateThread fun thread => Blind.token thread _

omit [Aloof view] in
theorem seen_nameAs (token : Token) (name : String)
    (keeps : ∀ thread ownName, view { thread with ownName } = view thread) :
    (state.nameAs me token name).seen view = state.seen view :=
  (seen_setMachine ..).trans (seen_updateThread fun thread => keeps thread (some name))

omit [Aloof view] in
/-- A view that does not notice names either sees nothing of a thread that is named. -/
theorem seen_setOwnName [Blind view] (name : String)
    (keeps : ∀ thread ownName, view { thread with ownName } = view thread) :
    (state.setOwnName me name).2.seen view = state.seen view := by
  unfold setOwnName
  split
  · rfl
  · exact (seen_nameAs _ me _ name keeps).trans (seen_tokenToWord ..)

/-! Steps on memory. -/

@[simp] theorem seen_makeTable (name : String) (methods : List MethodName)
    (interfaces : List Dispatch.InterfaceEntry) :
    (state.makeTable me name methods interfaces).seen view = state.seen view := by
  unfold makeTable
  dsimp only
  split
  · simp
  · simp
  · exact seen_tell ..

@[simp] theorem seen_allocated (verb name : String) (event : Ref → State → Event)
    (outcome : Except Trap Ref × Machine) :
    (state.allocated me verb name event outcome).seen view = state.seen view := by
  unfold allocated
  split <;> simp

@[simp] theorem seen_allocatedOrTrapped (name : String) (event : Ref → State → Event)
    (outcome : Option Ref × Machine) :
    (state.allocatedOrTrapped me name event outcome).seen view = state.seen view := by
  unfold allocatedOrTrapped
  split <;> simp

theorem seen_makeObjectAs (token : Token) (name : String) (size : UInt64) (table : Option String)
    (route : Route) :
    (state.makeObjectAs me token name size table route).seen view = state.seen view := by
  unfold makeObjectAs
  cases route <;> simp

@[simp] theorem seen_makeObject (name : String) (size : UInt64) (table : Option String)
    (route : Route) :
    (state.makeObject me name size table route).seen view = (state.currentToken me).2.seen view :=
  seen_makeObjectAs ..

@[simp] theorem seen_makeArray (name : String) (length : UInt32) (width : UInt64) (route : Route) :
    (state.makeArray me name length width route).seen view = state.seen view := by
  unfold makeArray
  cases route <;> simp

@[simp] theorem seen_tellArrayTable : (state.tellArrayTable me).seen view = state.seen view := by
  unfold tellArrayTable
  split <;> simp

@[simp] theorem seen_setArrayTable (table : Option String) (route : Route) :
    (state.setArrayTable me table route).seen view = state.seen view := by
  simp [setArrayTable]

@[simp] theorem seen_writeBytes (r : Ref) (position : Nat) (bytes : List UInt8) :
    (state.writeBytes me r position bytes).seen view = state.seen view := by
  simp [writeBytes]

@[simp] theorem seen_arrayInfo (r : Ref) (route : Route) :
    (state.arrayInfo me r route).seen view = state.seen view := by
  simp [arrayInfo]

@[simp] theorem seen_copyArray (source : Ref) (sourceStart : Int) (destination : Ref)
    (destinationStart count : Int) (route : Route) :
    (state.copyArray me source sourceStart destination destinationStart count route).seen view =
      state.seen view := by
  cases route with
  | direct =>
    simp only [copyArray]
    split <;> simp
  | entryPoint | stub => simp [copyArray]

@[simp] theorem seen_vtableLookup (r : Ref) (index : Nat) (route : Route) :
    (state.vtableLookup me r index route).seen view = state.seen view := by
  simp [vtableLookup]

@[simp] theorem seen_itableLookup (r : Ref) (interface : UInt64) (index : Nat) (route : Route) :
    (state.itableLookup me r interface index route).seen view = state.seen view := by
  cases route <;> simp [itableLookup]

@[simp] theorem seen_makeString (name : String) (bytes : Option (List UInt8)) (copied : Bool) :
    (state.makeString me name bytes copied).seen view = state.seen view := by
  cases bytes <;> simp [makeString]

@[simp] theorem seen_println (r : Ref) : (state.println me r).seen view = state.seen view := by
  unfold println
  dsimp only
  split <;> simp

@[simp] theorem seen_marshal (name : String) (arguments : List (List UInt8)) (count : Nat) :
    (state.marshal me name arguments count).seen view = state.seen view := by
  unfold marshal
  split <;> simp

@[simp] theorem seen_bindArgument (r : Ref) (index : Nat) (name : String) :
    (state.bindArgument me r index name).seen view = state.seen view := by
  simp [bindArgument]

/-! Steps that run compiled methods and use monitors. -/

@[simp] theorem seen_loadField (r : Ref) : (state.loadField me r).seen view = state.seen view :=
  seen_updateThread fun thread => Aloof.scratch thread _

omit [Aloof view] in
@[simp] theorem seen_storeField (r : Ref) :
    (state.storeField me r).seen view = state.seen view := rfl

theorem seen_settleMonitor (object : UInt64) (token : Token) (deadline : Option Nat)
    (counts : Counts) (finish : State → State)
    (keeps : ∀ state, (finish state).seen view = state.seen view) :
    (state.settleMonitor me object token deadline counts finish).2.2.seen view =
      state.seen view := by
  unfold settleMonitor
  split
  · exact seen_flushJournal ..
  · split <;> simp [keeps]

theorem seen_useMonitorAs (token : Token) (r : Ref) (verb : MonitorVerb) (route : Route)
    (counts : Counts) (finish : State → State)
    (keeps : ∀ state, (finish state).seen view = state.seen view) :
    (state.useMonitorAs me token r verb route counts finish).2.2.seen view = state.seen view := by
  unfold useMonitorAs resumeMonitor
  dsimp only
  split
  · exact seen_settleMonitor _ _ _ _ _ _ _ keeps
  · exact seen_settleMonitor _ _ _ _ _ _ _ keeps

theorem seen_useMonitor (r : Ref) (verb : MonitorVerb) (route : Route) (counts : Counts)
    (finish : Token → State → State)
    (keeps : ∀ token state, (finish token state).seen view = state.seen view) :
    (state.useMonitor me r verb route counts finish).2.2.seen view =
      (state.currentToken me).2.seen view :=
  seen_useMonitorAs _ _ _ _ _ _ _ _ (keeps _)

@[simp] theorem seen_throwReply (r : Ref) (route : Route) (height : Nat) (counts : Counts) :
    (state.throwReply me r route height counts).2.2.seen view = state.seen view := by
  simp [throwReply_eq]

@[simp] theorem seen_invoke (r : Ref) (interface : Option UInt64) (index : Nat) (announced : Bool)
    (height : Nat) (counts : Counts) :
    (state.invoke me r interface index announced height counts).2.2.seen view =
      state.seen view := by
  unfold invoke
  dsimp only
  split
  · split <;> simp
  · exact seen_setMachine ..
  · simp
  · simp
  · split <;> split <;> simp
  · split <;> simp

/-! Steps on exceptions, programs and settings. -/

@[simp] theorem seen_enterProgram (name : Option String) (counts : Counts) :
    (state.enterProgram me name counts).seen view = state.seen view := by
  cases name <;> simp [enterProgram]

@[simp] theorem seen_started (route : Route) :
    (state.started me route).seen view = state.seen view := by
  simp [started_eq]

@[simp] theorem seen_setConfig (settings : Settings) :
    (state.setConfig me settings).seen view = state.seen view := by
  unfold setConfig
  split <;> simp

@[simp] theorem seen_tellConfig : (state.tellConfig me).seen view = state.seen view := by
  simp [tellConfig]

omit [Aloof view] in
@[simp] theorem seen_unimplemented (symbol : String) :
    (state.unimplemented symbol).seen view = state.seen view := by
  unfold unimplemented
  split <;> rfl

@[simp] theorem seen_compareTokens : (state.compareTokens me).seen view =
    ((state.currentToken me).2.currentToken me).2.seen view := by
  simp [compareTokens]

/-! Steps that give threads work and wait for them. -/

@[simp] theorem seen_tellToEnd (index : Nat) :
    (state.tellToEnd index).seen view = state.seen view :=
  seen_updateThread fun thread => Aloof.toldToEnd thread true

@[simp] theorem seen_jobDone : (state.jobDone me).seen view = state.seen view :=
  seen_updateThread fun thread => Aloof.job thread _

@[simp] theorem seen_dropJob (index : Nat) : (state.dropJob index).seen view = state.seen view :=
  seen_updateThread fun thread =>
    (Aloof.told { thread with job := none } []).trans (Aloof.job thread none)

@[simp] theorem seen_collectJob (index : Nat) :
    (state.collectJob me index).seen view = state.seen view :=
  (seen_foldl _ _ (fun told entry => seen_tellEntry told me entry) _).trans (seen_dropJob ..)

@[simp] theorem seen_jobOutcome (index : Nat) (label verb : String) :
    (state.jobOutcome me index label verb).seen view = state.seen view := by
  unfold jobOutcome
  split
  · simp
  · split <;> simp

@[simp] theorem seen_assign (label verb : String) (patience : Nat) (steps : List Step)
    (counts : Counts) :
    (state.assign me label verb patience steps counts).2.2.seen view = state.seen view := by
  unfold assign
  split
  · rfl
  · split
    · simp
    · rw [seen_setWaiting]
      exact seen_updateThread fun thread =>
        (Aloof.inbox { thread with job := some { verb } } (some steps)).trans (Aloof.job thread _)

@[simp] theorem seen_await (label : String) (counts : Counts) :
    (state.await me label counts).2.2.seen view = state.seen view := by
  unfold await
  split
  · rfl
  · split <;> simp

@[simp] theorem seen_awaitFinished (count : Nat) (counts : Counts) :
    (state.awaitFinished me count counts).2.2.seen view = state.seen view := by
  unfold awaitFinished
  split <;> simp

@[simp] theorem seen_collectFinished : (state.collectFinished me).seen view = state.seen view :=
  (seen_tellEntry ..).trans (seen_foldl _ _ seen_dropJob _)

@[simp] theorem seen_settle (milliseconds : Nat) (counts : Counts) :
    (state.settle me milliseconds counts).2.2.seen view = state.seen view := by
  unfold settle
  split <;> simp

@[simp] theorem seen_still (label : String) :
    (state.still me label).seen view = state.seen view := by
  unfold still
  split
  · rfl
  · split <;> simp

theorem seen_continueJoin (index : Nat) (deadline : Option Nat) (counts : Counts)
    (finish : Bool → State → State)
    (keeps : ∀ ended state, (finish ended state).seen view = state.seen view) :
    (state.continueJoin me index deadline counts finish).2.2.seen view = state.seen view := by
  unfold continueJoin
  split
  · rw [keeps, seen_setWaiting]
    exact seen_updateThread fun thread => Aloof.callers thread _ (by simp)
  · simp

theorem seen_joinThread (label : String) (limit : Option Nat) (counts : Counts)
    (finish : Bool → State → State)
    (keeps : ∀ ended state, (finish ended state).seen view = state.seen view) :
    (state.joinThread me label limit counts finish).2.2.seen view = state.seen view := by
  unfold joinThread
  split
  · rfl
  · split
    · rw [seen_continueJoin _ _ _ _ _ _ keeps]
      exact seen_updateThread fun thread => Aloof.callers thread _ (by split <;> simp)
    · rw [seen_continueJoin _ _ _ _ _ _ keeps]
      exact seen_updateThread fun thread => Aloof.callers thread _ (by split <;> simp)

@[simp] theorem seen_tellAllToEnd (label : String) :
    (((state.indexOf? label).map state.tellToEnd).getD state).seen view = state.seen view := by
  cases state.indexOf? label <;> simp

@[simp] theorem seen_join (label : String) (counts : Counts) :
    (state.join me label counts).2.2.seen view = state.seen view := by
  unfold join
  rw [seen_joinThread _ _ _ _ _ _ fun _ state => seen_tell state me _, seen_tellAllToEnd]

@[simp] theorem seen_joinTimeout (label : String) (milliseconds : Nat) (counts : Counts) :
    (state.joinTimeout me label milliseconds counts).2.2.seen view = state.seen view := by
  unfold joinTimeout
  rw [seen_joinThread _ _ _ _ _ _ fun _ state => seen_tell state me _]

@[simp] theorem seen_joinMany (label : String) (threads : Nat) (limit : Option Nat)
    (counts : Counts) : (state.joinMany me label threads limit counts).2.2.seen view =
      state.seen view := by
  unfold joinMany
  split
  · rfl
  · split <;> simp

@[simp] theorem seen_finish (label : String) :
    (state.finish me label).seen view = state.seen view := by
  simp [finish]

@[simp] theorem seen_nextJob (counts : Counts) :
    (state.nextJob me counts).2.2.seen view = state.seen view := by
  unfold nextJob
  dsimp only
  split
  · simp
  · split
    · exact seen_updateThread fun thread =>
        (Aloof.waiting { thread with inbox := none } .ready).trans (Aloof.inbox thread none)
    · simp

theorem seen_regionLeft (counts : Counts) (site : Site) (caught : Option Ref) :
    (state.regionLeft me counts site caught).seen view = state.seen view := by
  unfold regionLeft
  cases site with
  | attempt route name ignore =>
    cases route with
    | entryPoint => dsimp only; split <;> simp
    | direct | stub => dsimp only; split <;> simp
  | level nest => cases caught <;> rfl
  | guarded | intercept | outermost | entry | threadBottom | levelFrame => rfl

/-- Signals never reach the core. -/
theorem seen_hear (counts : Counts) (signal : Signal Site) :
    ((host me).signal counts signal state).seen view = state.seen view := by
  cases signal with
  | regionLeft => exact seen_regionLeft ..
  | cleaning site | outermostLeft site =>
    simp only [host, hear]
    split <;> simp
  | _ => simp [host, hear]

@[simp] theorem seen_done (counts : Counts) :
    (done me counts state).2.2.seen view = state.seen view :=
  seen_flushJournal ..

/-! The core in particular, which does not see names and ends either. -/

@[simp] theorem core_setMachine (machine : Machine) :
    (state.setMachine machine).core = state.core := rfl

@[simp] theorem core_flushJournal : (state.flushJournal me).core = state.core :=
  @seen_flushJournal _ (·.strand) _ state me

@[simp] theorem core_tell (event : Event) : (state.tell me event).core = state.core :=
  @seen_tell _ (·.strand) _ state me event

theorem core_currentToken : (state.currentToken me).2.core = state.core :=
  @seen_currentToken _ (·.strand) state me _

theorem core_updateThread {state : State} {index : Nat} {change : Thread → Thread}
    (keeps : ∀ thread, (change thread).strand = thread.strand) :
    (state.updateThread index change).core = state.core :=
  seen_updateThread keeps

theorem core_setOwnName (name : String) : (state.setOwnName me name).2.core = state.core :=
  @seen_setOwnName _ (·.strand) state me _ name fun _ _ => rfl

theorem size_setOwnName (name : String) :
    (state.setOwnName me name).2.threads.size = state.threads.size := by
  have sizes := congrArg (·.1.size) (core_setOwnName state me name)
  simpa only [core, strands, Array.size_map] using sizes

theorem core_setName (name : String) : (state.setName me name).core = state.core :=
  (core_tell ..).trans (core_setOwnName ..)

theorem core_startUp (arguments : List (List UInt8)) (count : Nat) :
    (state.startUp me arguments count).2.core = state.core := by
  obtain ⟨r, -, taken⟩ := (state.namedMain me count).takeArguments_eq me arguments count
  rw [startUp_snd, taken, core_flushJournal]
  refine (core_updateThread ?_).trans (core_setOwnName (state.setMachine _) me "main")
  exact fun _ => rfl

theorem core_leaveThread : (state.leaveThread me).core = state.core :=
  core_updateThread fun _ => rfl

theorem core_hear (counts : Counts) (signal : Signal Site) :
    ((host me).signal counts signal state).core = state.core :=
  @seen_hear _ (·.strand) _ state me counts signal

theorem core_done (counts : Counts) : (done me counts state).2.2.core = state.core :=
  core_flushJournal ..

/-! Steps that do change the core: they keep or take records, or start threads. -/

/-- A thread as it is started, with no name of its own and no token. -/
def freshThread (label : String) (name : Option String) (managed : Bool) : Thread :=
  { label := some label, systemName := name,
    strand := { control := .run (threadProgram managed) } }

def withThread (label : String) (name : Option String) (managed : Bool) : State :=
  { state.flushJournal me with threads := state.threads.push (freshThread label name managed) }

/-- A thread that was started has its own name before anything else happens to it, if it is
managed. -/
def nameStarted (index : Nat) (managed : Bool) (name : Option String) : State :=
  match managed, name with
  | true, some name => (state.setOwnName index name).2
  | _, _ => state

omit [Aloof view] in
theorem seen_takeRecord (name : String) :
    (state.takeRecord name).2.seen view =
      (state.threads.map view, state.records.filter (·.1 != name)) := rfl

theorem seen_releaseRecord (name : String) (counts : Counts) :
    (state.releaseRecord me name counts).2.seen view =
      (state.threads.map view, state.records.filter (·.1 != name)) := by
  unfold releaseRecord takeRecord
  cases state.records.lookup name with
  | none => rfl
  | some record => exact seen_tell ..

theorem seen_capture (name : String) (r : Ref) (depth : UInt64) (height : Nat) (counts : Counts) :
    (state.capture me name r depth height counts).2.seen view =
      (state.threads.map view, (name, .capture r depth (stackOf height)) ::
        state.records.filter (·.1 != name)) := by
  have kept (told : State) (same : told.seen view = state.seen view) :
      ({ told with records := (name, .capture r depth (stackOf height)) ::
          told.records.filter (·.1 != name) } : State).seen view =
        (state.threads.map view, (name, .capture r depth (stackOf height)) ::
          state.records.filter (·.1 != name)) := by
    obtain ⟨threads, records⟩ := Prod.mk.inj same
    refine Prod.ext threads ?_
    exact congrArg (fun records => (name, _) :: records.filter (·.1 != name)) records
  unfold capture
  dsimp only
  split
  · exact kept _ (by split <;> simp)
  · rw [seen_flushJournal, seen_setMachine]
    exact kept _ (by split <;> simp)

/-- The helpers are started once, by the first try. -/
theorem seen_stress (r : Ref) (index threads times : Nat) (counts : Counts) : ∃ started,
    (state.stress me r index threads times counts).2.2.seen view =
      (state.threads.map view ++ Array.replicate started (view (stressThread r index times)),
        state.records) := by
  unfold stress
  split
  · refine ⟨0, ?_⟩
    rw [Array.replicate_zero, Array.append_empty]
    simp only [seen_tell, seen_setWaiting]
    rfl
  · refine ⟨threads, ?_⟩
    rw [seen_setWaiting]
    refine Prod.ext ?_ rfl
    simp [seen]

/-- The threads that put stress on an object are no more than threads to a view that sees nothing of
their programs. -/
theorem view_stress (r : Ref) (position threads times : Nat) (counts : Counts)
    (blank : view (stressThread r position times) = view {}) (index : Nat) :
    view ((state.stress me r position threads times counts).2.2.thread index) =
      view (state.thread index) := by
  unfold stress
  split
  · refine @view_of_seen _ view _ _ ?_ index
    simp only [seen_tell, seen_setWaiting]
  · refine (@view_of_seen _ view _ _ (seen_setWaiting ..) index).trans ?_
    refine view_append state (fun thread member => ?_) index
    rw [(Array.mem_replicate.mp member).2]
    exact blank

omit [Aloof view] in
theorem view_withThread (label : String) (name : Option String) (managed : Bool)
    (blank : view (freshThread label name managed) = view {}) (index : Nat) :
    view ((state.withThread me label name managed).thread index) = view (state.thread index) := by
  have joined := @view_append _ view state #[freshThread label name managed]
    (fun thread member => Array.mem_singleton.mp member ▸ blank) index
  exact joined

omit [Aloof view] in
theorem seen_spawn [Blind view] (label : String) (name : Option String) (managed asked : Bool) :
    (state.spawn me label name managed asked).seen view =
      ((state.withThread me label name managed).nameStarted state.threads.size managed name).seen
        view := by
  refine (seen_tell ..).trans ((seen_flushJournal ..).trans ?_)
  cases asked with
  | true => exact seen_askToken ..
  | false => rfl

theorem core_takeRecord (name : String) :
    (state.takeRecord name).2.core = (state.strands, state.records.filter (·.1 != name)) := rfl

theorem core_releaseRecord (name : String) (counts : Counts) :
    (state.releaseRecord me name counts).2.core =
      (state.strands, state.records.filter (·.1 != name)) :=
  @seen_releaseRecord _ (·.strand) _ state me name counts

theorem core_capture (name : String) (r : Ref) (depth : UInt64) (height : Nat) (counts : Counts) :
    (state.capture me name r depth height counts).2.core =
      (state.strands, (name, .capture r depth (stackOf height)) ::
        state.records.filter (·.1 != name)) :=
  @seen_capture _ (·.strand) _ state me name r depth height counts

theorem core_stress (r : Ref) (index threads times : Nat) (counts : Counts) : ∃ started,
    (state.stress me r index threads times counts).2.2.core =
      (state.strands ++ Array.replicate started (stressThread r index times).strand,
        state.records) :=
  @seen_stress _ (·.strand) _ state me r index threads times counts

theorem core_withThread (label : String) (name : Option String) (managed : Bool) :
    (state.withThread me label name managed).core =
      (state.strands.push { control := .run (threadProgram managed) }, state.records) := by
  have records : (state.flushJournal me).records = state.records :=
    congrArg Prod.snd (core_flushJournal state me)
  exact Prod.ext Array.map_push records

theorem core_spawn (label : String) (name : Option String) (managed asked : Bool) :
    (state.spawn me label name managed asked).core =
      (state.strands.push { control := .run (threadProgram managed) }, state.records) := by
  have joined := core_withThread state me label name managed
  refine (@seen_spawn _ (·.strand) state me _ label name managed asked).trans ?_
  unfold nameStarted
  split
  · exact (core_setOwnName ..).trans joined
  · exact joined

end

end State

def Instruction.startsThreads : Instruction → Bool
  | .spawn _ _ _ _ | .stress _ _ _ _ => true
  | _ => false

/-- Gives its thread a name or brings it to its end. -/
def Instruction.marksThread : Instruction → Bool
  | .start _ _ _ _ _ | .setName _ | .leaveThread => true
  | _ => false

/-- Asks its thread for its token. -/
def Instruction.asksToken : Instruction → Bool
  | .object _ _ _ _ | .monitor _ _ _ _ | .lock _ | .unlock _ | .token => true
  | _ => false

namespace State

/-- Instructions that do nothing about tokens, names and records leave all of that alone that a view
sees of threads. -/
theorem seen_perform_of_silent {α : Type} {view : Thread → α} [Aloof view]
    (state : State) (me : Nat)
    (counts : Counts) (height : Nat) {instruction : Instruction}
    (untouched : instruction.touches = []) (alone : instruction.startsThreads = false)
    (nameless : instruction.marksThread = false) (silent : instruction.asksToken = false) :
    ((host me).perform counts height instruction state).2.2.seen view = state.seen view := by
  cases instruction with
  | capture | release | raiseCaptured => contradiction
  | spawn | stress => contradiction
  | start | setName | leaveThread => contradiction
  | object | monitor | lock | unlock | token => contradiction
  | abstract route => cases route <;> simp [host, perform]
  | foreign | raise => rfl
  | _ => simp [host, perform, readBytes, stats, tellArguments]

/-- Tokens make no difference to a blind view. -/
theorem seen_perform {α : Type} {view : Thread → α} [Blind view] (state : State) (me : Nat)
    (counts : Counts) (height : Nat) {instruction : Instruction}
    (untouched : instruction.touches = []) (alone : instruction.startsThreads = false)
    (nameless : instruction.marksThread = false) :
    ((host me).perform counts height instruction state).2.2.seen view = state.seen view := by
  have asked {after : State} (same : after.seen view = (state.currentToken me).2.seen view) :
      after.seen view = state.seen view :=
    same.trans (seen_currentToken ..)
  cases instruction with
  | capture | release | raiseCaptured => contradiction
  | spawn | stress => contradiction
  | start | setName | leaveThread => contradiction
  | monitor verb name route quiet =>
    simp only [host, perform, monitorStep]
    exact asked (seen_useMonitor state me _ verb route counts _ fun _ later => seen_tell later me _)
  | lock r =>
    simp only [host, perform]
    exact asked (seen_useMonitor state me r .enter .entryPoint counts _ fun _ _ => rfl)
  | unlock r =>
    simp only [host, perform]
    exact asked (seen_useMonitor state me r .exit .entryPoint counts _ fun _ _ => rfl)
  | object name size table route =>
    exact asked ((seen_done _ me counts).trans (seen_makeObject state me name size table route))
  | token =>
    refine asked ((seen_done _ me counts).trans ?_)
    exact (seen_compareTokens state me).trans (seen_currentToken ..)
  | _ => exact seen_perform_of_silent state me counts height rfl rfl rfl rfl

/-- The same of instructions that keep and take records. -/
theorem map_perform {α : Type} {view : Thread → α} [Blind view] (state : State) (me : Nat)
    (counts : Counts) (height : Nat) {instruction : Instruction}
    (alone : instruction.startsThreads = false) (nameless : instruction.marksThread = false) :
    ((host me).perform counts height instruction state).2.2.threads.map view =
      state.threads.map view := by
  by_cases untouched : instruction.touches = []
  · exact congrArg Prod.fst (seen_perform state me counts height untouched alone nameless)
  cases instruction with
  | capture name reference depth =>
    have seen : _ = (state.threads.map view, _) :=
      seen_capture state me name (state.reference reference) depth height counts
    exact congrArg Prod.fst ((seen_flushJournal _ me).trans seen)
  | release name =>
    have seen : _ = (state.threads.map view, _) := seen_releaseRecord state me name counts
    exact congrArg Prod.fst ((seen_flushJournal _ me).trans seen)
  | raiseCaptured name =>
    simp only [host, perform]
    split
    · next taken => exact congrArg Prod.fst (taken ▸ seen_takeRecord state name)
    · next taken => exact congrArg Prod.fst (taken ▸ seen_takeRecord state name)
  | _ => exact absurd rfl untouched

theorem core_perform (state : State) (me : Nat) (counts : Counts) (height : Nat)
    {instruction : Instruction} (untouched : instruction.touches = [])
    (alone : instruction.startsThreads = false) :
    ((host me).perform counts height instruction state).2.2.core = state.core := by
  cases instruction with
  | capture | release | raiseCaptured => contradiction
  | spawn | stress => contradiction
  | start arguments count =>
    simp only [host, perform, startProgram_eq]
    exact core_startUp state me arguments count
  | setName name => exact (core_flushJournal ..).trans (core_setName state me name)
  | leaveThread => exact (core_flushJournal ..).trans (core_leaveThread state me)
  | _ => exact @seen_perform _ (·.strand) _ state me counts height _ rfl rfl rfl

/-- Instructions that start no threads leave all of them where they are. -/
theorem strands_perform (state : State) (me : Nat) (counts : Counts) (height : Nat)
    {instruction : Instruction} (alone : instruction.startsThreads = false) :
    ((host me).perform counts height instruction state).2.2.strands = state.strands := by
  by_cases untouched : instruction.touches = []
  · exact congrArg Prod.fst (core_perform state me counts height untouched alone)
  · refine map_perform state me counts height alone ?_
    cases instruction with
    | capture | release | raiseCaptured => rfl
    | _ => exact absurd rfl untouched

theorem records_perform (state : State) (me : Nat) (counts : Counts) (height : Nat)
    {instruction : Instruction} (untouched : instruction.touches = []) :
    ((host me).perform counts height instruction state).2.2.records = state.records := by
  cases instruction with
  | capture | release | raiseCaptured => contradiction
  | spawn label name managed asked =>
    have core := core_spawn state me label name managed asked
    exact congrArg Prod.snd ((core_flushJournal _ me).trans core)
  | stress name index threads times =>
    obtain ⟨started, core⟩ :=
      core_stress state me (state.reference name) index threads times counts
    exact congrArg Prod.snd core
  | _ => exact congrArg Prod.snd (core_perform state me counts height rfl rfl)

/-- What an instruction can do to the records with a name. -/
theorem records_perform_cases (state : State) (me : Nat) (counts : Counts) (height : Nat)
    (instruction : Instruction) :
    ((host me).perform counts height instruction state).2.2.records = state.records ∨
      ∃ name ∈ instruction.touches,
        ((host me).perform counts height instruction state).2.2.records =
            state.records.filter (·.1 != name) ∨
        ∃ record, ((host me).perform counts height instruction state).2.2.records =
            (name, record) :: state.records.filter (·.1 != name) := by
  by_cases untouched : instruction.touches = []
  · exact .inl (records_perform state me counts height untouched)
  cases instruction with
  | capture name reference depth =>
    have core := core_capture state me name (state.reference reference) depth height counts
    exact .inr ⟨name, List.mem_cons_self, .inr ⟨_, congrArg Prod.snd
      ((core_flushJournal _ me).trans core)⟩⟩
  | release name =>
    have core := core_releaseRecord state me name counts
    exact .inr ⟨name, List.mem_cons_self, .inl (congrArg Prod.snd
      ((core_flushJournal _ me).trans core))⟩
  | raiseCaptured name =>
    refine .inr ⟨name, List.mem_cons_self, .inl ?_⟩
    simp only [host, perform]
    split
    · next taken => exact congrArg Prod.snd (taken ▸ core_takeRecord state name)
    · next taken => exact congrArg Prod.snd (taken ▸ core_takeRecord state name)
  | _ => exact absurd rfl untouched

end State
end ManagedRuntime.Scenario
