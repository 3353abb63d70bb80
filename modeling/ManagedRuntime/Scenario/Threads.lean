import ManagedRuntime.Scenario.Calls

/-! Steps that start threads, give them work and wait for them. -/
namespace ManagedRuntime.Scenario.State
open Exception

/-- What a thread runs: one job after the other until it is told to end. Managed threads do so
above a bottom frame. -/
def threadProgram (managed : Bool) : List Step :=
  (if managed then [.outermost .threadBottom [.act .nextJob]] else [.act .nextJob]) ++
    [.act .leaveThread]

/-- Starts a thread. A managed one names itself before it can be given work; what that logs is in
its own account. Who starts a thread may ask it for its token before going on. -/
def spawn (state : State) (me : Nat) (label : String) (name : Option String)
    (managed asked : Bool) : State :=
  let index := state.threads.size
  let fresh : Thread :=
    { label := some label, systemName := name,
      strand := { control := .run (threadProgram managed) } }
  let state := { state.flushJournal me with threads := state.threads.push fresh }
  let state := match managed, name with
    | true, some name => (state.setOwnName index name).2
    | _, _ => state
  let state := if asked then state.askToken index label else state
  (state.flushJournal index).tell me (.labelled "spawn" label)

/-- Takes up the work that is waiting, unless the thread has been told to end. -/
def nextJob (state : State) (me : Nat) (counts : Counts) :
    Reply Instruction Site × Counts × State :=
  let thread := state.thread me
  if thread.toldToEnd then (.done, counts, state.setWaiting me .ready)
  else
    match thread.inbox with
    | some steps =>
      (.run (steps ++ [.act .jobDone, .act .nextJob]), counts,
        state.updateThread me fun thread => { thread with inbox := none, waiting := .ready })
    | none => (.pending, counts, state.setWaiting me .forWork)

def jobDone (state : State) (me : Nat) : State :=
  state.updateThread me fun thread =>
    { thread with job := thread.job.map fun job => { job with finished := true } }

def leaveThread (state : State) (me : Nat) : State :=
  state.updateThread me fun thread => { thread with completion := thread.completion.finish }

def tellToEnd (state : State) (index : Nat) : State :=
  state.updateThread index fun thread => { thread with toldToEnd := true }

def isFinished (state : State) (index : Nat) : Bool :=
  ((state.thread index).job.map (·.finished)).getD false

def hasDied (state : State) (index : Nat) : Bool :=
  match (state.thread index).strand.control with
  | .died _ => true
  | _ => false

def isGone (state : State) (index : Nat) : Bool := (state.thread index).completion.isGone

/-- Whether the thread takes no work any more. -/
def isOut (state : State) (index : Nat) : Bool := state.hasDied index || state.isGone index

/-- Forgets a thread's job and its account. -/
def dropJob (state : State) (index : Nat) : State :=
  state.updateThread index fun thread => { thread with job := none, told := [] }

/-- Moves the account of a thread to that of the thread that asked for its job. -/
def collectJob (state : State) (me index : Nat) : State :=
  let told := (state.thread index).told
  told.reverse.foldl (fun state entry => state.tellEntry me entry) (state.dropJob index)

/-- The outcome of a wait for another thread's job. -/
def jobOutcome (state : State) (me index : Nat) (label verb : String) : State :=
  if state.isFinished index then state.collectJob me index
  else if state.isOut index then (state.dropJob index).tellEntry me ⟨none, .died verb label⟩
  else state.tellEntry me ⟨none, .blocked verb label⟩

def assign (state : State) (me : Nat) (label verb : String) (patience : Nat) (steps : List Step)
    (counts : Counts) : Reply Instruction Site × Counts × State :=
  match state.indexOf? label with
  | none => (.done, counts, state)
  | some index =>
    match (state.thread me).waiting with
    | .forJob _ _ => (.done, counts, (state.setWaiting me .ready).jobOutcome me index label verb)
    | _ =>
      let given := state.updateThread index fun thread =>
        { thread with job := some { verb }, inbox := some steps }
      (.pending, counts, given.setWaiting me (.forJob index (some (state.clock + patience))))

/-- Waits for a job that was blocked. -/
def await (state : State) (me : Nat) (label : String) (counts : Counts) :
    Reply Instruction Site × Counts × State :=
  match state.indexOf? label with
  | none => (.done, counts, state)
  | some index =>
    match (state.thread me).waiting with
    | .forJob _ _ =>
      let verb := ((state.thread index).job.map (·.verb)).getD ""
      let told := (state.setWaiting me .ready).tellEntry me ⟨none, .resumed label⟩
      (.done, counts, told.jobOutcome me index label verb)
    | _ => (.pending, counts, state.setWaiting me (.forJob index none))

def finishedJobs (state : State) : List Nat :=
  (List.range state.threads.size).filter state.isFinished

def awaitFinished (state : State) (me count : Nat) (counts : Counts) :
    Reply Instruction Site × Counts × State :=
  if count ≤ state.finishedJobs.length then (.done, counts, state.setWaiting me .ready)
  else (.pending, counts, state.setWaiting me (.forFinished count))

/-- Counts the finished jobs and forgets what they told. -/
def collectFinished (state : State) (me : Nat) : State :=
  let finished := state.finishedJobs
  (finished.foldl dropJob state).tellEntry me ⟨none, .resumedCount finished.length⟩

def settle (state : State) (me milliseconds : Nat) (counts : Counts) :
    Reply Instruction Site × Counts × State :=
  match (state.thread me).waiting with
  | .untilTime _ => (.done, counts, state.setWaiting me .ready)
  | _ => (.pending, counts, state.setWaiting me (.untilTime (state.clock + milliseconds)))

def still (state : State) (me : Nat) (label : String) : State :=
  match state.indexOf? label with
  | none => state
  | some index =>
    if state.isFinished index then state else state.tellEntry me ⟨none, .stillBlocked label⟩

/-- Goes on with joining a thread until the caller has its answer. -/
def continueJoin (state : State) (me index : Nat) (deadline : Option Nat) (counts : Counts)
    (finish : Bool → State → State) : Reply Instruction Site × Counts × State :=
  match (state.thread index).completion.caller me with
  | .answered ended =>
    let forgotten := state.updateThread index fun thread =>
      { thread with completion := thread.completion.setCaller me .idle }
    (.done, counts, finish ended (forgotten.setWaiting me .ready))
  | _ => (.pending, counts, state.setWaiting me (.inJoin index deadline))

/-- Joins a thread, with a time limit if `limit` gives one. -/
def joinThread (state : State) (me : Nat) (label : String) (limit : Option Nat) (counts : Counts)
    (finish : Bool → State → State) : Reply Instruction Site × Counts × State :=
  match state.indexOf? label with
  | none => (.done, counts, state)
  | some index =>
    match (state.thread me).waiting with
    | .inJoin _ deadline =>
      let expired := deadline.any (· ≤ state.clock)
      let resumed := state.updateThread index fun thread =>
        let completion := if expired then thread.completion.expire me else thread.completion
        { thread with completion := completion.advanceCaller me 4 }
      resumed.continueJoin me index deadline counts finish
    | _ =>
      let begun := state.updateThread index fun thread =>
        { thread with completion := match limit with
            | none => thread.completion.join me
            | some _ => thread.completion.joinTimed me }
      begun.continueJoin me index (limit.map (state.clock + ·)) counts finish

def join (state : State) (me : Nat) (label : String) (counts : Counts) :
    Reply Instruction Site × Counts × State :=
  let told := ((state.indexOf? label).map state.tellToEnd).getD state
  told.joinThread me label none counts fun _ state => state.tell me (.labelled "join" label)

def joinTimeout (state : State) (me : Nat) (label : String) (milliseconds : Nat) (counts : Counts) :
    Reply Instruction Site × Counts × State :=
  state.joinThread me label (some milliseconds) counts fun ended state =>
    state.tell me (.joinTimeout label ended)

/-- Callers that join before the thread is told to end all see it end, unless it ends after the
time they all have. -/
def joinMany (state : State) (me : Nat) (label : String) (threads : Nat) (limit : Option Nat)
    (counts : Counts) : Reply Instruction Site × Counts × State :=
  match state.indexOf? label with
  | none => (.done, counts, state)
  | some index =>
    match (state.thread me).waiting with
    | .forEnd _ _ =>
      let ended := if state.isGone index then threads else 0
      (.done, counts, (state.setWaiting me .ready).tell me (.joinMany label ended))
    | _ =>
      (.pending, counts, (state.tellToEnd index).setWaiting me
        (.forEnd [index] (limit.map (state.clock + ·))))

def finish (state : State) (me : Nat) (label : String) : State :=
  (((state.indexOf? label).map state.tellToEnd).getD state).tell me (.labelled "finish" label)

def setName (state : State) (me : Nat) (name : String) : State :=
  let (installed, state) := state.setOwnName me name
  state.tell me (.naming installed (state.currentName me))

/-- Compares the thread's token with itself, with nobody's and with that of a new thread. -/
def compareTokens (state : State) (me : Nat) : State :=
  let (token, state) := state.currentToken me
  let (again, state) := state.currentToken me
  let (other, tokens) := state.machine.tokens.draw
  (state.setMachine { state.machine with tokens }).tell me
    (.token (token == again) (token == nobody) (token != other) (decide (token < other)))

end ManagedRuntime.Scenario.State
