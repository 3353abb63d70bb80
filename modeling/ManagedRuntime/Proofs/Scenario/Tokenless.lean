import ManagedRuntime.Proofs.Scenario.Disguise

/-! Guises that show no tokens, and what threads do that has nothing to do with tokens: it is done
alike in such a guise, and no token is drawn. The other operations are taken to pieces that only
draw a token and pieces that draw none. -/
namespace ManagedRuntime.Scenario
open Exception

/-! Guises that show no tokens. -/

/-- The guise, with these other tokens in memory and in records. What threads hold of their tokens
is not shown, and which token is next neither. -/
def Guise.veiled (guise : Guise) (rename : Rename) : Guise :=
  { guise with
    machine := { guise.machine with rename, tokens := some {} }
    cell := fun _ => nobody
    empty := rfl }

/-- Only tokens are not shown. -/
def veil : Guise := ({} : Guise).veiled .same

/-- Only knows threads under other tokens. -/
def Guise.renamed (rename : Rename) : Guise := { machine := { rename } }

/-- Only tells which token is next, whichever it is. -/
def Guise.holding (tokens : TokenCounter) : Guise := { machine := { tokens := some tokens } }

section
variable {guise : Guise}

theorem Guise.hides_veiled (rename : Rename) : (guise.veiled rename).HidesTokens :=
  ⟨fun _ => rfl, nofun⟩

theorem Guise.Faithful.veiled (faithful : guise.Faithful) (rename : Rename) :
    (guise.veiled rename).Faithful :=
  ⟨faithful.route, faithful.status, faithful.started⟩

theorem faithful_veil : veil.Faithful := ⟨rfl, fun _ => rfl, fun _ => rfl⟩

theorem Guise.faithful_holding (tokens : TokenCounter) : (holding tokens).Faithful :=
  ⟨rfl, fun _ => rfl, fun _ => rfl⟩

/-- With other tokens, the settings and the log are still left to a process. -/
theorem Guise.suits_veiled {machine : Machine} (suits : Machine.Suits guise.machine machine)
    (rename : Rename) : Machine.Suits (guise.veiled rename).machine machine :=
  ⟨suits.free, ⟨suits.fits.environment, suits.fits.installed⟩,
    ⟨suits.logs.logger, suits.logs.warning⟩⟩

theorem suits_veil (machine : Machine) : Machine.Suits veil.machine machine :=
  Machine.Guise.Alike.suits ⟨rfl, rfl, rfl, rfl, .inl rfl⟩

theorem Guise.suits_holding (tokens : TokenCounter) (machine : Machine) :
    Machine.Suits (holding tokens).machine machine :=
  Machine.Guise.Alike.suits ⟨rfl, rfl, rfl, rfl, .inl rfl⟩

end

namespace State

/-- What there is to see behind the veil can be had in turn. -/
theorem under_veiled {guise : Guise} (same : guise.machine.rename = .same) (rename : Rename)
    (state : State) :
    state.under (guise.veiled rename) =
      ((state.under (.renamed rename)).under guise).under veil := by
  have machine : (state.under (guise.veiled rename)).machine =
      (((state.under (.renamed rename)).under guise).under veil).machine :=
    Machine.under_renamed same rename {} state.machine
  have thread (thread : Thread) : (guise.veiled rename).thread thread =
      veil.thread (guise.thread ((Guise.renamed rename).thread thread)) := by
    rw [@thread_of_plain veil rfl rfl, @thread_of_plain (.renamed rename) rfl rfl]
    rfl
  have threads : (state.under (guise.veiled rename)).threads =
      (((state.under (.renamed rename)).under guise).under veil).threads := by
    simp only [under, Array.map_map]
    exact Array.map_congr_left fun told _ => thread told
  exact congrArg₂ (fun machine threads => ({ state with machine, threads } : State)) machine threads

/-! What leaves all tokens alone. -/

section
variable {state : State} {me : Nat}

theorem under_holding (state : State) : state.under (.holding state.machine.tokens) = state := by
  have machine : state.machine.under { tokens := some state.machine.tokens } = state.machine := by
    have journal (machine : Machine) : machine.journal.filter (fun record =>
        Threshold.all.admits record.severity) = machine.journal :=
      List.filter_eq_self.mpr fun _ _ => Threshold.admits_all _
    have written := @Machine.Guise.written_of_plain { tokens := some state.machine.tokens } rfl rfl
      state.machine.written
    have sink := @Machine.Guise.sink_of_all { tokens := some state.machine.tokens } rfl
      state.machine.sink (.inl rfl)
    simp only [Machine.under, journal, written, sink, Heap.renamed_same, Rename.names_same,
      Option.getD_none, Option.getD_some]
  rw [state.under_of_plain rfl rfl rfl]
  exact congrArg state.setMachine machine

/-- What is done alike whichever token is next draws none. -/
theorem KeepsTokens.of_under {after : State}
    (blind : after.under (.holding state.machine.tokens) = after)
    (held : after.token = state.token) : KeepsTokens state after :=
  ⟨held, congrArg (·.machine.tokens) blind.symm⟩

/-- An operation that has nothing to do with tokens: it is carried out in faithful guises as it is
without, and no thread gets or loses a token. -/
structure Tokenless (operation : State → State) : Prop where
  under : ∀ {guise : Guise}, guise.Faithful → ∀ state,
    operation (state.under guise) = (operation state).under guise
  held : ∀ state, (operation state).token = state.token

theorem Tokenless.keeps {operation : State → State} (tokenless : Tokenless operation)
    (state : State) : KeepsTokens state (operation state) := by
  refine .of_under ?_ (tokenless.held state)
  rw [← tokenless.under (Guise.faithful_holding _), under_holding]

theorem token_perform (state : State) (me : Nat) (counts : Counts) (height : Nat)
    {instruction : Instruction} (silent : instruction.asksToken = false)
    (nameless : instruction.namesThread = false) :
    ((host me).perform counts height instruction state).2.2.token = state.token := by
  have shown {after : State} {records : List (String × ExceptionRecord)}
      (same : after.seen (·.token) = (state.threads.map (·.token), records)) :
      after.token = state.token :=
    funext (view_of_map (congrArg Prod.fst same))
  cases instruction with
  | object | monitor | lock | unlock | token => contradiction
  | start | setName | spawn => contradiction
  | capture name reference depth =>
    exact shown ((seen_flushJournal ..).trans (seen_capture ..))
  | release name => exact shown ((seen_flushJournal ..).trans (seen_releaseRecord ..))
  | raiseCaptured name =>
    simp only [host, perform]
    split
    · next taken => exact shown (taken ▸ seen_takeRecord state name)
    · next taken => exact shown (taken ▸ seen_takeRecord state name)
  | stress name index threads times =>
    exact funext (view_stress state me _ index threads times counts rfl)
  | leaveThread =>
    exact shown ((seen_flushJournal ..).trans (seen_updateThread fun _ => rfl))
  | _ => exact token_of_seen (seen_perform_of_silent state me counts height rfl rfl rfl rfl)

theorem keepsTokens_perform (state : State) (me : Nat) (counts : Counts) (height : Nat)
    {instruction : Instruction} (silent : instruction.asksToken = false)
    (nameless : instruction.namesThread = false) :
    KeepsTokens state ((host me).perform counts height instruction state).2.2 := by
  refine .of_under ?_ (token_perform state me counts height silent nameless)
  have performed := perform_faithful (Guise.faithful_holding state.machine.tokens)
    (Guise.allows_of_silent (Guise.suits_holding _ state.machine) me counts height silent nameless)
  rw [under_holding, Guise.Faithful.answer (Guise.faithful_holding _)] at performed
  exact (congrArg (·.2.2) performed).symm

theorem keepsTokens_performAs (state : State) (me : Nat) (token : Token) (counts : Counts)
    (instruction : Instruction) :
    KeepsTokens state (performAs me token counts instruction state).2.2 := by
  have held : (performAs me token counts instruction state).2.2.token = state.token := by
    refine token_of_seen ?_
    cases instruction with
    | object name size table route =>
      exact (seen_done ..).trans (seen_makeObjectAs ..)
    | monitor verb name route quiet =>
      exact seen_useMonitorAs _ _ _ _ _ _ _ _ fun later => seen_tell later me _
    | lock | unlock => exact seen_useMonitorAs _ _ _ _ _ _ _ _ fun _ => rfl
    | _ => exact seen_done ..
  refine .of_under ?_ held
  have performed := @performAs_under (.holding state.machine.tokens) state me token counts
    instruction
    fun _ => (Guise.suits_holding _ state.machine).fits
  rw [under_holding, Guise.Faithful.answer (Guise.faithful_holding _)] at performed
  exact (congrArg (·.2.2) performed).symm

theorem keepsTokens_nameAs (state : State) (me : Nat) (token : Token) (name : String) :
    KeepsTokens state (state.nameAs me token name) := by
  refine .of_under ?_ (token_of_seen (seen_nameAs _ _ _ _ fun _ _ => rfl))
  have named := nameAs_under (.holding state.machine.tokens) state me token name
  rw [under_holding] at named
  exact named.symm

end

/-! Operations that have nothing to do with tokens. -/

theorem tokenless_setClock (clock : Nat) : Tokenless fun state => { state with clock } :=
  ⟨fun _ _ => rfl, fun _ => rfl⟩

theorem tokenless_setRunning (running : Nat) : Tokenless fun state => { state with running } :=
  ⟨fun _ _ => rfl, fun _ => rfl⟩

theorem tokenless_hear (me : Nat) (counts : Counts) (signal : Signal Site) :
    Tokenless ((host me).signal counts signal) :=
  ⟨fun faithful state => hear_faithful faithful state me counts signal,
    fun state => token_of_seen (seen_hear state me counts signal)⟩

theorem tokenless_buryThread (me : Nat) : Tokenless (buryThread · me) := by
  refine ⟨fun _ state => buryThread_under _ state me, fun state => token_of_seen ?_⟩
  unfold buryThread
  split
  · exact seen_updateThread fun _ => rfl
  · rfl

theorem tokenless_setStrand (me : Nat) (strand : Strand Instruction Site) :
    Tokenless (updateThread · me fun thread => { thread with strand }) := by
  refine ⟨fun {guise} faithful state => updateThread_under guise state me _ fun thread => ?_,
    fun state => token_of_seen (seen_updateThread fun _ => rfl)⟩
  simp only [faithful.thread]

theorem tokenless_withThread (me : Nat) (label : String) (name : Option String) (managed : Bool) :
    Tokenless (withThread · me label name managed) :=
  ⟨fun _ state => withThread_under _ state me label name managed,
    fun state => funext (view_withThread state me label name managed rfl)⟩

theorem tokenless_announce (me index : Nat) (label : String) :
    Tokenless (announce · me index label) :=
  ⟨fun _ state => announce_under _ state me index label,
    fun _ => token_of_seen ((seen_tell ..).trans (seen_flushJournal ..))⟩

theorem tokenless_takeArguments (me : Nat) (arguments : List (List UInt8)) (count : Nat) :
    Tokenless (takeArguments · me arguments count) := by
  refine ⟨fun _ state => takeArguments_under _ state me arguments count,
    fun state => token_of_seen ?_⟩
  unfold takeArguments
  split
  · exact seen_flushJournal ..
  · exact (seen_flushJournal ..).trans (seen_updateThread fun _ => rfl)

theorem tokenless_done (me : Nat) (counts : Counts) :
    Tokenless fun state => (done me counts state).2.2 :=
  ⟨fun _ state => congrArg (·.2.2) (done_under _ state me counts),
    fun _ => token_of_seen (seen_done ..)⟩

theorem tokenless_tell (me : Nat) (event : State → Event)
    (plain : ∀ state, (event state).isPlain = true)
    (blind : ∀ (guise : Guise) state, event (state.under guise) = event state) :
    Tokenless fun state => state.tell me (event state) := by
  refine ⟨fun {guise} _ state => ?_, fun _ => token_of_seen (seen_tell ..)⟩
  rw [blind]
  exact tell_under guise state me (plain state)

/-! Operations that draw tokens, by their parts. -/

theorem tokensLeft_setOwnName {state : State} {count : Nat}
    (left : state.TokensLeft (count + 1)) (me : Nat) (name : String) :
    (state.setOwnName me name).2.TokensLeft count := by
  unfold setOwnName
  cases (state.thread me).ownName with
  | some given => exact left.of_le (Nat.le_succ count)
  | none =>
    refine TokensLeft.keep ?_ (keepsTokens_nameAs ..)
    cases state.machine.wordsRecords .trace with
    | true => exact left.draw me
    | false =>
      rw [tokenToWord_false]
      exact left.of_le (Nat.le_succ count)

/-- Lends a token to nobody that lasts. -/
def lend (state : State) : State :=
  state.setMachine { state.machine with tokens := state.machine.tokens.draw.2 }

theorem Apart.lend {state : State} (apart : state.Apart) (left : state.TokensLeft 1) :
    state.lend.Apart :=
  ⟨fun me => UInt64.lt_trans (apart.below me) (lt_succ_of_left left), apart.different⟩

/-- A thread that compares its token sees that it stays the same, and that it is neither nobody's
nor that of another thread, which comes later. -/
theorem compareTokens_eq {state : State} {me : Nat} (apart : state.Apart)
    (left : state.TokensLeft 1) (known : me < state.threads.size) :
    state.compareTokens me = (draw me state).lend.tell me (.token true false true true) := by
  let token := (state.currentToken me).1
  have asked : token ≠ nobody := apart.currentToken_ne me
  have held : (draw me state).token me = token := by
    rw [token_draw known, if_pos rfl]
  have again : (draw me state).currentToken me = (token, draw me state) := by
    rw [currentToken_of_drawn (held ▸ asked), held]
  have later : token < (draw me state).machine.tokens.next := apart.currentToken_lt left me
  have differs : token ≠ (draw me state).machine.tokens.next :=
    fun same => UInt64.lt_irrefl _ (same ▸ later)
  have compared : state.compareTokens me = (draw me state).lend.tell me
      (.token (token == token) (token == nobody)
        (token != (draw me state).machine.tokens.next)
        (decide (token < (draw me state).machine.tokens.next))) := by
    unfold compareTokens
    rw [show state.currentToken me = (token, draw me state) from rfl]
    simp only [again]
    rfl
  rw [compared, beq_self_eq_true, beq_eq_false_iff_ne.mpr asked, bne_iff_ne.mpr differs,
    decide_eq_true later]

end State

end ManagedRuntime.Scenario
