import ManagedRuntime.Proofs.Scenario.Tokenless

/-! Two runs of which one draws tokens when the other does not. A thread may have another token in
each of them then, and both runs are the same up to a renaming of the tokens, for as long as there
are tokens left. -/
namespace ManagedRuntime.Scenario
open Exception

/-! Runs that are the same up to their tokens. -/

/-- Every token that was drawn in the lower run stands for that of the same thread in the upper
one. -/
def Renames (rename : Rename) (upper lower : State) : Prop :=
  ∀ me, lower.token me ≠ nobody → rename (upper.token me) = lower.token me

/-- The lower run is the upper one in a guise, whatever becomes of tokens that the lower one does
not know, and only the upper run may have drawn more of them. -/
structure Twins (guise : Guise) (upper lower : State) : Prop where
  upperApart : upper.Apart
  lowerApart : lower.Apart
  drawn : ∀ me, lower.token me ≠ nobody → upper.token me ≠ nobody
  alike : ∀ rename, Renames rename upper lower → Matches (guise.veiled rename) veil upper lower

namespace Twins
open State

section
variable {guise : Guise} {upper lower : State}

/-- A run in which no token is known yet is the twin of itself in a guise. -/
theorem of_bare {state : State} (same : guise.SameTokens) (apart : state.Apart)
    (bare : ∀ rename, state.under (.renamed rename) = state) :
    Twins guise state (state.under guise) := by
  have held : (state.under guise).token = state.token := by
    funext me
    rw [State.token, thread_under]
    exact congrFun same.cell _
  have counter : (state.under guise).machine.tokens = state.machine.tokens := by
    rw [machine_under, Machine.tokens_under, same.counter, Option.getD_none]
  refine ⟨apart, apart.keep ⟨held, counter⟩, fun me drawn => held ▸ drawn, fun rename _ => ?_⟩
  rw [Matches, under_veiled same.rename, bare]

/-- There is such a renaming: one thread after the other has its two tokens exchanged. -/
theorem exists_renames (twins : Twins guise upper lower) :
    ∃ rename, Renames rename upper lower := by
  have first (count : Nat) : ∃ rename : Rename, ∀ me < count, lower.token me ≠ nobody →
      rename (upper.token me) = lower.token me := by
    induction count with
    | zero => exact ⟨.same, nofun⟩
    | succ count ih =>
      obtain ⟨rename, found⟩ := ih
      by_cases fresh : lower.token count = nobody
      · refine ⟨rename, fun me before drawn => ?_⟩
        rcases Nat.lt_succ_iff_lt_or_eq.mp before with earlier | rfl
        · exact found me earlier drawn
        · exact absurd fresh drawn
      · have held : rename (upper.token count) ≠ nobody :=
          rename.apply_eq_nobody_iff.not.mpr (twins.drawn count fresh)
        refine ⟨rename.exchange held fresh, fun me before drawn => ?_⟩
        rcases Nat.lt_succ_iff_lt_or_eq.mp before with earlier | rfl
        · have other : me ≠ count := Nat.ne_of_lt earlier
          have upperOther : rename (upper.token me) ≠ rename (upper.token count) := fun same =>
            other (twins.upperApart.different count me (twins.drawn count fresh)
              (rename.apply_eq_iff.mp same))
          have lowerOther : lower.token me ≠ lower.token count := fun same =>
            other (twins.lowerApart.different count me fresh same)
          have moved := found me earlier drawn
          exact (Equiv.swap_apply_of_ne_of_ne upperOther (moved ▸ lowerOther)).trans moved
        · exact Equiv.swap_apply_left ..
  obtain ⟨rename, found⟩ := first lower.threads.size
  refine ⟨rename, fun me drawn => found me ?_ drawn⟩
  by_contra unknown
  exact drawn (token_of_unknown unknown)

/-- Steps that draw no tokens and lead to the same in every such renaming. -/
theorem keep (twins : Twins guise upper lower) {above below : State}
    (keptAbove : KeepsTokens upper above) (keptBelow : KeepsTokens lower below)
    (alike : ∀ rename, Renames rename upper lower →
      Matches (guise.veiled rename) veil above below) :
    Twins guise above below := by
  have renames (rename : Rename) (there : Renames rename above below) :
      Renames rename upper lower := by
    rwa [Renames, keptAbove.held, keptBelow.held] at there
  refine ⟨twins.upperApart.keep keptAbove, twins.lowerApart.keep keptBelow, ?_,
    fun rename there => alike rename (renames rename there)⟩
  rw [keptAbove.held, keptBelow.held]
  exact twins.drawn

variable (faithful : guise.Faithful)

include faithful in
theorem apply (twins : Twins guise upper lower) {operation : State → State}
    (tokenless : Tokenless operation) : Twins guise (operation upper) (operation lower) := by
  refine twins.keep (tokenless.keeps upper) (tokenless.keeps lower) fun rename there => ?_
  have same := congrArg operation (twins.alike rename there)
  rwa [tokenless.under faithful_veil, tokenless.under (faithful.veiled rename)] at same

/-- The upper run may draw a token that the lower one does not draw. -/
theorem drawUpper (twins : Twins guise upper lower) (left : upper.TokensLeft 1) (me : Nat) :
    Twins guise (draw me upper) lower := by
  have same (other : Nat) (drawn : lower.token other ≠ nobody) :
      (draw me upper).token other = upper.token other :=
    token_draw_of_drawn (twins.drawn other drawn)
  refine ⟨twins.upperApart.draw left me, twins.lowerApart, fun other drawn => ?_,
    fun rename there => ?_⟩
  · rw [same other drawn]
    exact twins.drawn other drawn
  · have renames : Renames rename upper lower := fun other drawn => by
      rw [← there other drawn, same other drawn]
    exact (twins.alike rename renames).trans
      (draw_hidden _ upper me (Guise.hides_veiled rename)).symm

/-- A thread that is asked for its token in the lower run is asked in the upper one as well. -/
theorem draw (twins : Twins guise upper lower) (leftAbove : upper.TokensLeft 1)
    (leftBelow : lower.TokensLeft 1) {me : Nat} (known : me < upper.threads.size) :
    Twins guise (draw me upper) (draw me lower) := by
  have same (other : Nat) (drawn : lower.token other ≠ nobody) :
      (State.draw me upper).token other = upper.token other :=
    token_draw_of_drawn (twins.drawn other drawn)
  refine ⟨twins.upperApart.draw leftAbove me, twins.lowerApart.draw leftBelow me,
    fun other drawn => ?_, fun rename there => ?_⟩
  · by_cases own : other = me
    · rw [own, token_draw known, if_pos rfl]
      exact twins.upperApart.currentToken_ne me
    · rw [token_draw_of_ne own] at drawn ⊢
      exact twins.drawn other drawn
  · have renames : Renames rename upper lower := fun other drawn => by
      have held := @token_draw_of_drawn lower me other drawn
      rw [← same other drawn, there other (held ▸ drawn), held]
    exact (draw_hidden _ lower me (Guise.hides_veiled .same)).trans
      ((twins.alike rename renames).trans
        (draw_hidden _ upper me (Guise.hides_veiled rename)).symm)

theorem size (twins : Twins guise upper lower) : lower.threads.size = upper.threads.size := by
  obtain ⟨rename, there⟩ := twins.exists_renames
  have same := congrArg (·.threads.size) (twins.alike rename there)
  simpa only [size_under] using same

theorem strand (twins : Twins guise upper lower) (me : Nat) :
    (lower.thread me).strand = (rerouting guise.route).strand (upper.thread me).strand := by
  obtain ⟨rename, there⟩ := twins.exists_renames
  exact (twins.alike rename there).strands rfl me

/-- Who was asked in both runs stands for itself. -/
theorem asked {rename : Rename} (twins : Twins guise upper lower) {me : Nat}
    (known : me < upper.threads.size)
    (there : Renames rename (State.draw me upper) (State.draw me lower)) :
    rename (upper.currentToken me).1 = (lower.currentToken me).1 := by
  have shown := there me
  rw [token_draw known, token_draw (twins.size ▸ known), if_pos rfl, if_pos rfl] at shown
  exact shown (twins.lowerApart.currentToken_ne me)

theorem nameAs (twins : Twins guise upper lower) {me : Nat} {above below : Token} {name : String}
    (same : ∀ rename, Renames rename upper lower →
      lower.nameAs me below name = lower.nameAs me (rename above) name) :
    Twins guise (upper.nameAs me above name) (lower.nameAs me below name) := by
  refine twins.keep (keepsTokens_nameAs ..) (keepsTokens_nameAs ..) fun rename there => ?_
  have named : (upper.under (guise.veiled rename)).nameAs me (rename above) name =
      (upper.nameAs me above name).under (guise.veiled rename) := nameAs_under ..
  have also : (lower.under veil).nameAs me (rename above) name =
      (lower.nameAs me (rename above) name).under veil := nameAs_under ..
  rw [Matches, same rename there, ← also, ← named, twins.alike rename there]

/-- A name may be worded in the upper run only. Then no token is asked for in the lower one. -/
theorem setOwnName (twins : Twins guise upper lower) (leftAbove : upper.TokensLeft 1)
    (leftBelow : lower.TokensLeft 1) {me : Nat} (known : me < upper.threads.size) (name : String) :
    (lower.setOwnName me name).1 = (upper.setOwnName me name).1 ∧
      Twins guise (upper.setOwnName me name).2 (lower.setOwnName me name).2 := by
  obtain ⟨rename, there⟩ := twins.exists_renames
  have alike := twins.alike rename there
  have own : (lower.thread me).ownName = (upper.thread me).ownName := by
    have same := congrArg Thread.ownName (alike.threads me)
    exact same
  have worded : lower.machine.wordsRecords .trace =
      (upper.machine.wordsRecords .trace && guise.machine.level.admits .trace) := by
    have same := congrArg (·.machine.wordsRecords .trace) alike
    simp only [machine_under, Machine.wordsRecords_under] at same
    exact (Bool.and_true _).symm.trans same
  unfold State.setOwnName
  rw [own]
  cases (upper.thread me).ownName with
  | some given => exact ⟨rfl, twins⟩
  | none =>
    refine ⟨rfl, ?_⟩
    cases wordedBelow : lower.machine.wordsRecords .trace with
    | true =>
      have wordedAbove : upper.machine.wordsRecords .trace = true :=
        (Bool.and_eq_true_iff.mp (worded ▸ wordedBelow)).1
      rw [wordedAbove, tokenToWord_true, tokenToWord_true]
      refine (twins.draw leftAbove leftBelow known).nameAs fun rename there => ?_
      rw [twins.asked known there]
    | false =>
      rw [tokenToWord_false]
      have unworded (other : Token) :
          lower.nameAs me (lower.token me) name = lower.nameAs me other name :=
        nameAs_of_unworded lower me wordedBelow _ _ name
      cases upper.machine.wordsRecords .trace with
      | true =>
        rw [tokenToWord_true]
        exact (twins.drawUpper leftAbove me).nameAs fun _ _ => unworded _
      | false =>
        rw [tokenToWord_false]
        exact twins.nameAs fun _ _ => unworded _

theorem askToken (twins : Twins guise upper lower) (leftAbove : upper.TokensLeft 1)
    (leftBelow : lower.TokensLeft 1) {me : Nat} (known : me < upper.threads.size)
    (label : String) :
    Twins guise (upper.askToken me label) (lower.askToken me label) := by
  refine (twins.draw leftAbove leftBelow known).keep ⟨rfl, rfl⟩ ⟨rfl, rfl⟩ fun rename there => ?_
  let asked (state : State) : State :=
    state.setMachine (state.machine.addLabel (rename (upper.currentToken me).1) label)
  have below : (lower.askToken me label).under veil =
      asked ((State.draw me lower).under veil) := by
    simp only [asked, twins.asked known there]
    rfl
  exact below.trans (congrArg asked ((twins.draw leftAbove leftBelow known).alike rename there))

theorem lend (twins : Twins guise upper lower) (leftAbove : upper.TokensLeft 1)
    (leftBelow : lower.TokensLeft 1) : Twins guise upper.lend lower.lend := by
  refine ⟨twins.upperApart.lend leftAbove, twins.lowerApart.lend leftBelow, twins.drawn,
    fun rename there => ?_⟩
  exact (setTokens_hidden _ lower (Guise.hides_veiled .same) _).trans
    ((twins.alike rename there).trans (setTokens_hidden _ upper (Guise.hides_veiled rename) _).symm)

end

/-! What threads do. -/

section
variable {guise : Guise} {upper lower : State} {me : Nat} {counts : Counts} {height : Nat}

/-- Answers that draw no more tokens and are the same in every such renaming. -/
theorem answers (twins : Twins guise upper lower)
    {above below : Reply Instruction Site × Counts × State}
    (keptAbove : KeepsTokens upper above.2.2) (keptBelow : KeepsTokens lower below.2.2)
    (same : ∀ rename, Renames rename upper lower →
      veil.answer below = (guise.veiled rename).answer above) :
    (rerouting guise.route).Answers (Twins guise) above below := by
  obtain ⟨rename, there⟩ := twins.exists_renames
  have here := same rename there
  refine ⟨?_, congrArg (·.2.1) here, twins.keep keptAbove keptBelow fun rename there => ?_⟩
  · have reply : (rerouting id).reply below.1 = (rerouting guise.route).reply above.1 :=
      congrArg Prod.fst here
    rwa [rerouting_id_reply] at reply
  · exact congrArg (·.2.2) (same rename there)

theorem done (twins : Twins guise upper lower) :
    (rerouting guise.route).Answers (Twins guise) (State.done me counts upper)
      (State.done me counts lower) := by
  refine twins.answers ((tokenless_done me counts).keeps upper)
    ((tokenless_done me counts).keeps lower) fun rename there => ?_
  rw [← done_under, ← done_under, twins.alike rename there]

section
variable (faithful : guise.Faithful)
include faithful

/-- Most instructions have nothing to do with tokens. -/
theorem perform_silent (twins : Twins guise upper lower)
    (suits : Machine.Suits guise.machine upper.machine)
    {instruction : Instruction} (silent : instruction.asksToken = false)
    (nameless : instruction.namesThread = false) :
    (rerouting guise.route).Answers (Twins guise)
      ((host me).perform counts height instruction upper)
      ((host me).perform counts height instruction lower) := by
  refine twins.answers (keepsTokens_perform _ _ _ _ silent nameless)
    (keepsTokens_perform _ _ _ _ silent nameless) fun rename there => ?_
  have above := perform_faithful (faithful.veiled rename)
    (Guise.allows_of_silent (Guise.suits_veiled suits rename) me counts height silent nameless)
  have below := perform_faithful faithful_veil
    (Guise.allows_of_silent (suits_veil lower.machine) me counts height silent nameless)
  rw [← below, ← above, twins.alike rename there]

omit faithful in
/-- Those that do something with their thread's token do it with the token that it stands for. -/
theorem perform_using (twins : Twins guise upper lower)
    (suits : Machine.Suits guise.machine upper.machine)
    (leftAbove : upper.TokensLeft 1) (leftBelow : lower.TokensLeft 1)
    (known : me < upper.threads.size) {instruction : Instruction}
    (uses : instruction.usesToken = true) :
    (rerouting guise.route).Answers (Twins guise)
      ((host me).perform counts height instruction upper)
      ((host me).perform counts height instruction lower) := by
  rw [perform_of_usesToken uses, perform_of_usesToken uses]
  have drawn := twins.draw leftAbove leftBelow known
  refine drawn.answers (keepsTokens_performAs ..) (keepsTokens_performAs ..) fun rename there => ?_
  have fits : Machine.Fits (guise.veiled rename).machine (State.draw me upper).machine :=
    (Guise.suits_veiled suits rename).fits.congr rfl rfl
  have above := @performAs_under (guise.veiled rename) (State.draw me upper) me
    (upper.currentToken me).1 counts instruction fun _ => fits
  have below := @performAs_under veil (State.draw me lower) me (lower.currentToken me).1 counts
    instruction fun _ => (suits_veil _).fits
  refine below.symm.trans (Eq.trans ?_ above)
  rw [drawn.alike rename there]
  exact congrArg (performAs me · counts instruction _) (twins.asked known there).symm

theorem compareTokens (twins : Twins guise upper lower) (leftAbove : upper.TokensLeft 2)
    (leftBelow : lower.TokensLeft 2) (known : me < upper.threads.size) :
    Twins guise (upper.compareTokens me) (lower.compareTokens me) := by
  have leftAbove' := leftAbove.of_le (Nat.le_succ 1)
  have leftBelow' := leftBelow.of_le (Nat.le_succ 1)
  rw [compareTokens_eq twins.upperApart leftAbove' known,
    compareTokens_eq twins.lowerApart leftBelow' (twins.size ▸ known)]
  have lent := (twins.draw leftAbove' leftBelow' known).lend (leftAbove.draw me)
    (leftBelow.draw me)
  exact lent.apply faithful
    (tokenless_tell me (fun _ => .token true false true true) (fun _ => rfl) fun _ _ => rfl)

theorem setName (twins : Twins guise upper lower) (leftAbove : upper.TokensLeft 1)
    (leftBelow : lower.TokensLeft 1) (known : me < upper.threads.size) (name : String) :
    Twins guise (upper.setName me name) (lower.setName me name) := by
  obtain ⟨installed, named⟩ := twins.setOwnName leftAbove leftBelow known name
  let told (state : State) : Event :=
    .naming (upper.setOwnName me name).1 (state.currentName me)
  have blind (guise : Guise) (state : State) : told (state.under guise) = told state :=
    congrArg (Event.naming _) (currentName_under guise state me)
  have below : lower.setName me name = (lower.setOwnName me name).2.tell me
      (told (lower.setOwnName me name).2) := by
    simp only [told, ← installed]
    rfl
  rw [below]
  exact named.apply faithful (tokenless_tell me told (fun _ => rfl) blind)

theorem spawn (twins : Twins guise upper lower) (leftAbove : upper.TokensLeft 2)
    (leftBelow : lower.TokensLeft 2) (label : String) (name : Option String)
    (managed asked : Bool) :
    Twins guise (upper.spawn me label name managed asked)
      (lower.spawn me label name managed asked) := by
  let index := upper.threads.size
  have joined := twins.apply faithful (tokenless_withThread me label name managed)
  have joinedAbove := leftAbove.keep ((tokenless_withThread me label name managed).keeps upper)
  have joinedBelow := leftBelow.keep ((tokenless_withThread me label name managed).keeps lower)
  rw [spawn_eq, spawn_eq, twins.size]
  have known : index < (upper.withThread me label name managed).threads.size := by
    simp only [withThread, Array.size_push]
    exact Nat.lt_succ_self index
  generalize upper.withThread me label name managed = above at joined joinedAbove known
  generalize lower.withThread me label name managed = below at joined joinedBelow
  have fewerAbove := joinedAbove.of_le (Nat.le_succ 1)
  have fewerBelow := joinedBelow.of_le (Nat.le_succ 1)
  obtain ⟨named, leftAbove, leftBelow, size⟩ :
      Twins guise (above.nameStarted index managed name) (below.nameStarted index managed name) ∧
        (above.nameStarted index managed name).TokensLeft 1 ∧
        (below.nameStarted index managed name).TokensLeft 1 ∧
        (above.nameStarted index managed name).threads.size = above.threads.size := by
    unfold nameStarted
    split
    · next name =>
      exact ⟨(joined.setOwnName fewerAbove fewerBelow known name).2,
        tokensLeft_setOwnName joinedAbove index name, tokensLeft_setOwnName joinedBelow index name,
        size_setOwnName above index name⟩
    · exact ⟨joined, fewerAbove, fewerBelow, rfl⟩
  refine Twins.apply faithful ?_ (tokenless_announce me index label)
  cases asked with
  | true => exact named.askToken leftAbove leftBelow (size ▸ known) label
  | false => exact named

theorem startUp (twins : Twins guise upper lower)
    (suits : Machine.Suits guise.machine upper.machine)
    (leftAbove : upper.TokensLeft 1) (leftBelow : lower.TokensLeft 1)
    (known : me < upper.threads.size) (arguments : List (List UInt8)) (count : Nat) :
    Twins guise (upper.startUp me arguments count).2 (lower.startUp me arguments count).2 := by
  have begun (state : State) {guise : Guise} (suits : Machine.Suits guise.machine state.machine) :
      (state.setMachine (state.machine.beginStart count)).under guise =
        (state.under guise).setMachine ((state.under guise).machine.beginStart count) := by
    rw [machine_under, suits.beginStart]
    rfl
  have kept (state : State) :
      KeepsTokens state (state.setMachine (state.machine.beginStart count)) := by
    refine .of_under ?_ rfl
    rw [begun state (Guise.suits_holding _ _), under_holding]
  have started : Twins guise (upper.setMachine (upper.machine.beginStart count))
      (lower.setMachine (lower.machine.beginStart count)) := by
    refine twins.keep (kept upper) (kept lower) fun rename there => ?_
    rw [Matches, begun lower (suits_veil _), begun upper (Guise.suits_veiled suits rename),
      twins.alike rename there]
  have named := (started.setOwnName (leftAbove.keep (kept upper)) (leftBelow.keep (kept lower))
    known "main").2
  rw [startUp_snd, startUp_snd]
  exact named.apply faithful (tokenless_takeArguments me arguments count)

theorem startProgram (twins : Twins guise upper lower)
    (suits : Machine.Suits guise.machine upper.machine)
    (leftAbove : upper.TokensLeft 1) (leftBelow : lower.TokensLeft 1)
    (known : me < upper.threads.size) (arguments : List (List UInt8)) (count : Nat)
    (name : Option String) (route : Route) (body : List Step) :
    (rerouting guise.route).Answers (Twins guise)
      (upper.startProgram me arguments count name route body counts)
      (lower.startProgram me arguments count name route body counts) := by
  have prepared := twins.startUp faithful suits leftAbove leftBelow known arguments count
  obtain ⟨rename, there⟩ := prepared.exists_renames
  have ended : (lower.startUp me arguments count).2.machine.ended =
      (upper.startUp me arguments count).2.machine.ended := by
    have same := congrArg (·.machine.ended) (prepared.alike rename there)
    exact same
  rw [startProgram_eq, startProgram_eq, ended]
  refine ⟨?_, rfl, prepared⟩
  rw [faithful.route, rerouting_id_reply]

/-- Whatever a thread carries out is answered alike. -/
theorem perform (twins : Twins guise upper lower)
    (suits : Machine.Suits guise.machine upper.machine)
    (leftAbove : upper.TokensLeft 2) (leftBelow : lower.TokensLeft 2)
    (known : me < upper.threads.size) (instruction : Instruction) :
    (rerouting guise.route).Answers (Twins guise)
      ((host me).perform counts height instruction upper)
      ((host me).perform counts height instruction lower) := by
  have fewerAbove := leftAbove.of_le (Nat.le_succ 1)
  have fewerBelow := leftBelow.of_le (Nat.le_succ 1)
  cases instruction with
  | object | monitor | lock | unlock =>
    exact twins.perform_using suits fewerAbove fewerBelow known rfl
  | token => exact (twins.compareTokens faithful leftAbove leftBelow known).done
  | setName name => exact (twins.setName faithful fewerAbove fewerBelow known name).done
  | spawn label name managed asked =>
    exact (twins.spawn faithful leftAbove leftBelow label name managed asked).done
  | start arguments count name route body =>
    exact twins.startProgram faithful suits fewerAbove fewerBelow known arguments count name route
      body
  | _ => exact twins.perform_silent faithful suits rfl rfl

/-- A turn of the same thread in both runs. -/
theorem stepThread (twins : Twins guise upper lower)
    (suits : Machine.Suits guise.machine upper.machine)
    (leftAbove : upper.TokensLeft 2) (leftBelow : lower.TokensLeft 2) (me : Nat) :
    Twins guise (upper.stepThread me) (lower.stepThread me) := by
  have heard : (rerouting guise.route).Hears (host me) (Twins guise) := by
    intro counts signal upper lower twins
    rw [faithful.route, rerouting_id_signal]
    exact twins.apply faithful (tokenless_hear me counts signal)
  have stepped := Translation.step_alike heard (upper.thread me).strand twins
    fun instruction upcoming => by
      have known : me < upper.threads.size := by
        by_contra unknown
        have absent : (upper.thread me).strand.upcoming = none := by
          simp only [thread, Array.getD_eq_getD_getElem?,
            Array.getElem?_eq_none (Nat.le_of_not_lt unknown)]
          rfl
        rw [absent] at upcoming
        cases upcoming
      have same : (rerouting guise.route).instruction instruction = instruction := by
        rw [faithful.route]
        exact Instruction.reroute_id instruction
      rw [same]
      exact twins.perform faithful suits leftAbove leftBelow known instruction
  rw [← twins.strand me] at stepped
  obtain ⟨strand, surroundings⟩ := stepped
  rw [faithful.route, rerouting_id_strand] at strand
  simp only [State.stepThread, strand]
  exact (surroundings.apply faithful (tokenless_setStrand me _)).apply faithful
    (tokenless_buryThread me)

end

end

end Twins
end ManagedRuntime.Scenario
