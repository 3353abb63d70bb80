import ManagedRuntime.Proofs.Scenario.Core

/-! Tokens of the threads of a scenario. A thread that has drawn its token keeps it, and as long as
there are tokens left, the next one is nobody's yet. -/
namespace ManagedRuntime.Scenario
open Exception

instance : Aloof fun thread => thread.token :=
  { told := fun _ _ => rfl, waiting := fun _ _ => rfl, scratch := fun _ _ => rfl
    job := fun _ _ => rfl, inbox := fun _ _ => rfl
    toldToEnd := fun _ _ => rfl, callers := fun _ _ _ => rfl }

namespace State

/-- The token that a thread has drawn, or nobody's. -/
def token (state : State) (index : Nat) : Token := (state.thread index).token

/-- A thread that has no token draws one; nothing else happens. -/
def draw (me : Nat) (state : State) : State := (state.currentToken me).2

section
variable {state : State} {me : Nat}

theorem token_of_unknown (unknown : ¬me < state.threads.size) : state.token me = nobody := by
  simp only [token, thread, Array.getD_eq_getD_getElem?,
    Array.getElem?_eq_none (Nat.le_of_not_lt unknown)]
  rfl

/-- A thread that is given the token it has stays as it is. -/
theorem updateToken_self (state : State) (me : Nat) :
    (state.updateThread me fun thread => { thread with token := state.token me }) = state := by
  have same : state.threads.modify me (fun thread => { thread with token := state.token me }) =
      state.threads := by
    refine Array.ext (by simp) fun position inside _ => ?_
    rw [Array.getElem_modify]
    split
    · next here =>
      subst here
      have found : state.thread me = state.threads[me] := by
        simp only [thread, Array.getD_eq_getD_getElem?]
        rw [Array.getElem?_eq_getElem, Option.getD_some]
      simp only [token, found]
    · rfl
  simp only [updateThread, same]

theorem tokenToWord_false (state : State) (me : Nat) :
    state.tokenToWord me false = (state.token me, state) :=
  Prod.ext rfl (updateToken_self state me)

theorem tokenToWord_true (state : State) (me : Nat) :
    state.tokenToWord me true = ((state.currentToken me).1, draw me state) := rfl

/-- A thread is asked for the token it has. -/
theorem currentToken_of_drawn (drawn : state.token me ≠ nobody) :
    state.currentToken me = (state.token me, state) := by
  have current : state.machine.currentToken (state.thread me).token =
      (state.token me, state.machine) := by
    have cell : (state.thread me).token ≠ nobody := drawn
    simp only [Machine.currentToken, TokenCounter.current, cell, if_false]
    rfl
  simp only [currentToken, current]
  exact congrArg (Prod.mk _) (updateToken_self state me)

theorem draw_of_drawn (drawn : state.token me ≠ nobody) : draw me state = state := by
  rw [draw, currentToken_of_drawn drawn]

/-- A thread without a token is given the next one. -/
theorem currentToken_of_fresh (fresh : state.token me = nobody) :
    (state.currentToken me).1 = state.machine.tokens.next ∧
      (draw me state).machine.tokens = ⟨state.machine.tokens.next + 1⟩ := by
  have cell : (state.thread me).token = nobody := fresh
  simp only [draw, currentToken, Machine.currentToken, TokenCounter.current, cell, if_true]
  exact ⟨rfl, rfl⟩

theorem token_draw (known : me < state.threads.size) (other : Nat) :
    (draw me state).token other =
      if other = me then (state.currentToken me).1 else state.token other := by
  rw [token, draw, thread_currentToken state known]
  split <;> rfl

/-- A token that is drawn for no thread is given to none. -/
theorem token_draw_of_unknown (unknown : ¬me < state.threads.size) :
    (draw me state).token = state.token := by
  let asked : State :=
    { state with machine := (state.machine.currentToken (state.thread me).token).2 }
  have same : draw me state = asked := updateThread_of_unknown asked _ unknown
  rw [same]
  rfl

theorem token_draw_of_ne {other : Nat} (different : other ≠ me) :
    (draw me state).token other = state.token other := by
  by_cases known : me < state.threads.size
  · rw [token_draw known, if_neg different]
  · rw [token_draw_of_unknown known]

theorem token_draw_of_drawn {other : Nat} (drawn : state.token other ≠ nobody) :
    (draw me state).token other = state.token other := by
  by_cases own : other = me
  · rw [draw_of_drawn (own ▸ drawn)]
  · exact token_draw_of_ne own

/-- Only a thread without a token gets one, the next. -/
theorem token_draw_cases (fresh : state.token me = nobody) (other : Nat) :
    (draw me state).token other = state.token other ∨
      other = me ∧ (draw me state).token other = state.machine.tokens.next := by
  by_cases own : other = me
  · by_cases known : me < state.threads.size
    · rw [token_draw known, if_pos own]
      exact .inr ⟨own, (currentToken_of_fresh fresh).1⟩
    · rw [token_draw_of_unknown known]
      exact .inl rfl
  · exact .inl (token_draw_of_ne own)

end

/-! Tokens that differ. -/

/-- Different threads have different tokens, and the next one comes after all of them. -/
structure Apart (state : State) : Prop where
  below : ∀ me, state.token me < state.machine.tokens.next
  different : ∀ me other, state.token me ≠ nobody → state.token other = state.token me → other = me

/-- There are tokens left for so many threads. -/
def TokensLeft (count : Nat) (state : State) : Prop :=
  state.machine.tokens.next.toNat + count < UInt64.size

/-- Threads have the tokens they had, and no others were drawn. -/
structure KeepsTokens (before after : State) : Prop where
  held : after.token = before.token
  counter : after.machine.tokens = before.machine.tokens

theorem token_of_seen {before after : State}
    (same : after.seen (·.token) = before.seen (·.token)) : after.token = before.token :=
  funext (view_of_seen same)

section
variable {before after : State}

theorem Apart.keep (apart : before.Apart) (kept : KeepsTokens before after) : after.Apart := by
  constructor
  · rw [kept.held, kept.counter]
    exact apart.below
  · rw [kept.held]
    exact apart.different

theorem TokensLeft.keep {count : Nat} (left : before.TokensLeft count)
    (kept : KeepsTokens before after) :
    after.TokensLeft count := by
  rw [TokensLeft, kept.counter]
  exact left

end

section
variable {state : State} {me : Nat}

theorem TokensLeft.of_le {few many : Nat} (left : state.TokensLeft many) (fewer : few ≤ many) :
    state.TokensLeft few := by
  unfold TokensLeft at left ⊢
  omega

theorem Apart.next_ne (apart : state.Apart) : state.machine.tokens.next ≠ nobody := by
  intro none
  have below := apart.below 0
  rw [none] at below
  exact UInt64.not_lt_zero below

/-- Who is asked for a token has one. -/
theorem Apart.currentToken_ne (apart : state.Apart) (me : Nat) :
    (state.currentToken me).1 ≠ nobody := by
  by_cases fresh : state.token me = nobody
  · rw [(currentToken_of_fresh fresh).1]
    exact apart.next_ne
  · rw [currentToken_of_drawn fresh]
    exact fresh

theorem lt_succ_of_left {next : Token} (left : next.toNat + 1 < UInt64.size) :
    next < next + 1 := by
  rw [UInt64.lt_iff_toNat_lt, UInt64.toNat_add]
  have one : (1 : UInt64).toNat = 1 := rfl
  have size : UInt64.size = 2 ^ 64 := rfl
  omega

/-- A token that is drawn is followed by the next one. -/
theorem Apart.currentToken_lt (apart : state.Apart) (left : state.TokensLeft 1) (me : Nat) :
    (state.currentToken me).1 < (draw me state).machine.tokens.next := by
  by_cases fresh : state.token me = nobody
  · obtain ⟨token, counter⟩ := currentToken_of_fresh fresh
    rw [token, counter]
    exact lt_succ_of_left left
  · rw [currentToken_of_drawn fresh, draw_of_drawn fresh]
    exact apart.below me

theorem Apart.draw (apart : state.Apart) (left : state.TokensLeft 1) (me : Nat) :
    (draw me state).Apart := by
  by_cases fresh : state.token me = nobody
  · obtain ⟨token, counter⟩ := currentToken_of_fresh fresh
    have later : state.machine.tokens.next < (State.draw me state).machine.tokens.next := by
      rw [counter]
      exact lt_succ_of_left left
    have held := token_draw_cases fresh
    constructor
    · intro other
      rcases held other with same | ⟨-, next⟩
      · rw [same]
        exact UInt64.lt_trans (apart.below other) later
      · rw [next]
        exact later
    · intro one other drawn same
      rcases held one with kept | ⟨rfl, next⟩
      · rcases held other with kept' | ⟨rfl, next'⟩
        · rw [kept] at drawn same
          rw [kept'] at same
          exact apart.different one other drawn same
        · rw [kept, next'] at same
          exact absurd (same ▸ apart.below one) (UInt64.lt_irrefl _)
      · rcases held other with kept' | ⟨rfl, next'⟩
        · rw [next, kept'] at same
          exact absurd (same ▸ apart.below other) (UInt64.lt_irrefl _)
        · rfl
  · rw [draw_of_drawn fresh]
    exact apart

theorem TokensLeft.draw {count : Nat} (left : state.TokensLeft (count + 1)) (me : Nat) :
    (draw me state).TokensLeft count := by
  by_cases fresh : state.token me = nobody
  · have counter := (currentToken_of_fresh fresh).2
    have grown : (state.machine.tokens.next + 1).toNat ≤ state.machine.tokens.next.toNat + 1 := by
      rw [UInt64.toNat_add]
      exact Nat.mod_le ..
    unfold TokensLeft at left ⊢
    rw [counter]
    dsimp only
    omega
  · rw [draw_of_drawn fresh]
    exact left.of_le (Nat.le_succ count)

end

end State
end ManagedRuntime.Scenario
