import Mathlib.Algebra.Ring.Nat
import Mathlib.Data.Fintype.Card
import Mathlib.Data.List.NodupEquivFin
import ManagedRuntime.Proofs.Runs
import ManagedRuntime.Thread.Token

/-! Tokens tell threads apart. A thread looks into its cell, draws a token when the cell is empty
and stores it there, and the others may do the same in between. -/
namespace ManagedRuntime

/-- How far a thread is with a call that asks for its token. -/
inductive Asking
  | idle
  | looking
  | drawing
  | storing (token : Token)

/-- A token that was drawn and is not stored yet. -/
def Asking.inHand : Asking → Option Token
  | .storing token => some token
  | .idle | .looking | .drawing => none

/-- The counter they all draw from, and what every thread has of its own. -/
structure Bearers (count : Nat) where
  counter : TokenCounter := {}
  cells : Fin count → Token := fun _ => nobody
  asking : Fin count → Asking := fun _ => .idle

inductive TokenEvent
  | asked
  | drew (token : Token)
  | answered (token : Token)
deriving DecidableEq

namespace Bearers
variable {count : Nat}

/-- A thread gets to another point of its call. -/
def put (state : Bearers count) (me : Fin count) (asking : Asking) : Bearers count :=
  { state with asking := Function.update state.asking me asking }

/-- One step of any of the threads. -/
inductive Move : Bearers count → List (Fin count × TokenEvent) → Bearers count → Prop
  | ask (state : Bearers count) (me : Fin count) (idle : state.asking me = .idle) :
      Move state [(me, .asked)] (state.put me .looking)
  | find (state : Bearers count) (me : Fin count) (looking : state.asking me = .looking)
      (stored : state.cells me ≠ nobody) :
      Move state [(me, .answered (state.cells me))] (state.put me .idle)
  | miss (state : Bearers count) (me : Fin count) (looking : state.asking me = .looking)
      (empty : state.cells me = nobody) : Move state [] (state.put me .drawing)
  | draw (state : Bearers count) (me : Fin count) (drawing : state.asking me = .drawing) :
      Move state [(me, .drew state.counter.draw.1)]
        ({ state with counter := state.counter.draw.2 }.put me (.storing state.counter.draw.1))
  | store (state : Bearers count) (me : Fin count) (token : Token)
      (storing : state.asking me = .storing token) :
      Move state [(me, .answered token)]
        ({ state with cells := Function.update state.cells me token }.put me .idle)

section
variable (state : Bearers count) (me : Fin count) (asking : Asking)

@[simp] theorem cells_put : (state.put me asking).cells = state.cells := rfl

@[simp] theorem asking_put : (state.put me asking).asking me = asking := Function.update_self ..

theorem asking_put_of_ne {other : Fin count} (different : other ≠ me) :
    (state.put me asking).asking other = state.asking other :=
  Function.update_of_ne different ..

/-- Only the last point counts, and to stay is to do nothing. -/
theorem put_put (later : Asking) : (state.put me asking).put me later = state.put me later := by
  simp only [put, Function.update_idem]

theorem put_of_eq {asking : Asking} (here : state.asking me = asking) :
    state.put me asking = state := by
  simp only [put, ← here, Function.update_eq_self]

end

/-- The tokens drawn, with their threads, in the order of draws. -/
def draws (history : List (Fin count × TokenEvent)) : List (Fin count × Token) :=
  history.filterMap fun
    | (me, .drew token) => some (me, token)
    | _ => none

/-- The threads that have asked for their token. -/
def askers (history : List (Fin count × TokenEvent)) : Finset (Fin count) :=
  Finset.univ.filter fun me => (me, .asked) ∈ history

def stored? (state : Bearers count) (me : Fin count) : Option Token :=
  if state.cells me = nobody then none else some (state.cells me)

theorem stored?_update (state : Bearers count) (me : Fin count) {token : Token}
    (some : token ≠ nobody) :
    stored? { state with cells := Function.update state.cells me token } me = .some token := by
  simp only [stored?, Function.update_self, some, if_false]

/-- The token a thread has: in its hands, or in its cell. -/
def token? (state : Bearers count) (me : Fin count) : Option Token :=
  (state.asking me).inHand.or (state.stored? me)

theorem token?_put (state : Bearers count) (me : Fin count) (asking : Asking) :
    (state.put me asking).token? me = asking.inHand.or (state.stored? me) := by
  rw [token?, asking_put]
  rfl

theorem token?_of_cell {state : Bearers count} {me : Fin count}
    (empty : ∀ token, state.asking me ≠ .storing token) : state.token? me = state.stored? me := by
  unfold token?
  cases asking : state.asking me with
  | storing token => exact absurd asking (empty token)
  | idle | looking | drawing => rfl

/-- What one thread was told is what it has, and that is what it drew. -/
structure Stands (history : List (Fin count × TokenEvent)) (state : Bearers count)
    (me : Fin count) : Prop where
  drew : ∀ token, (me, .drew token) ∈ history ↔ state.token? me = some token
  told : ∀ token, (me, .answered token) ∈ history ↔ state.cells me = token ∧ token ≠ nobody
  asked : (me, .asked) ∈ history ↔ state.asking me ≠ .idle ∨ state.cells me ≠ nobody
  /-- While it draws, it has nothing in its cell. -/
  drawing : state.asking me = .drawing → state.cells me = nobody
  storing : ∀ token, state.asking me = .storing token →
    state.cells me = nobody ∧ token ≠ nobody

/-- Every thread draws at most once, and the draws are numbered in their order. -/
structure Consistent (history : List (Fin count × TokenEvent)) (state : Bearers count) : Prop where
  numbered : (draws history).map (fun draw => draw.2.toNat) =
    List.range' 1 (draws history).length
  next : state.counter.next.toNat = (draws history).length + 1
  once : ((draws history).map Prod.fst).Nodup
  stands : ∀ me, Stands history state me

theorem mem_draws {history : List (Fin count × TokenEvent)} {me : Fin count} {token : Token} :
    (me, token) ∈ draws history ↔ (me, .drew token) ∈ history := by
  simp only [draws, List.mem_filterMap]
  constructor
  · rintro ⟨⟨other, event⟩, member, same⟩
    cases event with
    | drew =>
      cases same
      exact member
    | asked | answered => cases same
  · intro member
    exact ⟨_, member, rfl⟩

theorem draws_append (early late : List (Fin count × TokenEvent)) :
    draws (early ++ late) = draws early ++ draws late :=
  List.filterMap_append ..

theorem mem_askers {history : List (Fin count × TokenEvent)} {me : Fin count} :
    me ∈ askers history ↔ (me, .asked) ∈ history := by
  simp only [askers, Finset.mem_filter, Finset.mem_univ, true_and]

theorem mem_append_other {history : List (Fin count × TokenEvent)} {me : Fin count}
    {event other : TokenEvent} (different : event ≠ other) :
    (me, event) ∈ history ++ [(me, other)] ↔ (me, event) ∈ history := by
  simp only [List.mem_append, List.mem_singleton, Prod.mk.injEq, different, and_false, or_false]

theorem consistent_start : Consistent [] ({} : Bearers count) where
  numbered := rfl
  next := rfl
  once := List.nodup_nil
  stands me := by constructor <;> simp [token?, stored?, Asking.inHand, eq_comm]

section
variable {history now : List (Fin count × TokenEvent)} {state after : Bearers count}
  {me : Fin count}

/-- A step of one thread leaves the others where they stand. -/
theorem Stands.other {other : Fin count} (stands : Stands history state other)
    (different : other ≠ me) (mine : ∀ event ∈ now, event.1 = me)
    (cell : after.cells other = state.cells other)
    (asking : after.asking other = state.asking other) : Stands (history ++ now) after other := by
  have events (event : TokenEvent) :
      (other, event) ∈ history ++ now ↔ (other, event) ∈ history := by
    rw [List.mem_append, or_iff_left]
    exact fun late => different (mine _ late)
  have token : after.token? other = state.token? other := by
    rw [token?, token?, stored?, stored?, cell, asking]
  obtain ⟨drew, told, asked, drawing, storing⟩ := stands
  constructor
  · intro some
    rw [events, token]
    exact drew some
  · intro some
    rw [events, cell]
    exact told some
  · rw [events, cell, asking]
    exact asked
  · rw [cell, asking]
    exact drawing
  · rw [cell, asking]
    exact storing

/-- The other facts are about draws only. -/
theorem Consistent.quietly (consistent : Consistent history state) (me : Fin count)
    (none : draws now = []) (counter : after.counter = state.counter)
    (mine : ∀ event ∈ now, event.1 = me)
    (cells : ∀ other, other ≠ me → after.cells other = state.cells other)
    (asking : ∀ other, other ≠ me → after.asking other = state.asking other)
    (own : Stands (history ++ now) after me) : Consistent (history ++ now) after := by
  have same : draws (history ++ now) = draws history := by
    rw [draws_append, none, List.append_nil]
  constructor
  · rw [same]
    exact consistent.numbered
  · rw [same, counter]
    exact consistent.next
  · rw [same]
    exact consistent.once
  · intro other
    by_cases here : other = me
    · exact here ▸ own
    · exact (consistent.stands other).other here mine (cells other here) (asking other here)

theorem consistent_ask (consistent : Consistent history state) (idle : state.asking me = .idle) :
    Consistent (history ++ [(me, .asked)]) (state.put me .looking) := by
  obtain ⟨drew, told, -, -, -⟩ := consistent.stands me
  simp only [token?, idle] at drew
  apply consistent.quietly me
  · rfl
  · rfl
  · exact List.forall_mem_singleton.mpr rfl
  · exact fun _ _ => rfl
  · exact fun _ => state.asking_put_of_ne me _
  · constructor
    · intro token
      rw [token?_put]
      exact (mem_append_other (by nofun)).trans (drew token)
    · intro token
      exact (mem_append_other (by nofun)).trans (told token)
    all_goals simp

theorem consistent_find (consistent : Consistent history state)
    (looking : state.asking me = .looking) (stored : state.cells me ≠ nobody) :
    Consistent (history ++ [(me, .answered (state.cells me))]) (state.put me .idle) := by
  obtain ⟨drew, told, asked, -, -⟩ := consistent.stands me
  simp only [token?, looking] at drew
  apply consistent.quietly me
  · rfl
  · rfl
  · exact List.forall_mem_singleton.mpr rfl
  · exact fun _ _ => rfl
  · exact fun _ => state.asking_put_of_ne me _
  · constructor
    · intro token
      rw [token?_put]
      exact (mem_append_other (by nofun)).trans (drew token)
    · intro token
      rw [List.mem_append, or_iff_left_of_imp]
      · exact told token
      · intro last
        cases List.mem_singleton.mp last
        exact (told _).mpr ⟨rfl, stored⟩
    · simpa [looking, stored] using asked
    all_goals simp

theorem consistent_miss (consistent : Consistent history state)
    (looking : state.asking me = .looking) (empty : state.cells me = nobody) :
    Consistent (history ++ []) (state.put me .drawing) := by
  obtain ⟨drew, told, asked, -, -⟩ := consistent.stands me
  simp only [token?, looking] at drew
  apply consistent.quietly me
  · rfl
  · rfl
  · exact fun _ none => absurd none List.not_mem_nil
  · exact fun _ _ => rfl
  · exact fun _ => state.asking_put_of_ne me _
  · rw [List.append_nil]
    constructor
    · intro token
      rw [token?_put]
      exact drew token
    · exact told
    · simpa [looking] using asked
    · exact fun _ => empty
    · simp

/-- A thread that is about to draw has not drawn yet, so there are fewer draws than threads. -/
theorem draws_lt (consistent : Consistent history state) (drawing : state.asking me = .drawing) :
    me ∉ (draws history).map Prod.fst ∧ (draws history).length < count := by
  have new : me ∉ (draws history).map Prod.fst := by
    intro member
    obtain ⟨⟨drawer, token⟩, drew, rfl⟩ := List.mem_map.mp member
    have stands := consistent.stands drawer
    have has := (stands.drew token).mp (mem_draws.mp drew)
    rw [token?, drawing, stored?, if_pos (stands.drawing drawing)] at has
    cases has
  refine ⟨new, ?_⟩
  have most := (List.nodup_cons.mpr ⟨new, consistent.once⟩).length_le_card
  rwa [List.length_cons, List.length_map, Fintype.card_fin] at most

theorem consistent_draw (consistent : Consistent history state) (few : count < 2 ^ 64 - 1)
    (drawing : state.asking me = .drawing) :
    Consistent (history ++ [(me, .drew state.counter.draw.1)])
      ({ state with counter := state.counter.draw.2 }.put me
        (.storing state.counter.draw.1)) := by
  obtain ⟨new, less⟩ := draws_lt consistent drawing
  obtain ⟨numbered, next, once, stands⟩ := consistent
  have drawn : state.counter.draw.1.toNat = (draws history).length + 1 := next
  have one : draws (history ++ [(me, .drew state.counter.draw.1)]) =
      draws history ++ [(me, state.counter.draw.1)] := draws_append ..
  have length : (draws history ++ [(me, state.counter.draw.1)]).length =
      (draws history).length + 1 := List.length_append
  constructor
  · rw [one, length, List.map_append, numbered, List.range'_1_concat, List.map_singleton, drawn,
      Nat.add_comm 1]
  · rw [one, length]
    change (state.counter.next + 1).toNat = _
    rw [UInt64.toNat_add, next]
    exact Nat.mod_eq_of_lt (by simp only [UInt64.toNat_one]; omega)
  · rw [one, List.map_append, List.nodup_append]
    refine ⟨once, List.nodup_singleton me, ?_⟩
    rintro drawer member other last rfl
    obtain rfl : drawer = me := List.mem_singleton.mp last
    exact new member
  · intro other
    by_cases here : other = me
    · subst here
      obtain ⟨drew, told, asked, empty, -⟩ := stands other
      have none : state.cells other = nobody := empty drawing
      have some : state.counter.draw.1 ≠ nobody := by
        intro zero
        rw [zero] at drawn
        cases drawn
      have nothing (token : Token) : (other, .drew token) ∉ history := by
        intro member
        exact new (List.mem_map_of_mem (mem_draws.mpr member))
      constructor
      · intro token
        rw [token?_put, List.mem_append, or_iff_right (nothing token), List.mem_singleton]
        simp [Asking.inHand, eq_comm]
      · intro token
        exact (mem_append_other (by nofun)).trans (told token)
      · simpa [drawing] using asked
      · simp
      · intro token storing
        rw [asking_put] at storing
        cases storing
        exact ⟨none, some⟩
    · exact (stands other).other here (List.forall_mem_singleton.mpr rfl) rfl
        (asking_put_of_ne _ me _ here)

theorem consistent_store (consistent : Consistent history state) {token : Token}
    (storing : state.asking me = .storing token) :
    Consistent (history ++ [(me, .answered token)])
      ({ state with cells := Function.update state.cells me token }.put me .idle) := by
  obtain ⟨drew, told, asked, -, held⟩ := consistent.stands me
  obtain ⟨empty, some⟩ := held token storing
  apply consistent.quietly me
  · rfl
  · rfl
  · exact List.forall_mem_singleton.mpr rfl
  · exact fun other different => Function.update_of_ne different ..
  · exact fun other different => asking_put_of_ne _ me _ different
  · constructor
    · intro other
      refine (mem_append_other (by nofun)).trans ((drew other).trans ?_)
      rw [token?, token?_put, storing, stored?_update state me some]
      rfl
    · intro other
      -- nothing was told before, since the cell was empty
      have untold : (me, .answered other) ∉ history := by
        intro member
        obtain ⟨here, other⟩ := (told other).mp member
        exact other (here.symm.trans empty)
      simp only [List.mem_append, untold, false_or, cells_put, Function.update_self,
        List.mem_singleton]
      constructor
      · intro same
        cases same
        exact ⟨rfl, some⟩
      · rintro ⟨rfl, -⟩
        rfl
    · simpa [storing, some] using asked
    all_goals simp

theorem consistent_move (few : count < 2 ^ 64 - 1) (consistent : Consistent history state)
    (move : Move state now after) : Consistent (history ++ now) after := by
  cases move with
  | ask me idle => exact consistent_ask consistent idle
  | find me looking stored => exact consistent_find consistent looking stored
  | miss me looking empty => exact consistent_miss consistent looking empty
  | draw me drawing => exact consistent_draw consistent few drawing
  | store me token storing => exact consistent_store consistent storing

end

theorem consistent_of_runs (few : count < 2 ^ 64 - 1) {history : List (Fin count × TokenEvent)}
    {last : Bearers count} (run : Runs Move {} history last) : Consistent history last := by
  generalize start : ({} : Bearers count) = first at run
  induction run with
  | start => exact start ▸ consistent_start
  | next _ move ih => exact consistent_move few ih move

/-- A call that nobody interrupts. -/
def ask (state : Bearers count) (me : Fin count) : Token × Bearers count :=
  let (token, counter) := state.counter.current (state.cells me)
  (token, { state with counter, cells := Function.update state.cells me token })

/-- It is a run of single steps, and one way to interleave them. -/
theorem runs_ask (state : Bearers count) (me : Fin count) (idle : state.asking me = .idle) :
    ∃ history, Runs Move state history (state.ask me).2 ∧
      ∀ token, (me, .answered token) ∈ history ↔ token = (state.ask me).1 := by
  have asked : Runs Move state [(me, .asked)] (state.put me .looking) := .one (.ask state me idle)
  by_cases stored : state.cells me = nobody
  · have missed : Runs Move state [(me, .asked)] (state.put me .drawing) := by
      rw [← state.put_put me .looking]
      exact asked.next (.miss _ me (asking_put ..) stored)
    let after : Bearers count := { state with counter := state.counter.draw.2 }
    have drew : Runs Move state [(me, .asked), (me, .drew state.counter.draw.1)]
        (after.put me (.storing state.counter.draw.1)) := by
      rw [← after.put_put me .drawing]
      exact missed.next (.draw _ me (asking_put ..))
    let held : Bearers count :=
      { after with cells := Function.update state.cells me state.counter.draw.1 }
    have answered : Runs Move state [(me, .asked), (me, .drew state.counter.draw.1),
        (me, .answered state.counter.draw.1)] held := by
      have back : (held.put me (.storing state.counter.draw.1)).put me .idle = held := by
        rw [put_put, put_of_eq held me idle]
      rw [← back]
      exact drew.next (.store _ me _ (asking_put ..))
    have last : state.ask me = (state.counter.draw.1, held) := by
      simp only [ask, TokenCounter.current, stored, if_true, held, after]
    rw [last]
    exact ⟨_, answered, fun token => by simp⟩
  · have last : state.ask me = (state.cells me, state) := by
      simp only [ask, TokenCounter.current, stored, if_false, Function.update_eq_self]
    have found := asked.next (.find _ me (asking_put ..) stored)
    rw [put_put, put_of_eq state me idle] at found
    rw [last]
    exact ⟨_, found, fun token => by simp⟩

section
variable {history : List (Fin count × TokenEvent)} {state : Bearers count}

/-- No token is drawn twice. -/
theorem drew_once (consistent : Consistent history state) {me you : Fin count} {token : Token}
    (mine : (me, .drew token) ∈ history) (yours : (you, .drew token) ∈ history) : me = you := by
  have distinct : ((draws history).map fun draw => draw.2.toNat).Nodup := by
    rw [consistent.numbered]
    exact List.nodup_range'
  have same := List.inj_on_of_nodup_map distinct (mem_draws.mpr mine) (mem_draws.mpr yours) rfl
  exact congrArg Prod.fst same

/-- What a thread is told is what it drew. -/
theorem drew_of_answered (consistent : Consistent history state) {me : Fin count} {token : Token}
    (answered : (me, .answered token) ∈ history) : (me, .drew token) ∈ history := by
  obtain ⟨drew, told, -, -, held⟩ := consistent.stands me
  obtain ⟨cell, some⟩ := (told token).mp answered
  apply (drew token).mpr
  have empty (other : Token) : state.asking me ≠ .storing other := by
    intro asking
    exact some (cell.symm.trans (held other asking).1)
  rw [token?_of_cell empty, stored?, cell, if_neg some]

/-- Once its call is over, it has been told. -/
theorem answered_of_drew (consistent : Consistent history state) {me : Fin count} {token : Token}
    (drew : (me, .drew token) ∈ history) (idle : state.asking me = .idle) :
    (me, .answered token) ∈ history := by
  have stands := consistent.stands me
  have has := (stands.drew token).mp drew
  rw [token?, idle, stored?] at has
  apply (stands.told token).mpr
  by_cases empty : state.cells me = nobody
  · rw [if_pos empty] at has
    cases has
  · rw [if_neg empty] at has
    obtain ⟨⟩ := has
    exact ⟨rfl, empty⟩

theorem asked_of_drew (consistent : Consistent history state) {me : Fin count} {token : Token}
    (drew : (me, .drew token) ∈ history) : (me, .asked) ∈ history := by
  have stands := consistent.stands me
  by_cases idle : state.asking me = .idle
  · obtain ⟨rfl, some⟩ := (stands.told token).mp (answered_of_drew consistent drew idle)
    exact stands.asked.mpr (.inr some)
  · exact stands.asked.mpr (.inl idle)

/-- There is one draw for each thread that has asked and has a token. -/
theorem length_draws (consistent : Consistent history state) :
    (draws history).length =
      ((askers history).filter fun me => (state.token? me).isSome).card := by
  have same : ((draws history).map Prod.fst).toFinset =
      (askers history).filter fun me => (state.token? me).isSome := by
    ext me
    rw [List.mem_toFinset, List.mem_map, Finset.mem_filter, mem_askers, Option.isSome_iff_exists]
    constructor
    · rintro ⟨⟨drawer, token⟩, member, rfl⟩
      have drew := mem_draws.mp member
      exact ⟨asked_of_drew consistent drew, token, ((consistent.stands drawer).drew token).mp drew⟩
    · rintro ⟨-, token, has⟩
      exact ⟨(me, token), mem_draws.mpr (((consistent.stands me).drew token).mpr has), rfl⟩
  rw [← same, List.toFinset_card_of_nodup consistent.once, List.length_map]

/-- When no call is under way, whoever has asked has a token. -/
theorem length_draws_of_resting (consistent : Consistent history state)
    (resting : ∀ me, state.asking me = .idle) :
    (draws history).length = (askers history).card := by
  rw [length_draws consistent, Finset.filter_true_of_mem]
  intro me asked
  have stored : state.cells me ≠ nobody :=
    ((consistent.stands me).asked.mp (mem_askers.mp asked)).resolve_left fun busy =>
      busy (resting me)
  rw [token?, resting, stored?, if_neg stored]
  rfl

end

/-- Tokens identify threads, however their calls are interleaved: a thread is always told the same,
never that it is nobody, and never what another thread is told. The tokens drawn are numbered from
one on, one for each thread that has asked and got that far; so once no call is under way, what the
threads were told are the numbers up to that of the threads that have asked. A call that nobody
interrupts is one of these interleavings. -/
theorem tokens_identify_threads {count : Nat} (few : count < 2 ^ 64 - 1)
    {history : List (Fin count × TokenEvent)} {last : Bearers count}
    (run : Runs Move {} history last) :
    (∀ me one other, (me, .answered one) ∈ history → (me, .answered other) ∈ history →
      one = other) ∧
    (∀ me token, (me, .answered token) ∈ history → token ≠ nobody) ∧
    (∀ me you token, (me, .answered token) ∈ history → (you, .answered token) ∈ history →
      me = you) ∧
    (draws history).map (fun draw => draw.2.toNat) =
      List.range' 1 ((askers history).filter fun me => (last.token? me).isSome).card ∧
    ((∀ me, last.asking me = .idle) → ∀ value,
      (∃ me token, (me, .answered token) ∈ history ∧ token.toNat = value) ↔
        1 ≤ value ∧ value ≤ (askers history).card) ∧
    ∀ me, last.asking me = .idle → ∃ calls, Runs Move last calls (last.ask me).2 ∧
      ∀ token, (me, .answered token) ∈ calls ↔ token = (last.ask me).1 := by
  have consistent := consistent_of_runs few run
  refine ⟨?_, ?_, ?_, ?_, ?_, last.runs_ask⟩
  · intro me one other first second
    have told := (consistent.stands me).told
    exact ((told one).mp first).1.symm.trans ((told other).mp second).1
  · intro me token answered
    exact (((consistent.stands me).told token).mp answered).2
  · intro me you token mine yours
    exact drew_once consistent (drew_of_answered consistent mine)
      (drew_of_answered consistent yours)
  · rw [← length_draws consistent]
    exact consistent.numbered
  · intro resting value
    rw [← length_draws_of_resting consistent resting]
    have numbers : value ∈ (draws history).map (fun draw => draw.2.toNat) ↔
        1 ≤ value ∧ value < 1 + (draws history).length := by
      rw [consistent.numbered, List.mem_range'_1]
    rw [Nat.add_comm 1, Nat.lt_add_one_iff, List.mem_map] at numbers
    rw [← numbers]
    constructor
    · rintro ⟨me, token, answered, same⟩
      exact ⟨(me, token), mem_draws.mpr (drew_of_answered consistent answered), same⟩
    · rintro ⟨⟨me, token⟩, drew, same⟩
      exact ⟨me, token, answered_of_drew consistent (mem_draws.mp drew) (resting me), same⟩

/-- Two threads find their cells empty before either of them draws. -/
theorem tokens_identify_threads_interleaved :
    let history : List (Fin 2 × TokenEvent) :=
      [(0, .asked), (1, .asked), (1, .drew 1), (0, .drew 2), (0, .answered 2), (1, .answered 1),
        (0, .asked), (0, .answered 2)]
    ∃ last, Runs Move {} history last ∧ (∀ me, last.asking me = .idle) ∧
      ∀ value, (∃ me token, (me, .answered token) ∈ history ∧ token.toNat = value) ↔
        1 ≤ value ∧ value ≤ 2 := by
  intro history
  have begins : Runs Move ({} : Bearers 2) [] {} := .start _
  have asked := (begins.next (.ask _ 0 rfl)).next (.ask _ 1 rfl)
  have missed := (asked.next (.miss _ 0 rfl rfl)).next (.miss _ 1 rfl rfl)
  have drew := (missed.next (.draw _ 1 rfl)).next (.draw _ 0 rfl)
  have stored := (drew.next (.store _ 0 2 rfl)).next (.store _ 1 1 rfl)
  have run := (stored.next (.ask _ 0 rfl)).next (.find _ 0 rfl (by decide))
  have numbers := (tokens_identify_threads (by decide) run).2.2.2.2.1
  refine ⟨_, run, ?resting, numbers ?resting⟩
  intro me
  match me with
  | 0 => rfl
  | 1 => rfl

end Bearers
end ManagedRuntime
