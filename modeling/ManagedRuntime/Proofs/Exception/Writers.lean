import ManagedRuntime.Exception.Report

/-! Writing piece by piece. A writer with a limit takes of several pieces what it would take of them
all at once: everything if there is room for it, and otherwise as much as there is room for. No
writer is asked again once a write has failed. -/
namespace ManagedRuntime.Exception

/-- A write that was asked for, and the answer. -/
structure Attempt (ε : Type) where
  offered : List UInt8
  answer : Except ε Nat

namespace Writer

/-- How a write failed, if it did. -/
def failure (writer : Writer ω ε) : Except ε Nat → Option ε
  | .error fault => some fault
  | .ok 0 => some writer.stuck
  | .ok (_ + 1) => none

/-- The same writer, with a list of all writes it was asked for. -/
def observed (writer : Writer ω ε) : Writer (ω × List (Attempt ε)) ε where
  write seen bytes :=
    let (answer, place) := writer.write seen.1 bytes
    (answer, place, seen.2 ++ [⟨bytes, answer⟩])
  stuck := writer.stuck

/-- Every write took something, or the last one failed and its failure is the result. -/
inductive Tried (writer : Writer ω ε) : Except ε Unit → List (Attempt ε) → Prop
  | whole (attempts : List (Attempt ε))
      (fine : ∀ attempt ∈ attempts, writer.failure attempt.answer = none) :
      Tried writer (.ok ()) attempts
  | part (early : List (Attempt ε)) (last : Attempt ε) (fault : ε)
      (fine : ∀ attempt ∈ early, writer.failure attempt.answer = none)
      (fails : writer.failure last.answer = some fault) :
      Tried writer (.error fault) (early ++ [last])

/-- Under observation the same is written, and what was asked for is added to the list. -/
structure Observes (writer : Writer ω ε) (log : List (Attempt ε)) (plain : Except ε Unit × ω)
    (seen : Except ε Unit × ω × List (Attempt ε)) : Prop where
  result : seen.1 = plain.1
  place : seen.2.1 = plain.2
  tried : ∃ attempts, seen.2.2 = log ++ attempts ∧ writer.Tried plain.1 attempts

variable {writer : Writer ω ε}

theorem Tried.early {early late : List (Attempt ε)} {result : Except ε Unit}
    (fine : ∀ attempt ∈ early, writer.failure attempt.answer = none)
    (tried : writer.Tried result late) : writer.Tried result (early ++ late) := by
  cases tried with
  | whole _ further =>
    apply Tried.whole
    intro attempt member
    exact (List.mem_append.mp member).elim (fine attempt) (further attempt)
  | part middle last fault further fails =>
    rw [← List.append_assoc]
    apply Tried.part _ last fault _ fails
    intro attempt member
    exact (List.mem_append.mp member).elim (fine attempt) (further attempt)

/-- What follows pieces that were all taken. -/
theorem Observes.append {log : List (Attempt ε)} {middle : ω} {plain : Except ε Unit × ω}
    {first : Except ε Unit × ω × List (Attempt ε)}
    (rest : ω × List (Attempt ε) → Except ε Unit × ω × List (Attempt ε))
    (early : writer.Observes log (.ok (), middle) first)
    (late : ∀ log, writer.Observes log plain (rest (middle, log))) :
    writer.Observes log plain (rest first.2) := by
  obtain ⟨-, reached, attempts, noted, tried⟩ := early
  obtain ⟨result, place, further, added, triedLater⟩ := late first.2.2
  have here : first.2 = (middle, first.2.2) := Prod.ext reached rfl
  rw [here]
  refine ⟨result, place, attempts ++ further, ?_, ?_⟩
  · rw [added, noted, List.append_assoc]
  · cases tried with
    | whole _ fine => exact triedLater.early fine

theorem write_observed {place after : ω} {bytes : List UInt8} {answer : Except ε Nat}
    (answered : writer.write place bytes = (answer, after)) (log : List (Attempt ε)) :
    writer.observed.write (place, log) bytes = (answer, after, log ++ [⟨bytes, answer⟩]) := by
  simp only [observed, answered]

theorem writeAll_observed (place : ω) (bytes : List UInt8) (log : List (Attempt ε)) :
    writer.Observes log (writer.writeAll place bytes)
      (writer.observed.writeAll (place, log) bytes) := by
  fun_induction writer.writeAll place bytes generalizing log with
  | case1 place =>
    rw [writeAll]
    exact ⟨rfl, rfl, [], (List.append_nil log).symm, .whole [] nofun⟩
  | case2 place byte rest fault after answered =>
    rw [writeAll, write_observed answered]
    exact ⟨rfl, rfl, [⟨byte :: rest, .error fault⟩], rfl, .part [] _ fault nofun rfl⟩
  | case3 place byte rest after answered =>
    rw [writeAll, write_observed answered]
    exact ⟨rfl, rfl, [⟨byte :: rest, .ok 0⟩], rfl, .part [] _ writer.stuck nofun rfl⟩
  | case4 place byte rest count after answered ih =>
    rw [writeAll, write_observed answered]
    obtain ⟨result, reached, attempts, added, tried⟩ :=
      ih (log ++ [⟨byte :: rest, .ok (count + 1)⟩])
    refine ⟨result, reached, [⟨byte :: rest, .ok (count + 1)⟩] ++ attempts, ?_, ?_⟩
    · exact added.trans (List.append_assoc ..)
    · apply tried.early
      intro attempt member
      obtain rfl := List.mem_singleton.mp member
      rfl

theorem writePieces_observed (place : ω) (pieces : List (List UInt8)) (log : List (Attempt ε)) :
    writer.Observes log (writer.writePieces place pieces)
      (writer.observed.writePieces (place, log) pieces) := by
  induction pieces generalizing place log with
  | nil => exact ⟨rfl, rfl, [], (List.append_nil log).symm, .whole [] nofun⟩
  | cons piece rest ih =>
    have first : writer.Observes log (writer.writeAll place piece)
        (writer.observed.writeAll (place, log) piece) := writeAll_observed place piece log
    rcases plain : writer.writeAll place piece with ⟨result, middle⟩
    rcases seen : writer.observed.writeAll (place, log) piece with ⟨same, reached⟩
    rw [plain, seen] at first
    obtain rfl : same = result := first.result
    simp only [writePieces, plain, seen]
    cases same with
    | error fault => exact first
    | ok => exact first.append (writer.observed.writePieces · rest) (ih middle)

/-- Whatever each write leaves alone, writing in pieces leaves alone. -/
theorem writeAll_keeps (measure : ω → α)
    (keeps : ∀ place bytes, measure (writer.write place bytes).2 = measure place) (place : ω)
    (bytes : List UInt8) : measure (writer.writeAll place bytes).2 = measure place := by
  fun_induction writer.writeAll place bytes with
  | case1 => rfl
  | case2 place byte rest fault after answered =>
    have kept := keeps place (byte :: rest)
    rwa [answered] at kept
  | case3 place byte rest after answered =>
    have kept := keeps place (byte :: rest)
    rwa [answered] at kept
  | case4 place byte rest count after answered ih =>
    have kept := keeps place (byte :: rest)
    rw [answered] at kept
    exact ih.trans kept

theorem writePieces_keeps (measure : ω → α)
    (keeps : ∀ place bytes, measure (writer.write place bytes).2 = measure place) (place : ω)
    (pieces : List (List UInt8)) :
    measure (writer.writePieces place pieces).2 = measure place := by
  induction pieces generalizing place with
  | nil => rfl
  | cons piece rest ih =>
    have kept := writeAll_keeps measure keeps place piece
    rcases plain : writer.writeAll place piece with ⟨result, middle⟩
    rw [plain] at kept
    simp only [writePieces, plain]
    cases result with
    | error fault => exact kept
    | ok => exact (ih middle).trans kept

/-- A writer that takes bytes up to a limit, in portions of its own choice, and then fails. -/
structure Limit (writer : Writer ω ε) where
  taken : ω → List UInt8
  /-- How many bytes it still takes, unless it takes any number of them. -/
  room : ω → Option Nat
  takes : ∀ place byte rest, room place ≠ some 0 → ∃ count after,
    writer.write place (byte :: rest) = (.ok (count + 1), after) ∧ count ≤ rest.length ∧
      (∀ left, room place = some left → count < left) ∧
      taken after = taken place ++ (byte :: rest).take (count + 1) ∧
      room after = (room place).map (· - (count + 1))
  fails : ∀ place byte rest, room place = some 0 →
    (writer.failure (writer.write place (byte :: rest)).1).isSome ∧
      taken (writer.write place (byte :: rest)).2 = taken place

namespace Limit

/-- What becomes of bytes that are to be written. -/
inductive Delivers (limit : writer.Limit) (place : ω) (bytes : List UInt8) :
    Except ε Unit × ω → Prop
  | whole (after : ω) (fits : ∀ room, limit.room place = some room → bytes.length ≤ room)
      (taken : limit.taken after = limit.taken place ++ bytes)
      (room : limit.room after = (limit.room place).map (· - bytes.length)) :
      Delivers limit place bytes (.ok (), after)
  | part (after : ω) (fault : ε) (room : Nat) (limited : limit.room place = some room)
      (short : room < bytes.length)
      (taken : limit.taken after = limit.taken place ++ bytes.take room) :
      Delivers limit place bytes (.error fault, after)

variable {limit : writer.Limit} {place middle after : ω} {first rest : List UInt8}

theorem Delivers.append {result : Except ε Unit × ω}
    (early : limit.Delivers place first (.ok (), middle))
    (late : limit.Delivers middle rest result) : limit.Delivers place (first ++ rest) result := by
  cases early with
  | whole _ fits taken room =>
    cases late with
    | whole after fitsToo takenToo roomToo =>
      apply Delivers.whole
      · intro left limited
        have enough := fits left limited
        rw [limited, Option.map_some] at room
        have more := fitsToo _ room
        rw [List.length_append]
        omega
      · rw [takenToo, taken, List.append_assoc]
      · rw [roomToo, room, Option.map_map, List.length_append]
        congr 1
        funext left
        exact Nat.sub_sub ..
    | part after fault left limited short takenToo =>
      obtain ⟨whole, limitedBefore, rfl⟩ := Option.map_eq_some_iff.mp (room.symm.trans limited)
      have enough := fits whole limitedBefore
      apply Delivers.part after fault whole limitedBefore
      · rw [List.length_append]
        omega
      · rw [takenToo, taken, List.append_assoc, List.take_append, List.take_of_length_le enough]

theorem Delivers.cut {fault : ε} (failed : limit.Delivers place first (.error fault, after)) :
    limit.Delivers place (first ++ rest) (.error fault, after) := by
  cases failed with
  | part _ _ room limited short taken =>
    apply Delivers.part after fault room limited
    · rw [List.length_append]
      omega
    · rw [taken, List.take_append_of_le_length (Nat.le_of_lt short)]

theorem writeAll_delivers (limit : writer.Limit) (place : ω) (bytes : List UInt8) :
    limit.Delivers place bytes (writer.writeAll place bytes) := by
  have failed {place after : ω} {byte : UInt8} {rest : List UInt8} {answer : Except ε Nat}
      {fault : ε} (answered : writer.write place (byte :: rest) = (answer, after))
      (fails : writer.failure answer = some fault) :
      limit.Delivers place (byte :: rest) (.error fault, after) := by
    by_cases full : limit.room place = some 0
    · obtain ⟨-, taken⟩ := limit.fails place byte rest full
      rw [answered] at taken
      apply Delivers.part after fault 0 full (by simp only [List.length_cons, Nat.zero_lt_succ])
      rw [List.take_zero, List.append_nil]
      exact taken
    · obtain ⟨count, later, succeeds, -⟩ := limit.takes place byte rest full
      obtain ⟨rfl, -⟩ := Prod.mk.inj (answered.symm.trans succeeds)
      cases fails
  fun_induction writer.writeAll place bytes with
  | case1 place =>
    apply Delivers.whole place (fun _ _ => Nat.zero_le _) (List.append_nil _).symm
    cases limit.room place <;> rfl
  | case2 place byte rest fault after answered => exact failed answered rfl
  | case3 place byte rest after answered => exact failed answered rfl
  | case4 place byte rest count after answered ih =>
    have space : limit.room place ≠ some 0 := by
      intro full
      have fails := (limit.fails place byte rest full).1
      rw [answered] at fails
      cases fails
    obtain ⟨taking, later, succeeds, within, fits, taken, room⟩ :=
      limit.takes place byte rest space
    obtain ⟨same, rfl⟩ := Prod.mk.inj (answered.symm.trans succeeds)
    obtain rfl : count = taking := Nat.succ.inj (Except.ok.inj same)
    have length : ((byte :: rest).take (count + 1)).length = count + 1 := by
      rw [List.length_take, List.length_cons]
      omega
    have first : limit.Delivers place ((byte :: rest).take (count + 1)) (.ok (), after) := by
      apply Delivers.whole after
      · rw [length]
        exact fits
      · exact taken
      · rw [length]
        exact room
    have both := first.append ih
    rwa [List.take_append_drop] at both

theorem writePieces_delivers (limit : writer.Limit) (place : ω) (pieces : List (List UInt8)) :
    limit.Delivers place pieces.flatten (writer.writePieces place pieces) := by
  induction pieces generalizing place with
  | nil =>
    apply Delivers.whole place (fun _ _ => Nat.zero_le _) (List.append_nil _).symm
    cases limit.room place <;> rfl
  | cons piece rest ih =>
    have first := limit.writeAll_delivers place piece
    rcases plain : writer.writeAll place piece with ⟨result, middle⟩
    rw [plain] at first
    simp only [writePieces, plain, List.flatten_cons]
    cases result with
    | error fault => exact first.cut
    | ok => exact first.append (ih middle)

end Limit
end Writer
end ManagedRuntime.Exception
