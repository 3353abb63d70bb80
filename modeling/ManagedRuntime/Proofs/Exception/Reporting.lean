import ManagedRuntime.Proofs.Exception.Endings
import ManagedRuntime.Proofs.Exception.Report

/-! What is left of a report when its writer fails: the beginning of its text, as far as it was
taken. The record it is about is released afterwards, when the report is made. -/
namespace ManagedRuntime.Exception

/-- Observing a writer changes nothing of a report. -/
theorem report_observed (writer : Writer ω ε) (symbols : Symbols) (name : Option String)
    (record : ExceptionRecord) (place : ω) :
    writer.Observes [] (writer.report symbols name record place)
      (writer.observed.report symbols name record (place, [])) :=
  Writer.writePieces_observed place _ []

/-- A thread that reports an exception tells nothing else and still counts its record, which it
releases in its next step. -/
theorem told_of_report {host : Host ι κ σ} {strand : Strand ι κ} {state : σ} {counts : Counts}
    {record : ExceptionRecord} (reports : (counts, .uncaught record) ∈ strand.told host state) :
    strand.told host state = [(counts, .uncaught record)] ∧
      (strand.step host state).1.counts = counts ∧
      ∀ later, (strand.step host state).1.told host later =
        [(counts.release, .released record)] := by
  cases moves : strand.control.isMoving with
  | false => cases Strand.silent_of_still host state strand moves _ reports
  | true =>
    cases Strand.step_fares host state strand moves with
    | goesOn goesOn => cases goesOn.silent _ reports
    | stops halted stops => cases stops.silent _ reports
    | reports now other early made =>
      obtain ⟨control, kept, -, told⟩ := made
      rw [told] at reports
      cases List.mem_singleton.mp reports
      refine ⟨told, kept, fun later => ?_⟩
      rw [Strand.told_held control, kept]

/-- A report is written as a beginning of its text. A writer that takes `room` bytes in all, in
portions of any size, has got the whole text if that is no longer, and the first `room` bytes of it
otherwise. The report fails with the failure of the only write that failed, and that was the last
one. It leaves alone what single writes leave alone; and a thread that reports a record counts it as
live until the report is made, and releases it in its next step. -/
theorem report_writes_beginning {writer : Writer ω ε} (limit : writer.Limit) (symbols : Symbols)
    (name : Option String) (record : ExceptionRecord) (place : ω) (room : Nat)
    (limited : limit.room place = some room) :
    let text := utf8 (textOf (reportLines symbols name record))
    let made := writer.report symbols name record place
    let seen := writer.observed.report symbols name record (place, [])
    (made.1 = .ok () ↔ text.length ≤ room) ∧
      limit.taken made.2 = limit.taken place ++ text.take room ∧
      seen.1 = made.1 ∧ seen.2.1 = made.2 ∧ writer.Tried made.1 seen.2.2 ∧
      (∀ (α : Type) (measure : ω → α),
        (∀ place bytes, measure (writer.write place bytes).2 = measure place) →
        measure made.2 = measure place) ∧
      ∀ (ι κ σ : Type) (host : Host ι κ σ) (strand : Strand ι κ) (state : σ) (counts : Counts),
        (counts, .uncaught record) ∈ strand.told host state →
        strand.told host state = [(counts, .uncaught record)] ∧
          (strand.step host state).1.counts = counts ∧
          ∀ later, (strand.step host state).1.told host later =
            [(counts.release, .released record)] := by
  intro text made seen
  have delivered : limit.Delivers place text made :=
    report_delivers limit symbols name record place
  obtain ⟨same, reached, attempts, listed, tried⟩ :=
    report_observed writer symbols name record place
  rw [List.nil_append] at listed
  have written : (made.1 = .ok () ↔ text.length ≤ room) ∧
      limit.taken made.2 = limit.taken place ++ text.take room := by
    generalize made = made at delivered
    cases delivered with
    | whole after fits taken =>
      have enough := fits room limited
      rw [List.take_of_length_le enough]
      exact ⟨iff_of_true rfl enough, taken⟩
    | part after fault left limitedTo short taken =>
      obtain rfl := Option.some.inj (limitedTo.symm.trans limited)
      exact ⟨iff_of_false nofun (Nat.not_le_of_lt short), taken⟩
  refine ⟨written.1, written.2, same, reached, listed ▸ tried, ?_, ?_⟩
  · intro α measure keeps
    exact Writer.writePieces_keeps measure keeps place _
  · intro ι κ σ host strand state counts
    exact told_of_report

/-- Two frames, of which one has a name. -/
def reportedRecord : ExceptionRecord := ⟨.null, [0x401000, 0x402000]⟩

def mainSymbols : Symbols := fun frame => if frame = 0x401000 then [none, some "main"] else []

/-- Its only instruction throws, and no region counts. -/
def alwaysThrowing : Host Unit Unit Unit where
  perform counts _ _ state := (.throw .terminate reportedRecord, counts, state)
  signal _ _ state := state

/-- The outlet is full in the middle of the first frame. -/
theorem report_writes_beginning_full :
    let made := Outlet.writer.report mainSymbols (some "main") reportedRecord
      { room := some 40, portion := 6 }
    made.1 ≠ .ok () ∧ made.2.taken = utf8 "Exception in thread \"main\"\n\tat main [0x4" ∧
      made.2.portion = 6 ∧
      Strand.told alwaysThrowing ⟨.run [.act ()], [], {}⟩ () =
        [(⟨0, 1⟩, .uncaught reportedRecord)] ∧
      Strand.told alwaysThrowing ⟨.exiting (some reportedRecord), [], ⟨0, 1⟩⟩ () =
        [(⟨0, 0⟩, .released reportedRecord)] := by
  obtain ⟨whole, taken, -, -, -, keeps, told⟩ := report_writes_beginning Outlet.limit mainSymbols
    (some "main") reportedRecord { room := some 40, portion := 6 } 40 rfl
  have text : (utf8 (textOf (reportLines mainSymbols (some "main") reportedRecord))).take 40 =
      utf8 "Exception in thread \"main\"\n\tat main [0x4" := by
    decide +kernel
  have long : ¬ (utf8 (textOf (reportLines mainSymbols (some "main") reportedRecord))).length ≤
      40 := by
    decide +kernel
  rw [text] at taken
  obtain ⟨reported, -, released⟩ :=
    told _ _ _ alwaysThrowing ⟨.run [.act ()], [], {}⟩ () ⟨0, 1⟩ List.mem_cons_self
  refine ⟨fun ok => long (whole.mp ok), taken, ?_, reported, released ()⟩
  exact keeps Nat Outlet.portion Outlet.portion_write

end ManagedRuntime.Exception
