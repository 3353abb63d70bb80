import ManagedRuntime.Proofs.Exception.Writers

/-! The report on an uncaught exception as a text. An outlet without a limit takes all of it, and
its first line is the one that names the thread. -/
namespace ManagedRuntime.Exception

namespace Outlet

theorem accepted_le (outlet : Outlet) (count : Nat) : outlet.accepted count ≤ count := by
  unfold accepted
  split <;> omega

theorem accepted_le_room {outlet : Outlet} {room : Nat} (limited : outlet.room = some room)
    (count : Nat) : outlet.accepted count ≤ room := by
  simp only [accepted, limited]
  omega

theorem accepted_pos {outlet : Outlet} (space : outlet.room ≠ some 0) (count : Nat) :
    0 < outlet.accepted (count + 1) := by
  unfold accepted
  split
  · omega
  · next room limited =>
    have some : room ≠ 0 := fun none => space (none ▸ limited)
    omega

/-- An outlet takes what it has room for. -/
def limit : writer.Limit where
  taken := taken
  room := room
  takes := by
    intro outlet byte rest space
    have within := outlet.accepted_le (rest.length + 1)
    have least := accepted_pos space rest.length
    obtain ⟨count, accepts⟩ := Nat.exists_eq_add_one_of_ne_zero (Nat.ne_of_gt least)
    have length : ((byte :: rest).take (count + 1)).length = count + 1 := by
      rw [List.length_take, List.length_cons]
      omega
    refine ⟨count, outlet.take ((byte :: rest).take (count + 1)), ?_, by omega, ?_, rfl, ?_⟩
    · simp only [writer, write, space, if_false, List.length_cons, accepts]
    · intro left limited
      have fits := accepted_le_room limited (rest.length + 1)
      omega
    · simp only [take, length]
  fails outlet byte rest full := by
    simp [writer, write, full, Writer.failure]

theorem portion_write (outlet : Outlet) (bytes : List UInt8) :
    (writer.write outlet bytes).2.portion = outlet.portion := by
  simp only [writer, write]
  split <;> rfl

end Outlet

theorem utf8_join (pieces : List String) :
    utf8 (String.join pieces) = (pieces.map utf8).flatten := by
  induction pieces with
  | nil => rfl
  | cons piece rest ih =>
    rw [String.join_cons, List.map_cons, List.flatten_cons, ← ih]
    simp [utf8]

/-- What the first line says. -/
def headline : Option String → String
  | some name => "Exception in thread \"" ++ name ++ "\""
  | none => "Exception in unknown thread"

def reportLines (symbols : Symbols) (name : Option String) (record : ExceptionRecord) :
    List String :=
  headline name :: record.backtrace.map (frameLine symbols)

/-- The lines one after the other, each with its end. -/
def textOf (lines : List String) : String := String.join (lines.map (· ++ "\n"))

/-- The line that names the thread. -/
def headerLine (name : Option String) : String := String.join (reportHeader name)

theorem headerLine_some (name : String) :
    headerLine (some name) = "Exception in thread \"" ++ name ++ "\"\n" := by
  simp only [headerLine, reportHeader, String.join_cons, String.join_nil, String.append_empty,
    String.append_assoc]

theorem headerLine_none : headerLine none = "Exception in unknown thread\n" := by
  have single : reportHeader none = ["Exception in unknown thread\n"] := rfl
  rw [headerLine, single, String.join_cons, String.join_nil, String.append_empty]

theorem headerLine_eq (name : Option String) : headerLine name = headline name ++ "\n" := by
  cases name with
  | none =>
    have first : headline none = "Exception in unknown thread" := rfl
    rw [headerLine_none, first]
    rfl
  | some name =>
    have first : headline (some name) = "Exception in thread \"" ++ name ++ "\"" := rfl
    have ended : "\"" ++ "\n" = "\"\n" := rfl
    rw [headerLine_some, first, ← ended]
    exact String.append_assoc.symm

theorem join_reportPieces (symbols : Symbols) (name : Option String) (record : ExceptionRecord) :
    String.join (reportPieces symbols name record) = textOf (reportLines symbols name record) := by
  have lines (frames : List UInt64) :
      String.join (frames.flatMap fun frame => [frameLine symbols frame, "\n"]) =
        textOf (frames.map (frameLine symbols)) := by
    induction frames with
    | nil => rfl
    | cons frame rest ih =>
      simp only [textOf, List.flatMap_cons, List.map_cons, String.join_append, String.join_cons,
        String.join_nil, String.append_empty] at ih ⊢
      rw [ih]
  rw [reportPieces, String.join_append, lines]
  change headerLine name ++ _ = _
  rw [headerLine_eq]
  simp only [reportLines, textOf, List.map_cons, String.join_cons]

/-- The line that names the thread and one line for every frame. -/
def reportText (name : Option String) (record : ExceptionRecord) : String :=
  headerLine name ++
    String.join (record.backtrace.map fun frame => frameLine noSymbols frame ++ "\n")

theorem textOf_reportLines (name : Option String) (record : ExceptionRecord) :
    textOf (reportLines noSymbols name record) = reportText name record := by
  simp only [textOf, reportLines, List.map_cons, List.map_map, String.join_cons, reportText,
    headerLine_eq]
  rfl

/-- A writer with a limit takes as much of a report as it has room for. -/
theorem report_delivers {writer : Writer ω ε} (limit : writer.Limit) (symbols : Symbols)
    (name : Option String) (record : ExceptionRecord) (place : ω) :
    limit.Delivers place (utf8 (textOf (reportLines symbols name record)))
      (writer.report symbols name record place) := by
  rw [← join_reportPieces, utf8_join]
  exact limit.writePieces_delivers place _

/-- Nothing of a report is lost on an error stream without a limit. -/
theorem report_unlimited (name : Option String) (record : ExceptionRecord) :
    report {} name record = (true, { taken := utf8 (reportText name record) }) := by
  have delivered := report_delivers Outlet.limit noSymbols name record {}
  have portion := Writer.writePieces_keeps Outlet.portion Outlet.portion_write {}
    ((reportPieces noSymbols name record).map utf8)
  unfold report
  rw [textOf_reportLines] at delivered
  change (Outlet.writer.report noSymbols name record {}).2.portion = _ at portion
  generalize Outlet.writer.report noSymbols name record {} = result at delivered portion
  cases delivered with
  | whole after fits taken room =>
    obtain ⟨bytes, left, portion⟩ := after
    obtain rfl : bytes = [] ++ _ := taken
    obtain rfl : left = none := room
    cases portion
    rfl
  | part after fault room limited => cases limited

end ManagedRuntime.Exception
