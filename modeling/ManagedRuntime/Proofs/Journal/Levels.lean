import Mathlib
import ManagedRuntime.Journal.Filter
import ManagedRuntime.Proofs.Lookup

/-! Levels of the log, and what is expected of whoever provides loggers: asked for a level, the
logger is handed the records that the level admits and no others. -/
namespace ManagedRuntime

namespace Threshold

instance : Min Threshold := minOfLe

theorem min_eq_ite (first second : Threshold) :
    min first second = if first ≤ second then first else second := rfl

theorem rank_injective : Function.Injective rank := by
  rintro ⟨first⟩ ⟨second⟩ same
  cases first with
  | none =>
    cases second with
    | none => rfl
    | some severity => cases severity <;> contradiction
  | some severity =>
    cases second with
    | none => cases severity <;> contradiction
    | some other => cases severity <;> cases other <;> first | rfl | contradiction

theorem rank_le_all (threshold : Threshold) : threshold.rank ≤ all.rank := by
  obtain ⟨least⟩ := threshold
  cases least with
  | none => decide
  | some severity => cases severity <;> decide

@[simp] theorem admits_all (severity : Severity) : all.admits severity = true := by
  cases severity <;> rfl

@[simp] theorem min_all (threshold : Threshold) : min threshold all = threshold :=
  if_pos (rank_le_all threshold)

theorem min_eq_right {lower upper : Threshold} (below : lower ≤ upper) :
    min upper lower = lower := by
  rw [min_eq_ite]
  split
  · next above => exact rank_injective (Nat.le_antisymm above below)
  · rfl

theorem min_eq_left {lower upper : Threshold} (below : lower ≤ upper) : min lower upper = lower :=
  if_pos below

theorem admits_of_le {lower upper : Threshold} (below : lower ≤ upper) {severity : Severity}
    (admitted : lower.admits severity = true) : upper.admits severity = true := by
  simp only [admits, decide_eq_true_eq] at admitted ⊢
  exact Nat.le_trans admitted below

theorem admits_min (first second : Threshold) (severity : Severity) :
    (min first second).admits severity = (first.admits severity && second.admits severity) := by
  have total : first ≤ second ∨ second ≤ first := Nat.le_total first.rank second.rank
  rw [min_eq_ite, Bool.eq_iff_iff, Bool.and_eq_true]
  split
  · next below => exact ⟨fun admitted => ⟨admitted, admits_of_le below admitted⟩, And.left⟩
  · next above =>
    have below := total.resolve_left above
    exact ⟨fun admitted => ⟨admits_of_le below admitted, admitted⟩, And.right⟩

/-- Names are told at the last level only. -/
theorem le_debug {level : Threshold} (untraced : level.admits .trace = false) :
    level ≤ ⟨some .debug⟩ := by
  obtain ⟨least⟩ := level
  cases least with
  | none => decide
  | some severity => cases severity <;> first | decide | cases untraced

@[simp] theorem off_max (level : Threshold) : max off level = level := if_pos (Nat.zero_le _)

end Threshold

/-- Writes no more than the level admits. -/
def Threshold.limit (level : Threshold) (write : LogRecord → String) (record : LogRecord) :
    String :=
  if level.admits record.severity then write record else ""

@[simp] theorem Threshold.limit_all (write : LogRecord → String) : all.limit write = write := by
  funext record
  rw [limit, if_pos (admits_all _)]

namespace Logger

/-- The logger that writes no more than the level admits. -/
def limited (logger : Logger) (level : Threshold) : Logger :=
  ⟨min logger.ceiling level, level.limit logger.write⟩

@[simp] theorem limited_all (logger : Logger) : logger.limited .all = logger := by
  simp only [limited, Threshold.min_all, Threshold.limit_all]

end Logger

/-! Variables that ask for a level. -/

def Threshold.name (threshold : Threshold) : String :=
  match threshold.least with
  | none => "off"
  | some severity => Text.lowerCase severity.name

namespace Environment
variable (environment : Environment)

/-- The variable has this value now, and the others have theirs. -/
def put (key value : String) : Environment :=
  ⟨(key, value.toUTF8.data.toList) :: environment.bindings.filter (·.1 != key)⟩

variable {key other : String} (value : String)

theorem bindings_put : (environment.put key value).bindings.lookup other =
    if other = key then some value.toUTF8.data.toList else environment.bindings.lookup other := by
  simp only [put, List.lookup_cons, lookup_filter_ne]
  by_cases same : other = key
  · simp [same]
  · have unequal : (other == key) = false := by simpa using same
    simp [same, unequal]

theorem lookup_put (different : other ≠ key) :
    (environment.put key value).lookup other = environment.lookup other := by
  simp only [lookup, bindings_put, different, if_false]

theorem lookup_put_self : (environment.put key value).lookup key = some value := by
  have read : String.fromUTF8? value.toUTF8 = some value := dif_pos value.isValidUTF8
  simpa only [lookup, bindings_put, if_true, Option.bind_some, Array.toArray_toList] using read

/-- Settings are read from other variables than the log. -/
theorem settings_put : (environment.put Settings.logKey value).settings = environment.settings := by
  have unwind := @lookup_put environment Settings.logKey Settings.unwindKey value (by decide)
  have strict := @lookup_put environment Settings.logKey Settings.strictMonitorsKey value
    (by decide)
  have depth := @lookup_put environment Settings.logKey Settings.backtraceDepthKey value (by decide)
  simp only [settings, Settings.ofLookup, Settings.readKey, unwind, strict, depth]

theorem style_put : LineStyle.ofEnvironment (environment.put Settings.logKey value) =
    LineStyle.ofEnvironment environment := by
  have style := @lookup_put environment Settings.logKey "RUST_LOG_STYLE" value (by decide)
  have filled {key : String} (different : key ≠ Settings.logKey) :
      (environment.put Settings.logKey value).isFilled key = environment.isFilled key := by
    simp only [isFilled, bindings_put, different, if_false]
  simp only [LineStyle.ofEnvironment, style, @filled "NO_COLOR" (by decide),
    @filled "CLICOLOR_FORCE" (by decide)]

end Environment

/-- What is expected of whoever provides loggers, when the variables ask for a level by its name. -/
structure LogBackend.Levelled (backend : LogBackend) : Prop where
  ceiling : ∀ (environment : Environment) (level : Threshold),
    (backend.logger (environment.put Settings.logKey level.name)).ceiling = level
  /-- What is written of a record does not depend on the level, as long as that admits it. -/
  written : ∀ (environment : Environment) (lower upper : Threshold) (record : LogRecord),
    lower.admits record.severity = true → upper.admits record.severity = true →
      (backend.logger (environment.put Settings.logKey lower.name)).write record =
        (backend.logger (environment.put Settings.logKey upper.name)).write record
  dropped : ∀ (environment : Environment) (level : Threshold) (record : LogRecord),
    level.admits record.severity = false →
      (backend.logger (environment.put Settings.logKey level.name)).write record = ""
  /-- The name of a level is nothing to warn of. -/
  calm : ∀ (environment : Environment) (level : Threshold),
    backend.warning (environment.put Settings.logKey level.name) = ""

/-- The logger of a lower level is that of the upper one, limited. -/
theorem LogBackend.Levelled.limited {backend : LogBackend} (levelled : backend.Levelled)
    (environment : Environment) {lower upper : Threshold} (below : lower ≤ upper) :
    backend.logger (environment.put Settings.logKey lower.name) =
      (backend.logger (environment.put Settings.logKey upper.name)).limited lower := by
  have write : (backend.logger (environment.put Settings.logKey lower.name)).write =
      lower.limit (backend.logger (environment.put Settings.logKey upper.name)).write := by
    funext record
    unfold Threshold.limit
    cases admitted : lower.admits record.severity with
    | true =>
      have above := Threshold.admits_of_le below admitted
      exact levelled.written environment lower upper record admitted above
    | false => exact levelled.dropped environment lower record admitted
  rw [Logger.limited, levelled.ceiling, Threshold.min_eq_right below, ← write]
  exact congrArg (Logger.mk · _) (levelled.ceiling environment lower)

/-- A higher level than the logger was asked for is no limit to it. -/
theorem LogBackend.Levelled.limited_above {backend : LogBackend} (levelled : backend.Levelled)
    (environment : Environment) {lower upper : Threshold} (below : lower ≤ upper) :
    (backend.logger (environment.put Settings.logKey lower.name)).limited upper =
      backend.logger (environment.put Settings.logKey lower.name) := by
  have ceiling := levelled.ceiling environment lower
  have dropped := levelled.dropped environment lower
  generalize backend.logger (environment.put Settings.logKey lower.name) = logger at *
  have write : upper.limit logger.write = logger.write := by
    funext record
    unfold Threshold.limit
    cases admitted : upper.admits record.severity with
    | true => rfl
    | false =>
      have refused : lower.admits record.severity = false := by
        refine Bool.eq_false_iff.mpr fun kept => ?_
        rw [Threshold.admits_of_le below kept] at admitted
        cases admitted
      exact (dropped record refused).symm
  rw [Logger.limited, ceiling, Threshold.min_eq_left below, write, ← ceiling]

/-! Loggers with a filter. -/

/-- The name of a level asks for everything up to it. -/
theorem LogFilter.ofText_name (level : Threshold) :
    LogFilter.ofText level.name = (⟨[⟨none, level⟩], none⟩, []) := by
  obtain ⟨least⟩ := level
  cases least with
  | none => cbv
  | some severity => cases severity <;> cbv

theorem LogFilter.ofEnvironment_put (environment : Environment) (level : Threshold) :
    LogFilter.ofEnvironment (environment.put Settings.logKey level.name) =
      (⟨[⟨none, level⟩], none⟩, []) := by
  rw [LogFilter.ofEnvironment, Environment.lookup_put_self, Option.getD_some, LogFilter.ofText_name]

/-- A general directive keeps what its level admits. -/
theorem LogFilter.keeps_general (level : Threshold) (record : LogRecord) :
    (LogFilter.mk [⟨none, level⟩] none).keeps record = level.admits record.severity :=
  Bool.and_true _

theorem filteredLog_put (environment : Environment) (level : Threshold) :
    filteredLog.logger (environment.put Settings.logKey level.name) =
      ⟨level, fun record => if level.admits record.severity then
        record.line (.ofEnvironment environment) ++ "\n" else ""⟩ := by
  have ceiling : (LogFilter.mk [⟨none, level⟩] none).ceiling = level := Threshold.off_max level
  simp only [filteredLog, LogFilter.ofEnvironment_put, Environment.style_put, LogFilter.logger,
    LogFilter.keeps_general, ceiling]

theorem filteredLog_levelled : filteredLog.Levelled := by
  constructor
  · intro environment level
    rw [filteredLog_put]
  · intro environment lower upper record admitted above
    simp only [filteredLog_put, admitted, above]
  · intro environment level record refused
    simp only [filteredLog_put, refused, Bool.false_eq_true, if_false]
  · intro environment level
    simp only [filteredLog, LogFilter.ofEnvironment_put]
    rfl

end ManagedRuntime
