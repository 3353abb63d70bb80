import ManagedRuntime.Journal.Logger
import ManagedRuntime.Text.Pattern.Parser
import ManagedRuntime.Text.Pattern.Search

/-! Which log records a process keeps. A specification lists directives between commas, each a
severity, the beginning of a target, or both with an equals sign between; behind a slash follows a
pattern that the text has to match. The most specific directive for a target decides. -/
namespace ManagedRuntime

/-- The error stream is no terminal, so lines are plain unless the variables force colours; two
words decide at once, any other leaves it to the general variables. -/
def LineStyle.ofEnvironment (environment : Environment) : LineStyle :=
  match environment.lookup "RUST_LOG_STYLE" with
  | some "always" => .coloured
  | some "never" => .plain
  | _ =>
    if environment.isFilled "NO_COLOR" then .plain
    else if environment.isFilled "CLICOLOR_FORCE" then .coloured
    else .plain

structure Directive where
  /-- The beginning of the targets it is for; a general directive has none. -/
  target : Option String
  threshold : Threshold
deriving DecidableEq, Repr

/-- Why a part of a specification is left out. -/
inductive FilterFault
  | tooManySlashes (specification : String)
  | unreadable (directive : String)
deriving DecidableEq, Repr

def FilterFault.message : FilterFault → String
  | .tooManySlashes specification =>
      "invalid logging spec '" ++ specification ++ "' (too many '/'s)"
  | .unreadable directive => "invalid logging spec '" ++ directive ++ "'"

/-- A line of the error stream. -/
def FilterFault.warning (fault : FilterFault) : String :=
  "warning: error parsing logger filter: " ++ fault.message ++ ", ignoring it\n"

namespace Directive

def covers (directive : Directive) (target : String) : Bool :=
  directive.target.all fun beginning => beginning.toList.isPrefixOf target.toList

/-- Length of the beginning; zero for a general directive. -/
def weight (directive : Directive) : Nat := (directive.target.map (·.length)).getD 0

/-- Reads a directive that has no blanks around it. -/
def ofText (text : String) : Except FilterFault Directive :=
  match text.splitOn "=" with
  | [name] =>
    match Threshold.ofName? name with
    | some threshold => .ok ⟨none, threshold⟩
    | none => .ok ⟨some name, .all⟩
  | [target, level] =>
    let level := Text.trimmed level
    if level.isEmpty then .ok ⟨some target, .all⟩
    else
      match Threshold.ofName? level with
      | some threshold => .ok ⟨some target, threshold⟩
      | none => .error (.unreadable level)
  | _ => .error (.unreadable text)

end Directive

structure LogFilter where
  directives : List Directive
  pattern : Option Text.Pattern := none
deriving DecidableEq, Repr

namespace LogFilter

/-- Of the directives for a target the one with the longest beginning counts, among equals the
last one. -/
def decisive? (filter : LogFilter) (target : String) : Option Directive :=
  (filter.directives.filter (·.covers target)).foldl (fun best directive =>
    match best with
    | some held => if held.weight ≤ directive.weight then some directive else best
    | none => some directive) none

/-- Targets without a directive are silent. -/
def thresholdFor (filter : LogFilter) (target : String) : Threshold :=
  ((filter.decisive? target).map (·.threshold)).getD .off

def keeps (filter : LogFilter) (record : LogRecord) : Bool :=
  (filter.thresholdFor record.target).admits record.severity &&
    filter.pattern.all (·.isIn record.text)

/-- What is less urgent than every directive asks for is not even worded. -/
def ceiling (filter : LogFilter) : Threshold :=
  filter.directives.foldl (fun highest directive => max highest directive.threshold) .off

/-- A directive takes the place of an earlier one with the same beginning. -/
def put (directives : List Directive) (directive : Directive) : List Directive :=
  if directives.any (·.target == directive.target) then
    directives.map fun held => if held.target == directive.target then directive else held
  else directives ++ [directive]

/-- Without any directive only errors are kept. -/
def ofDirectives (directives : List Directive) (pattern : Option Text.Pattern) : LogFilter :=
  if directives.isEmpty then ⟨[⟨none, ⟨some .error⟩⟩], pattern⟩
  else ⟨directives.foldl put [], pattern⟩

/-- Reads the directives between commas; blanks around them and empty ones do not count. -/
def readDirectives (text : String) : List Directive × List FilterFault :=
  let parts := ((text.splitOn ",").map Text.trimmed).filter (!·.isEmpty)
  let read := parts.map Directive.ofText
  (read.filterMap fun
      | .ok directive => some directive
      | .error _ => none,
    read.filterMap fun
      | .ok _ => none
      | .error fault => some fault)

/-- The filter of a specification and the parts that were left out. A second slash spoils all of
it; a pattern that cannot be read is dropped. -/
def ofText (specification : String) : LogFilter × List FilterFault :=
  match specification.splitOn "/" with
  | [directives] =>
    let (directives, faults) := readDirectives directives
    (ofDirectives directives none, faults)
  | [directives, pattern] =>
    let (directives, faults) := readDirectives directives
    (ofDirectives directives (Text.Pattern.ofText? pattern), faults)
  | _ => (ofDirectives [] none, [.tooManySlashes specification])

/-- The filter that the variables ask for; warnings and errors when they do not say. -/
def ofEnvironment (environment : Environment) : LogFilter × List FilterFault :=
  ofText ((environment.lookup Settings.logKey).getD "warn")

/-- Writes a line of each record that the filter keeps. -/
def logger (filter : LogFilter) (style : LineStyle) : Logger :=
  ⟨filter.ceiling, fun record => if filter.keeps record then record.line style ++ "\n" else ""⟩

end LogFilter

/-- Loggers with a filter. Parts of its specification that cannot be read are left out. -/
def filteredLog : LogBackend where
  logger environment := (LogFilter.ofEnvironment environment).1.logger (.ofEnvironment environment)
  warning environment :=
    String.join ((LogFilter.ofEnvironment environment).2.map (·.warning))

end ManagedRuntime
