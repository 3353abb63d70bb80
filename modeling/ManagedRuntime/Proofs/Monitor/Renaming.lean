import Mathlib.Logic.Equiv.Basic
import ManagedRuntime.Monitor.Basic

/-! Threads under other tokens. A monitor only compares tokens, so it does the same for its threads
whatever tokens they have, as long as different threads have different ones. -/
namespace ManagedRuntime

/-- Other tokens for threads; nobody stays nobody. -/
structure Rename where
  apply : Token → Token
  injective : Function.Injective apply
  nobody : apply nobody = nobody

namespace Rename

instance : CoeFun Rename fun _ => Token → Token := ⟨apply⟩

/-- Leaves all tokens as they are. -/
def same : Rename := ⟨id, Function.injective_id, rfl⟩

instance : Inhabited Rename := ⟨same⟩

@[simp] theorem same_apply (token : Token) : same token = token := rfl

/-- Names that are given to tokens. -/
def names (rename : Rename) (names : List (Token × α)) : List (Token × α) :=
  names.map fun name => (rename name.1, name.2)

@[simp] theorem names_same (names : List (Token × α)) : same.names names = names := List.map_id' _

variable (rename : Rename)

@[simp] theorem apply_eq_iff {first second : Token} :
    rename first = rename second ↔ first = second := rename.injective.eq_iff

@[simp] theorem apply_beq (first second : Token) :
    (rename first == rename second) = (first == second) := by
  rw [Bool.eq_iff_iff, beq_iff_eq, beq_iff_eq, apply_eq_iff]

@[simp] theorem apply_bne (first second : Token) :
    (rename first != rename second) = (first != second) := by
  simp only [bne, apply_beq]

@[simp] theorem apply_eq_nobody_iff {token : Token} :
    rename token = ManagedRuntime.nobody ↔ token = ManagedRuntime.nobody := by
  rw [← rename.nobody, apply_eq_iff, rename.nobody]

theorem lookup_names (names : List (Token × α)) (token : Token) :
    (rename.names names).lookup (rename token) = names.lookup token := by
  induction names with
  | nil => rfl
  | cons name rest ih =>
    obtain ⟨held, value⟩ := name
    have found : (rename.names ((held, value) :: rest)).lookup (rename token) =
        ((rename held, value) :: rename.names rest).lookup (rename token) := rfl
    rw [found]
    simp only [List.lookup_cons, apply_beq, ih]

/-- The same, but for two tokens that take each other's place afterwards. -/
def exchange {first second : Token} (left : first ≠ ManagedRuntime.nobody)
    (right : second ≠ ManagedRuntime.nobody) : Rename where
  apply token := Equiv.swap first second (rename token)
  injective := (Equiv.swap first second).injective.comp rename.injective
  nobody := by
    rw [rename.nobody]
    exact Equiv.swap_apply_of_ne_of_ne left.symm right.symm

end Rename

def MonitorNote.renamed (rename : Rename) : MonitorNote → MonitorNote
  | .misuse operation owner => .misuse operation (rename owner)
  | note => note

namespace Monitor

def renamed (rename : Rename) (monitor : Monitor) : Monitor where
  latch := monitor.latch.map rename
  owner := rename monitor.owner
  depth := monitor.depth
  contenders := monitor.contenders.map rename
  waiters := monitor.waiters.map rename
  phases := rename.names monitor.phases

variable (rename : Rename) (monitor : Monitor) (thread : Token)

@[simp] theorem renamed_same : monitor.renamed .same = monitor := by
  simp only [renamed, Rename.same_apply, Rename.names_same]
  congr
  · exact Option.map_id'
  · exact List.map_id' _
  · exact List.map_id' _

@[simp] theorem renamed_empty : ({} : Monitor).renamed rename = {} := by
  simp only [renamed, rename.nobody]
  rfl

@[simp] theorem depth_renamed : (monitor.renamed rename).depth = monitor.depth := rfl

@[simp] theorem phase_renamed :
    (monitor.renamed rename).phase (rename thread) = monitor.phase thread :=
  congrArg (Option.getD · _) (rename.lookup_names monitor.phases thread)

@[simp] theorem isHeldBy_renamed :
    (monitor.renamed rename).isHeldBy (rename thread) = monitor.isHeldBy thread :=
  rename.apply_beq ..

@[simp] theorem setPhase_renamed (phase : MonitorPhase) :
    (monitor.renamed rename).setPhase (rename thread) phase =
      (monitor.setPhase thread phase).renamed rename := by
  have others : (monitor.renamed rename).phases.filter (·.1 != rename thread) =
      rename.names (monitor.phases.filter (·.1 != thread)) := by
    simp only [renamed, Rename.names, List.filter_map, Function.comp_def, Rename.apply_bne]
  simp only [setPhase, others]
  split <;> rfl

@[simp] theorem unlatch_renamed :
    (monitor.renamed rename).unlatch = monitor.unlatch.renamed rename := rfl

@[simp] theorem finish_renamed :
    (monitor.renamed rename).finish (rename thread) =
      (monitor.finish thread).renamed rename := by
  simp only [finish, unlatch_renamed, setPhase_renamed]

@[simp] theorem begin_renamed (request : MonitorRequest) :
    (monitor.renamed rename).begin (rename thread) request =
      (monitor.begin thread request).renamed rename :=
  setPhase_renamed ..

@[simp] theorem summon_renamed :
    (monitor.renamed rename).summon = monitor.summon.renamed rename := by
  cases queue : monitor.contenders with
  | nil => simp only [summon, queue, renamed, List.map_nil]
  | cons first rest =>
    have woken : { monitor.renamed rename with contenders := rest.map rename } =
        ({ monitor with contenders := rest } : Monitor).renamed rename := rfl
    have head : (monitor.renamed rename).contenders = rename first :: rest.map rename :=
      congrArg (List.map rename) queue
    simp only [summon, queue, head, phase_renamed, woken]
    split
    · exact setPhase_renamed ..
    · rfl

@[simp] theorem rouse_renamed :
    (monitor.renamed rename).rouse (rename thread) =
      (monitor.rouse thread).renamed rename := by
  simp only [rouse, phase_renamed]
  split
  · have left : (monitor.renamed rename).waiters.filter (· != rename thread) =
        (monitor.waiters.filter (· != thread)).map rename := by
      simp only [renamed, List.filter_map, Function.comp_def, Rename.apply_bne]
    rw [left]
    exact setPhase_renamed rename
      { monitor with waiters := monitor.waiters.filter (· != thread) } thread _
  · rfl

@[simp] theorem rouseFirst_renamed :
    (monitor.renamed rename).rouseFirst = monitor.rouseFirst.renamed rename := by
  cases queue : monitor.waiters with
  | nil => simp only [rouseFirst, queue, renamed, List.map_nil]
  | cons first rest =>
    have head : (monitor.renamed rename).waiters = rename first :: rest.map rename :=
      congrArg (List.map rename) queue
    simp only [rouseFirst, queue, head, rouse_renamed]

@[simp] theorem rouseAll_renamed :
    (monitor.renamed rename).rouseAll = monitor.rouseAll.renamed rename := by
  have all (waiters : List Token) (monitor : Monitor) :
      (waiters.map rename).foldl rouse (monitor.renamed rename) =
        (waiters.foldl rouse monitor).renamed rename := by
    induction waiters generalizing monitor with
    | nil => rfl
    | cons first rest ih => rw [List.map_cons, List.foldl_cons, rouse_renamed, ih, List.foldl_cons]
  exact all monitor.waiters monitor

/-- What a step shows and leaves behind, with other tokens. -/
def renamedAnswer (answer : Option MonitorNote × Monitor) : Option MonitorNote × Monitor :=
  (answer.1.map (·.renamed rename), answer.2.renamed rename)

theorem latched_renamed (phase : MonitorPhase) :
    (monitor.renamed rename).latched (rename thread) phase =
      (monitor.latched thread phase).map (renamedAnswer rename) := by
  have free : (monitor.renamed rename).latch = none ↔ monitor.latch = none := Option.map_eq_none_iff
  simp only [latched, free]
  split
  · exact congrArg (fun after => some (none, after))
      (setPhase_renamed rename { monitor with latch := some thread } thread phase)
  · rfl

theorem examine_renamed (request : MonitorRequest) :
    (monitor.renamed rename).examine (rename thread) request =
      renamedAnswer rename (monitor.examine thread request) := by
  have owner : (monitor.renamed rename).owner = rename monitor.owner := rfl
  have free : rename ManagedRuntime.nobody = ManagedRuntime.nobody := rename.nobody
  cases request with
  | enter =>
    simp only [examine, owner, Rename.apply_eq_iff, depth_renamed]
    split
    · split
      · exact congrArg (Prod.mk none)
          (finish_renamed rename { monitor with depth := monitor.depth + 1 } thread)
      · exact congrArg (Prod.mk _) (finish_renamed ..)
    · exact congrArg (Prod.mk none) (setPhase_renamed ..)
  | exit =>
    simp only [examine, owner, Rename.apply_eq_iff, depth_renamed]
    split
    · split
      · refine congrArg (Prod.mk none) (Eq.trans ?_ (setPhase_renamed rename
          { monitor with depth := monitor.depth - 1, owner := ManagedRuntime.nobody } thread _))
        simp only [renamed, free]
      · exact congrArg (Prod.mk none)
          (finish_renamed rename { monitor with depth := monitor.depth - 1 } thread)
    · exact congrArg (Prod.mk _) (finish_renamed ..)
  | wait =>
    simp only [examine, owner, Rename.apply_eq_iff, depth_renamed]
    split
    · refine congrArg (Prod.mk none) (Eq.trans ?_ (setPhase_renamed rename
        { monitor with owner := ManagedRuntime.nobody, depth := 0 } thread _))
      simp only [renamed, free]
    · exact congrArg (Prod.mk _) (setPhase_renamed ..)
  | notify all checked =>
    simp only [examine, owner, ne_eq, Rename.apply_eq_iff, unlatch_renamed, setPhase_renamed]
    split <;> rfl

/-- A step of the thread under its other token. -/
theorem step_renamed :
    (monitor.renamed rename).step (rename thread) =
      (monitor.step thread).map (renamedAnswer rename) := by
  have kept (phase : MonitorPhase) : (some (none, (monitor.renamed rename).setPhase
      (rename thread) phase) : Option (Option MonitorNote × Monitor)) =
        (some (none, monitor.setPhase thread phase)).map (renamedAnswer rename) :=
    congrArg (fun after => some (none, after)) (setPhase_renamed ..)
  cases here : monitor.phase thread with
  | idle | contending | parked => simp only [step, phase_renamed, here, Option.map_none]
  | requested request =>
    cases request with
    | notify all checked =>
      cases checked with
      | false =>
        simp only [step, phase_renamed, here]
        exact kept _
      | true =>
        simp only [step, phase_renamed, here]
        exact latched_renamed ..
    | enter | exit | wait =>
      simp only [step, phase_renamed, here]
      exact latched_renamed ..
  | inside request =>
    simp only [step, phase_renamed, here, examine_renamed, Option.map_some]
  | acquiring depth fresh =>
    have free : (monitor.renamed rename).owner = ManagedRuntime.nobody ↔
        monitor.owner = ManagedRuntime.nobody := rename.apply_eq_nobody_iff
    simp only [step, phase_renamed, here, free]
    split
    · refine congrArg some (Prod.ext ?_ ?_)
      · cases fresh <;> rfl
      · exact finish_renamed rename { monitor with owner := thread, depth } thread
    · refine (congrArg (fun after => some (none, after)) ?_).trans (congrArg
        (fun after => some (none, after)) (setPhase_renamed rename
          { monitor.unlatch with contenders := monitor.contenders ++ [thread] } thread _))
      simp only [renamed, List.map_append, List.map_cons, List.map_nil]
      rfl
  | summoned depth fresh =>
    simp only [step, phase_renamed, here]
    exact latched_renamed ..
  | vacating => simp only [step, phase_renamed, here, summon_renamed, finish_renamed]; rfl
  | yielding saved => simp only [step, phase_renamed, here, summon_renamed, setPhase_renamed]; rfl
  | parking saved =>
    simp only [step, phase_renamed, here]
    refine (congrArg (fun after => some (none, after)) ?_).trans (congrArg
      (fun after => some (none, after)) (setPhase_renamed rename
        { monitor.unlatch with waiters := monitor.waiters ++ [thread] } thread _))
    simp only [renamed, List.map_append, List.map_cons, List.map_nil]
    rfl
  | roused saved =>
    cases saved with
    | some depth =>
      simp only [step, phase_renamed, here]
      exact latched_renamed ..
    | none =>
      have free : (monitor.renamed rename).latch = none ↔ monitor.latch = none :=
        Option.map_eq_none_iff
      simp only [step, phase_renamed, here, free]
      split
      · exact kept _
      · rfl
  | notifying all =>
    cases all <;>
    · simp only [step, phase_renamed, here, rouseAll_renamed, rouseFirst_renamed, if_true,
        Bool.false_eq_true, if_false]
      refine congrArg (fun after => some (none, after)) ?_
      exact setPhase_renamed ..

end Monitor
end ManagedRuntime
