import ManagedRuntime.Proofs.Exception.Translation
import ManagedRuntime.Scenario.Instruction

/-! Programs that reach their operations by other routes. -/
namespace ManagedRuntime.Scenario
open Exception

/-- An entry point that has no place for what it caught is not exchanged for another route. -/
def Site.reroute (route : Route → Route) : Site → Site
  | .attempt taken name ignore => .attempt (if ignore then taken else route taken) name ignore
  | site => site

mutual

def Step.reroute (route : Route → Route) : Step → Step
  | .act instruction => .act (Instruction.reroute route instruction)
  | .block body => .block (rerouteAll route body)
  | .protect site body handler =>
      .protect (site.reroute route) (rerouteAll route body) (rerouteAll route handler)
  | .guarded site body cleanup =>
      .guarded (site.reroute route) (rerouteAll route body) (rerouteAll route cleanup)
  | .intercept site resume body => .intercept (site.reroute route) resume (rerouteAll route body)
  | .outermost site body => .outermost (site.reroute route) (rerouteAll route body)

def rerouteAll (route : Route → Route) : List Step → List Step
  | [] => []
  | step :: rest => Step.reroute route step :: rerouteAll route rest

def Instruction.reroute (route : Route → Route) : Instruction → Instruction
  | .object name size table taken => .object name size table (route taken)
  | .array name length width taken => .array name length width (route taken)
  | .setArrayTable table taken => .setArrayTable table (route taken)
  | .arrayInfo reference taken => .arrayInfo reference (route taken)
  | .copy source sourceStart destination destinationStart count taken =>
      .copy source sourceStart destination destinationStart count (route taken)
  | .vtableLookup reference index taken => .vtableLookup reference index (route taken)
  | .itableLookup reference interface index taken =>
      .itableLookup reference interface index (route taken)
  | .monitor verb reference taken quiet => .monitor verb reference (route taken) quiet
  | .throw reference taken => .throw reference (route taken)
  | .abstract taken => .abstract (route taken)
  | .started taken => .started (route taken)
  | .assign label verb patience job => .assign label verb patience (rerouteAll route job)
  | .start arguments count name taken body =>
      .start arguments count name (route taken) (rerouteAll route body)
  | instruction => instruction

end

theorem rerouteAll_eq_map (route : Route → Route) (steps : List Step) :
    rerouteAll route steps = steps.map (Step.reroute route) := by
  induction steps with
  | nil => rfl
  | cons step rest ih => rw [rerouteAll, ih, List.map_cons]

theorem rerouteAll_entrySteps (route : Route → Route) (name : Option String) (taken : Route)
    (body : List Step) :
    rerouteAll route (entrySteps name taken body) =
      entrySteps name (route taken) (rerouteAll route body) := by
  simp only [entrySteps, rerouteAll, Step.reroute, Instruction.reroute, Site.reroute]

/-- Only routes change. -/
def rerouting (route : Route → Route) : Translation Instruction Site where
  code := Step.reroute route
  instruction := Instruction.reroute route
  site := Site.reroute route
  act _ := rfl
  block _ := by rw [Step.reroute, rerouteAll_eq_map]
  protect _ _ _ := by rw [Step.reroute, rerouteAll_eq_map, rerouteAll_eq_map]
  guarded _ _ _ := by rw [Step.reroute, rerouteAll_eq_map, rerouteAll_eq_map]
  intercept _ _ _ := by rw [Step.reroute, rerouteAll_eq_map]
  outermost _ _ := by rw [Step.reroute, rerouteAll_eq_map]

theorem Site.reroute_id (site : Site) : site.reroute id = site := by
  cases site with
  | attempt taken name ignore => simp [reroute]
  | _ => rfl

mutual

theorem Step.reroute_id (step : Step) : Step.reroute id step = step := by
  cases step with
  | act instruction => rw [Step.reroute, Instruction.reroute_id]
  | block body => rw [Step.reroute, rerouteAll_id]
  | protect site body handler =>
    rw [Step.reroute, rerouteAll_id, rerouteAll_id, Site.reroute_id]
  | guarded site body cleanup =>
    rw [Step.reroute, rerouteAll_id, rerouteAll_id, Site.reroute_id]
  | intercept site resume body => rw [Step.reroute, rerouteAll_id, Site.reroute_id]
  | outermost site body => rw [Step.reroute, rerouteAll_id, Site.reroute_id]

theorem rerouteAll_id (steps : List Step) : rerouteAll id steps = steps := by
  cases steps with
  | nil => rfl
  | cons step rest => rw [rerouteAll, Step.reroute_id, rerouteAll_id]

theorem Instruction.reroute_id (instruction : Instruction) :
    Instruction.reroute id instruction = instruction := by
  cases instruction with
  | assign label verb patience job => rw [Instruction.reroute, rerouteAll_id]
  | start arguments count name taken body => rw [Instruction.reroute, rerouteAll_id, id_eq]
  | _ => rfl

end

@[simp] theorem rerouting_id_strand (strand : Strand Instruction Site) :
    (rerouting id).strand strand = strand :=
  Translation.strand_id Step.reroute_id Site.reroute_id strand

@[simp] theorem rerouting_id_reply (reply : Reply Instruction Site) :
    (rerouting id).reply reply = reply :=
  Translation.reply_id Step.reroute_id reply

@[simp] theorem rerouting_id_signal (signal : Signal Site) :
    (rerouting id).signal signal = signal :=
  Translation.signal_id Site.reroute_id signal

end ManagedRuntime.Scenario
