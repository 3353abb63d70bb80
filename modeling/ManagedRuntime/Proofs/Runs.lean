/-! Runs of a relation whose steps are labelled with what they bring about. -/
namespace ManagedRuntime

/-- Some number of steps one after the other, with their labels in order. -/
inductive Runs (step : σ → List ε → σ → Prop) : σ → List ε → σ → Prop
  | start (state : σ) : Runs step state [] state
  | next : Runs step first before state → step state now after →
      Runs step first (before ++ now) after

namespace Runs
variable {step : σ → List ε → σ → Prop}

theorem one (now : step state label after) : Runs step state label after := .next (.start state) now

theorem append (early : Runs step first before middle) (late : Runs step middle after last) :
    Runs step first (before ++ after) last := by
  induction late with
  | start => simpa only [List.append_nil] using early
  | next _ now ih => simpa only [List.append_assoc] using ih.next now

/-- What each step keeps, a run keeps. -/
theorem invariant (holds : σ → Prop)
    (keeps : ∀ {state now after}, holds state → step state now after → holds after)
    (run : Runs step first before last) (initial : holds first) : holds last := by
  induction run with
  | start => exact initial
  | next _ now ih => exact keeps ih now

end Runs
end ManagedRuntime
