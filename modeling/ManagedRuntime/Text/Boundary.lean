/-! Sets of code points as rising bounds: membership flips at every bound. -/
namespace ManagedRuntime.Text

/-- With rising bounds `a₀ < b₀ < a₁ < b₁ …` these are the points of `[a₀, b₀) ∪ [a₁, b₁) ∪ …`. -/
def insideBounds : List Nat → Nat → Bool
  | [], _ => false
  | bound :: rest, point => bound ≤ point && !insideBounds rest point

end ManagedRuntime.Text
