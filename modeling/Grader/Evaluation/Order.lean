import Grader.Problem

/-! The order in which cases are run: by sequence number, and by id among equal numbers. -/
namespace Grader.TestCase

def Before (a b : TestCase) : Prop := a.sequence < b.sequence ∨ (a.sequence = b.sequence ∧ a.id ≤ b.id)

instance (a b : TestCase) : Decidable (Before a b) := inferInstanceAs (Decidable (_ ∨ _))

/-- The cases in order. Those that agree in both keep the order they had. -/
def ordered (cases : List TestCase) : List TestCase := cases.mergeSort fun a b => Before a b

end Grader.TestCase
