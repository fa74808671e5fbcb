import TapeToJava.Operator

/-! Balanced programs, said by counting: no prefix closes more loops than it opens, and the whole
program closes as many as it opens. -/

namespace TapeToJava.Operator

/-- How many loops a program opens. -/
def opened (ops : List Operator) : Nat :=
  ops.count .loopOpen

/-- How many loops a program closes. -/
def closed (ops : List Operator) : Nat :=
  ops.count .loopClose

/-- No prefix closes more loops than it opens, and the program closes as many as it opens. -/
def IsBalanced (ops : List Operator) : Prop :=
  (∀ n, closed (ops.take n) ≤ opened (ops.take n)) ∧ closed ops = opened ops

theorem opened_append (as bs : List Operator) : opened (as ++ bs) = opened as + opened bs := by
  simp [opened]

theorem closed_append (as bs : List Operator) : closed (as ++ bs) = closed as + closed bs := by
  simp [closed]

theorem isBalanced_nil : IsBalanced [] := by
  simp [IsBalanced, closed, opened]

end TapeToJava.Operator
