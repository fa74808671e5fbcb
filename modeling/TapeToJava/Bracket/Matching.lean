import TapeToJava.Operator

/-! Bracket matching with a stack, on items of any kind that are operators among other things. Each
closing bracket takes the opening bracket on top of the stack away. -/

namespace TapeToJava.Matching

/-- What matching finds: the first closing bracket without a partner, or else the opening brackets that
are left on the stack, the innermost first. -/
inductive Result (α : Type) where
  | stray (item : α)
  | rest (stack : List α)
  deriving DecidableEq, Repr

/-- Matches the brackets of items, onto a stack. -/
def runFrom {α : Type} (operator? : α → Option Operator) (stack : List α) : List α → Result α
  | [] => .rest stack
  | x :: xs =>
    match operator? x with
    | some .loopOpen => runFrom operator? (x :: stack) xs
    | some .loopClose =>
      match stack with
      | [] => .stray x
      | _ :: below => runFrom operator? below xs
    | _ => runFrom operator? stack xs

/-- Matches the brackets of items. -/
def run {α : Type} (operator? : α → Option Operator) (items : List α) : Result α :=
  runFrom operator? [] items

/-- The brackets without a partner, when matching goes on behind a stray closing bracket. -/
def unmatchedFrom {α : Type} (operator? : α → Option Operator) (stack : List α) : List α → List α
  | [] => stack.reverse
  | x :: xs =>
    match operator? x with
    | some .loopOpen => unmatchedFrom operator? (x :: stack) xs
    | some .loopClose =>
      match stack with
      | [] => x :: unmatchedFrom operator? [] xs
      | _ :: below => unmatchedFrom operator? below xs
    | _ => unmatchedFrom operator? stack xs

/-- The brackets without a partner. -/
def unmatched {α : Type} (operator? : α → Option Operator) (items : List α) : List α :=
  unmatchedFrom operator? [] items

end TapeToJava.Matching
