import TapeToJava.Source.Token

/-! The check of the square brackets. Reading from the left keeps only the number of open loops and the
place of the last loop that was opened while no other one was open, never a stack. -/

namespace TapeToJava

/-- The first fault in the brackets of a program. -/
inductive Imbalance where
  /-- A closing bracket where no loop is open. -/
  | strayClose (span : Span)
  /-- The end of the program where `depth` loops are open, the outermost of them at `span`. -/
  | unclosed (depth : Nat) (span : Span)
  deriving DecidableEq, Repr

namespace Imbalance

/-- The bracket to blame. -/
def span : Imbalance → Span
  | strayClose s => s
  | unclosed _ s => s

def detail : Imbalance → String
  | strayClose s => "']' at " ++ s.text ++ " has no matching '['"
  | unclosed 1 s => "'[' at " ++ s.text ++ " is never closed"
  | unclosed depth s =>
    "'[' at " ++ s.text ++ " is never closed (" ++ toString depth ++ " loops left open)"

def message (i : Imbalance) : String :=
  "unmatched square braces: " ++ i.detail

end Imbalance

/-- What is kept of the loops that are open at some point of a program. -/
structure OpenLoops where
  /-- How many loops are open. -/
  depth : Nat
  /-- Where the last loop starts that was opened while no other one was open. -/
  outermost : Option Span
  deriving DecidableEq, Repr

namespace OpenLoops

/-- In front of a program. -/
def start : OpenLoops := ⟨0, none⟩

/-- Behind one more token. -/
def step (loops : OpenLoops) (t : Token) : Except Imbalance OpenLoops :=
  match t.operator with
  | .loopOpen => .ok ⟨loops.depth + 1, if loops.depth = 0 then some t.span else loops.outermost⟩
  | .loopClose =>
    match loops.depth with
    | 0 => .error (.strayClose t.span)
    | depth + 1 => .ok ⟨depth, loops.outermost⟩
  | _ => .ok loops

/-- Behind more tokens. -/
def scan : OpenLoops → List Token → Except Imbalance OpenLoops
  | loops, [] => .ok loops
  | loops, t :: ts =>
    match loops.step t with
    | .error fault => .error fault
    | .ok next => next.scan ts

/-- The fault of a program that ends here. -/
def unclosed? (loops : OpenLoops) : Option Imbalance :=
  match loops.outermost with
  | some span => if loops.depth ≠ 0 then some (.unclosed loops.depth span) else none
  | none => none

end OpenLoops

/-- The fault in the brackets of a program, if there is one. -/
def imbalance? (tokens : List Token) : Option Imbalance :=
  match OpenLoops.start.scan tokens with
  | .error fault => some fault
  | .ok loops => loops.unclosed?

end TapeToJava
