import TapeToJava.Bracket.Balance
import TapeToJava.Java.Statement

/-! The part of a Java class that carries out the program: one line for each token. It is written in the
same pass that checks the brackets. -/

namespace TapeToJava.Java

/-- The Java lines of a program, and their number. -/
structure Body where
  text : String
  lineCount : Nat
  deriving DecidableEq, Repr

/-- A body that is being written, and the loops that are open behind it. -/
structure Draft where
  text : String
  loops : OpenLoops
  deriving DecidableEq, Repr

namespace Draft

def start : Draft := ⟨"", .start⟩

/-- Writes the line of one more token, unless it closes a loop where none is open. -/
def add (d : Draft) (t : Token) : Except Imbalance Draft :=
  match d.loops.step t with
  | .error fault => .error fault
  | .ok loops => .ok ⟨d.text ++ statement t.operator ++ "\n", loops⟩

/-- Writes the lines of more tokens. -/
def run : Draft → List Token → Except Imbalance Draft
  | d, [] => .ok d
  | d, t :: ts =>
    match d.add t with
    | .error fault => .error fault
    | .ok next => next.run ts

end Draft

namespace Body

/-- The Java lines of a program whose brackets match. -/
def ofTokens (tokens : List Token) : Except Imbalance Body :=
  match Draft.start.run tokens with
  | .error fault => .error fault
  | .ok d =>
    match d.loops.unclosed? with
    | some fault => .error fault
    | none => .ok ⟨d.text, tokens.length⟩

/-- The Java lines of a program without comments. -/
def ofNormalized (s : String) : Except Imbalance Body :=
  ofTokens (Token.ofNormalized s)

/-- One line for each operator. -/
def render (ops : List Operator) : List Char :=
  ops.flatMap fun op => (statement op).toList ++ ['\n']

@[simp] theorem render_nil : render [] = [] := rfl

@[simp] theorem render_cons (op : Operator) (ops : List Operator) :
    render (op :: ops) = (statement op).toList ++ '\n' :: render ops := by
  simp [render]

end Body

end TapeToJava.Java
