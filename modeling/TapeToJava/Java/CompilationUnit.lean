import TapeToJava.Java.Body
import TapeToJava.Java.LineMap
import TapeToJava.Java.Scaffold

/-! A complete Java class with the map of its lines. -/

namespace TapeToJava.Java

/-- A generated class. -/
structure CompilationUnit where
  className : ClassName
  text : String
  operatorCount : Nat
  lineMap : LineMap
  deriving DecidableEq, Repr

namespace CompilationUnit

/-- The entries of tokens whose first Java line is the one behind `before` others. -/
def entriesFrom (before : Nat) : List Token → List LineEntry
  | [] => []
  | t :: ts => ⟨UInt32.ofNat (before + 1), t.operator, t.span⟩ :: entriesFrom (before + 1) ts

/-- The class of a program, if its brackets match. -/
def ofTokens (tokens : List Token) (name : ClassName) (sourceName : String) :
    Except Imbalance CompilationUnit :=
  match Body.ofTokens tokens with
  | .error fault => .error fault
  | .ok body => .ok {
      className := name
      text := Scaffold.wrap name body.text
      operatorCount := body.lineCount
      lineMap := ⟨sourceName, name.text, entriesFrom Scaffold.prologueLines tokens⟩ }

theorem getElem?_entriesFrom (before : Nat) (ts : List Token) (i : Nat) :
    (entriesFrom before ts)[i]? =
      ts[i]?.map fun t => ⟨UInt32.ofNat (before + i + 1), t.operator, t.span⟩ := by
  induction ts generalizing before i with
  | nil => rfl
  | cons t ts ih =>
    cases i with
    | zero => rfl
    | succ i =>
      simp only [entriesFrom, List.getElem?_cons_succ, ih]
      congr 2
      funext t
      congr 2
      omega

end CompilationUnit

end TapeToJava.Java
