import TapeToJava.Generation

/-! The verdict on a source file: what generating its class comes to, without any file being written. -/

namespace TapeToJava

/-- What generating a class comes to. -/
structure Verdict where
  success : Bool
  className : String
  /-- The class, if the program was accepted. -/
  java : Option String
  /-- The digest of the class as it would be written. -/
  outputHash : Option String
  errors : Report
  deriving DecidableEq, Repr

/-- The verdict on a source file. -/
def SourceFile.verdict (f : SourceFile) (name : Java.ClassName) : Verdict :=
  match f.generate name with
  | .ok t => ⟨true, name.text, some t.java.text, some (outputHash t.java.text), t.warnings⟩
  | .error errors => ⟨false, name.text, none, none, errors⟩

end TapeToJava
