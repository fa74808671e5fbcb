import TapeToJava.Diagnostic.Report
import TapeToJava.Hash.Sha256
import TapeToJava.Java.CompilationUnit

/-! From a source file to a Java class, with the diagnostics about it. Nothing here reads or writes
files. -/

namespace TapeToJava

/-- The class of an accepted program, and the warnings about it. -/
structure Generated where
  java : Java.CompilationUnit
  warnings : Report
  deriving DecidableEq, Repr

/-- What to do about a fault in the brackets. -/
def Imbalance.suggestion : Imbalance → String
  | .strayClose _ => "Remove this ']' or add a matching '[' before it"
  | .unclosed _ _ => "Add a matching ']' after this '['"

namespace Diagnostic

/-- The error for a fault in the brackets. -/
def unmatchedBracket (f : SourceFile) (fault : Imbalance) : Diagnostic :=
  let sourceLine := (f.line? fault.span.line).getD ""
  (ofCode f.name .unmatchedBrackets fault.detail fault.span sourceLine).withSuggestion fault.suggestion

/-- The finding about a class name that is no Java identifier. -/
def invalidClassName (f : SourceFile) (name : Java.ClassName) : Diagnostic :=
  (ofCode f.name .invalidClassName
    ("class name '" ++ name.text ++ "' is not a valid Java identifier; javac will reject it")
    (.point 1 1) "").withSuggestion
    ("Pick an output file name or --class-name that starts with a letter " ++
      "and contains only letters, digits, '_' or '$'")

end Diagnostic

/-- The report on a program whose brackets do not match. -/
def Report.ofImbalance (f : SourceFile) (fault : Imbalance) : Report :=
  Report.empty.pushError (.unmatchedBracket f fault)

/-- The report on a class name: empty for a Java identifier, else one warning. -/
def Report.ofClassName (f : SourceFile) (name : Java.ClassName) : Report :=
  if name.isIdentifier then .empty else Report.empty.pushWarning (.invalidClassName f name)

namespace SourceFile

/-- Generates the class of a source file, with the given name. -/
def generate (f : SourceFile) (name : Java.ClassName) : Except Report Generated :=
  match Java.CompilationUnit.ofTokens (Lexed.ofText f.text).tokens name f.name with
  | .error fault => .error (.ofImbalance f fault)
  | .ok java => .ok ⟨java, .ofClassName f name⟩

/-- Checks the brackets of a source file. -/
def check (f : SourceFile) : Report :=
  match Java.Body.ofTokens (Lexed.ofText f.text).tokens with
  | .error fault => .ofImbalance f fault
  | .ok _ => .empty

end SourceFile

/-- The digest of a text as it is written to a file, with one line feed at its end. -/
def outputHash (text : String) : String :=
  Sha256.digestText (Text.Utf8.encode text ++ [0x0A])

end TapeToJava
