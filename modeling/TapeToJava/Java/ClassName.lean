import TapeToJava.Files.Path
import TapeToJava.Text.Numeric

/-! Names of Java classes. Any text can be spliced in as a name; whether it can be one is a question of
its own. -/

namespace TapeToJava.Java

/-- The words that no Java identifier may be. -/
def reservedWords : List String :=
  ["abstract", "assert", "boolean", "break", "byte", "case", "catch", "char", "class", "const", "continue",
    "default", "do", "double", "else", "enum", "extends", "final", "finally", "float", "for", "goto", "if",
    "implements", "import", "instanceof", "int", "interface", "long", "native", "new", "package", "private",
    "protected", "public", "return", "short", "static", "strictfp", "super", "switch", "synchronized",
    "this", "throw", "throws", "transient", "try", "void", "volatile", "while", "true", "false", "null", "_"]

/-- A character that may start a Java identifier. -/
def startsIdentifier (c : Char) : Bool :=
  Text.isAlphabetic c || c == '_' || c == '$'

/-- A character that may follow in a Java identifier. -/
def continuesIdentifier (c : Char) : Bool :=
  Text.isAlphanumeric c || c == '_' || c == '$'

/-- The name that a class is given. -/
structure ClassName where
  text : String
  deriving DecidableEq, Repr

namespace ClassName

/-- The name for the class in an output file: the file's name up to its first dot. -/
def ofPath (path : String) : ClassName :=
  ⟨String.ofList (Path.stem path.toList)⟩

/-- Whether a name is a Java identifier. -/
def isIdentifier (n : ClassName) : Bool :=
  match n.text.toList with
  | [] => false
  | c :: cs => startsIdentifier c && cs.all continuesIdentifier && !reservedWords.contains n.text

end ClassName

end TapeToJava.Java
