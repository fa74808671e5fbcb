import TapeToJava.Java.ClassName

/-! The fixed lines around the program: a class with a main method, a tape, a scanner and a pointer. -/

namespace TapeToJava.Java.Scaffold

/-- The number of cells of the tape. -/
def tapeCells : Nat := 30000

/-- The number of lines in front of the program. -/
def prologueLines : Nat := 6

/-- The lines in front of the program. -/
def prologue (name : ClassName) : String :=
  "import java.util.Scanner;\n" ++
  "public class " ++ name.text ++ " \x7b\n" ++
  "public static void main(String[] args) \x7b\n" ++
  "byte[] mem = new byte[" ++ toString tapeCells ++ "];\n" ++
  "Scanner iostream = new Scanner(System.in);\n" ++
  "int ptr = 0;\n"

/-- The lines behind the program. -/
def epilogue : String :=
  "iostream.close();\n\x7d\n\x7d\n"

/-- The whole class around a program. -/
def wrap (name : ClassName) (body : String) : String :=
  prologue name ++ body ++ epilogue

end TapeToJava.Java.Scaffold
