import TapeToJava.Java.ClassName

/-! What a build is asked to do. -/

namespace TapeToJava

/-- What a build is asked to do. Paths are kept as they were given. -/
structure BuildOptions where
  source : String
  output : String
  /-- The name of the class; the output file names it otherwise. -/
  className : Option String
  /-- Whether the toolchain is to be run on the output. -/
  compile : Bool
  /-- Where the line map goes, if it is asked for. -/
  sourceMap : Option String
  deriving DecidableEq, Repr

namespace BuildOptions

/-- The output file of a build that names none. -/
def defaultOutput : String := "bf.java"

/-- The compiler of a build that names none. -/
def defaultCompiler : String := "javac"

/-- A build of a source file with nothing else asked for. -/
def ofSource (source : String) : BuildOptions :=
  ⟨source, defaultOutput, none, true, none⟩

/-- The name that the class will have. -/
def resolvedClassName (o : BuildOptions) : Java.ClassName :=
  match o.className with
  | some name => ⟨name⟩
  | none => .ofPath o.output

end BuildOptions

end TapeToJava
