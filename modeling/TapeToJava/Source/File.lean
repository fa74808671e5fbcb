import TapeToJava.Text.Slice
import TapeToJava.Text.Lines
import TapeToJava.Text.Utf8

/-! Source files, and their lines looked up by number through the byte offsets at which lines start. -/

namespace TapeToJava

/-- A named source text. -/
structure SourceFile where
  /-- The name that diagnostics carry. -/
  name : String
  text : String
  deriving DecidableEq, Repr

namespace SourceFile

/-- A source file from raw bytes; ill-formed pieces are replaced. -/
def ofBytes (name : String) (bytes : List UInt8) : SourceFile :=
  ⟨name, Text.Utf8.decode bytes⟩

/-- The byte offsets just behind the line feeds of a text that itself starts at `offset`. -/
def breaksFrom (offset : Nat) : List Char → List Nat
  | [] => []
  | c :: cs =>
    let next := offset + c.utf8Size
    if c = '\n' then next :: breaksFrom next cs else breaksFrom next cs

/-- The byte offset at which each line starts. -/
def lineStarts (f : SourceFile) : List Nat :=
  0 :: breaksFrom 0 f.text.toList

def lineCount (f : SourceFile) : Nat :=
  f.lineStarts.length

/-- The bounds, in bytes, of the line with the given number: it ends before the line feed that ends it,
or at the end of the text. -/
def lineBounds? (f : SourceFile) (number : UInt32) : Option (Nat × Nat) :=
  match number.toNat with
  | 0 => none
  | n + 1 =>
    match f.lineStarts[n]? with
    | none => none
    | some start =>
      match f.lineStarts[n + 1]? with
      | none => some (start, Text.byteLength f.text.toList)
      | some next => some (start, next - 1)

/-- The line with the given number, counted from one, without its line feed and the carriage returns
before it. -/
def line? (f : SourceFile) (number : UInt32) : Option String :=
  (f.lineBounds? number).bind fun (start, stop) =>
    (Text.slice start stop f.text.toList).map fun cs => String.ofList (Text.trimReturns cs)

end SourceFile

end TapeToJava
