/-! Positions in a source text: 32-bit lines and columns, both counted from one. -/

namespace TapeToJava

/-- A stretch of source text, from its first to its last character. -/
@[ext] structure Span where
  line : UInt32
  column : UInt32
  endLine : UInt32
  endColumn : UInt32
  deriving DecidableEq, Repr, Inhabited

namespace Span

/-- The stretch of a single character. -/
def point (line column : UInt32) : Span :=
  ⟨line, column, line, column⟩

/-- A span is shown by where it starts. -/
def text (s : Span) : String :=
  toString s.line.toNat ++ ":" ++ toString s.column.toNat

end Span

end TapeToJava
