import TapeToJava.Json.Record
import TapeToJava.Operator
import TapeToJava.Source.Span

/-! The JSON forms of operators and spans. -/

namespace TapeToJava

/-- An operator is written as its long name. -/
def Operator.toJson (op : Operator) : Json.Tree :=
  .ofText op.name

def Operator.ofJson? (t : Json.Tree) : Option Operator :=
  t.choice? name all

namespace Span

/-- The names of the fields of a span. -/
def fieldNames : List String := ["line", "column", "end_line", "end_column"]

/-- The fields of a span, for a record of its own or as a part of another one. -/
def jsonFields (s : Span) : List (String × Json.Tree) :=
  [("line", .ofInt s.line.toNat), ("column", .ofInt s.column.toNat),
    ("end_line", .ofInt s.endLine.toNat), ("end_column", .ofInt s.endColumn.toNat)]

def toJson (s : Span) : Json.Tree :=
  .record s.jsonFields

/-- The span among the members of a record. -/
def ofMembers? (ms : Json.Members) : Option Span := do
  let line ← ms.required "line" Json.Tree.uint32?
  let column ← ms.required "column" Json.Tree.uint32?
  let endLine ← ms.required "end_line" Json.Tree.uint32?
  let endColumn ← ms.required "end_column" Json.Tree.uint32?
  some ⟨line, column, endLine, endColumn⟩

def ofJson? (t : Json.Tree) : Option Span :=
  (t.fields? fieldNames).bind ofMembers?

end Span

end TapeToJava
