import TapeToJava.Java.LineMap
import TapeToJava.Json.Printer
import TapeToJava.Json.Reader
import TapeToJava.Json.Source
import TapeToJava.Json.Storable

/-! The JSON form of line maps. An entry has the fields of its span among its own. -/

namespace TapeToJava.Java

namespace LineEntry

/-- The fields of an entry that are not those of its span. -/
def ownFields : List String := ["java_line", "operator"]

def toJson (e : LineEntry) : Json.Tree :=
  .record (("java_line", .ofInt e.javaLine.toNat) :: ("operator", e.operator.toJson) :: e.span.jsonFields)

/-- The entry of a value with `depth` containers open around its members. -/
def ofJson? (depth : Nat) (t : Json.Tree) : Option LineEntry := do
  let ms ← t.storedMembers? depth ownFields
  let javaLine ← ms.required "java_line" Json.Tree.uint32?
  let operator ← ms.required "operator" Operator.ofJson?
  let span ← Span.ofMembers? ms
  some ⟨javaLine, operator, span⟩

end LineEntry

namespace LineMap

def fieldNames : List String := ["source", "class_name", "entries"]

def toJson (m : LineMap) : Json.Tree :=
  .record [("source", .ofText m.source), ("class_name", .ofText m.className),
    ("entries", .array (m.entries.map LineEntry.toJson))]

def ofJson? (t : Json.Tree) : Option LineMap := do
  let ms ← t.fields? fieldNames
  let source ← ms.required "source" Json.Tree.text?
  let className ← ms.required "class_name" Json.Tree.text?
  let entries ← ms.required "entries" (Json.Tree.list? (LineEntry.ofJson? 3))
  some ⟨source, className, entries⟩

/-- A map as it is written to a file. -/
def text (m : LineMap) : String :=
  m.toJson.prettyText

/-- The map that a text spells. -/
def ofText? (s : String) : Option LineMap :=
  (Json.Tree.ofText? s).bind ofJson?

end LineMap

end TapeToJava.Java
