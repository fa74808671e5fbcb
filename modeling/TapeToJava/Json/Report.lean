import TapeToJava.Diagnostic.Report
import TapeToJava.Json.Source
import TapeToJava.Json.Storable

/-! The JSON forms of diagnostics and reports. A diagnostic has the fields of its span among its own,
and leaves out a suggestion that there is not. -/

namespace TapeToJava

def Severity.toJson (s : Severity) : Json.Tree :=
  .ofText s.name

def Severity.ofJson? (t : Json.Tree) : Option Severity :=
  t.choice? name all

def Category.toJson (c : Category) : Json.Tree :=
  .ofText c.name

def Category.ofJson? (t : Json.Tree) : Option Category :=
  t.choice? name all

def Code.toJson (c : Code) : Json.Tree :=
  .ofInt c.number.toNat

def Code.ofJson? (t : Json.Tree) : Option Code :=
  t.uint16?.map Code.mk

namespace Diagnostic

/-- The fields of a diagnostic that are not those of its span. -/
def ownFields : List String :=
  ["file", "code", "severity", "category", "message", "source_line", "suggestion"]

def toJson (d : Diagnostic) : Json.Tree :=
  .record (
    [("file", .ofText d.file), ("code", d.code.toJson), ("severity", d.severity.toJson),
      ("category", d.category.toJson), ("message", .ofText d.message)] ++
    d.span.jsonFields ++
    [("source_line", .ofText d.sourceLine)] ++
    (d.suggestion.map fun s => ("suggestion", Json.Tree.ofText s)).toList)

/-- The diagnostic of a value with `depth` containers open around its members. -/
def ofJson? (depth : Nat) (t : Json.Tree) : Option Diagnostic := do
  let ms ← t.storedMembers? depth ownFields
  let file ← ms.required "file" Json.Tree.text?
  let code ← ms.required "code" Code.ofJson?
  let severity ← ms.required "severity" Severity.ofJson?
  let category ← ms.required "category" Category.ofJson?
  let message ← ms.required "message" Json.Tree.text?
  let span ← Span.ofMembers? ms
  let sourceLine ← ms.required "source_line" Json.Tree.text?
  let suggestion ← ms.optional "suggestion" Json.Tree.text?
  some ⟨file, code, severity, category, message, span, sourceLine, suggestion⟩

end Diagnostic

namespace Report

def fieldNames : List String := ["errors", "warnings", "total_errors", "total_warnings"]

def toJson (r : Report) : Json.Tree :=
  .record [("errors", .array (r.errors.map Diagnostic.toJson)),
    ("warnings", .array (r.warnings.map Diagnostic.toJson)),
    ("total_errors", .ofInt r.totalErrors.toNat), ("total_warnings", .ofInt r.totalWarnings.toNat)]

/-- The report of a value with `depth` containers open around its members. -/
def ofJson? (depth : Nat) (t : Json.Tree) : Option Report := do
  let ms ← t.fields? fieldNames
  let errors ← ms.required "errors" (Json.Tree.list? (Diagnostic.ofJson? (depth + 2)))
  let warnings ← ms.required "warnings" (Json.Tree.list? (Diagnostic.ofJson? (depth + 2)))
  let totalErrors ← ms.required "total_errors" Json.Tree.uint64?
  let totalWarnings ← ms.required "total_warnings" Json.Tree.uint64?
  some ⟨errors, warnings, totalErrors, totalWarnings⟩

end Report

end TapeToJava
