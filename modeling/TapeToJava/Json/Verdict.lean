import TapeToJava.Json.Printer
import TapeToJava.Json.Reader
import TapeToJava.Json.Report
import TapeToJava.Verdict

/-! The JSON form of verdicts. -/

namespace TapeToJava.Verdict

def fieldNames : List String := ["success", "class_name", "java", "output_hash", "errors"]

def toJson (v : Verdict) : Json.Tree :=
  .record [("success", .bool v.success), ("class_name", .ofText v.className),
    ("java", .ofOption Json.Tree.ofText v.java), ("output_hash", .ofOption Json.Tree.ofText v.outputHash),
    ("errors", v.errors.toJson)]

def ofJson? (t : Json.Tree) : Option Verdict := do
  let ms ← t.fields? fieldNames
  let success ← ms.required "success" Json.Tree.bool?
  let className ← ms.required "class_name" Json.Tree.text?
  let java ← ms.optional "java" Json.Tree.text?
  let outputHash ← ms.optional "output_hash" Json.Tree.text?
  let errors ← ms.required "errors" (Report.ofJson? 2)
  some ⟨success, className, java, outputHash, errors⟩

/-- A verdict as it is printed. -/
def text (v : Verdict) : String :=
  v.toJson.prettyText

/-- The verdict that a text spells. -/
def ofText? (s : String) : Option Verdict :=
  (Json.Tree.ofText? s).bind ofJson?

end TapeToJava.Verdict
