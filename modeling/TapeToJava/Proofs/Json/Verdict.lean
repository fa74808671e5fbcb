import TapeToJava.Json.Verdict
import TapeToJava.Proofs.Json.Report

/-! A verdict is read back from the text that is printed for it, and from its text on one line. -/

namespace TapeToJava.Verdict

open Json.Members

/-- The fields of a verdict. -/
def jsonFields (v : Verdict) : List (String × Json.Tree) :=
  [("success", .bool v.success), ("class_name", .ofText v.className), ("java", .ofOption Json.Tree.ofText v.java),
    ("output_hash", .ofOption Json.Tree.ofText v.outputHash), ("errors", v.errors.toJson)]

theorem isSpelled_toJson (v : Verdict) : v.toJson.IsSpelled := by
  refine Json.Tree.isSpelled_record ?_
  simp only [List.forall_mem_cons]
  have htext := Json.Tree.isSpelled_ofText
  have hoption := Json.Tree.isSpelled_ofOption htext
  exact ⟨Json.Tree.isSpelled_bool _, htext _, hoption _, hoption _, v.errors.isSpelled_toJson, List.forall_mem_nil _⟩

theorem ofJson?_toJson (v : Verdict) : ofJson? v.toJson = some v := by
  have hfields : v.toJson.fields? fieldNames = some (ofFields v.jsonFields) := fields?_record _ _
  have hsuccess : (ofFields v.jsonFields).required "success" Json.Tree.bool? = some v.success :=
    required_ofFields (v := .bool v.success) rfl rfl
  have hclassName : (ofFields v.jsonFields).required "class_name" Json.Tree.text? = some v.className :=
    required_ofFields (Json.Tree.text?_ofText _) rfl
  have hjava : (ofFields v.jsonFields).optional "java" Json.Tree.text? = some v.java :=
    optional_ofFields_ofOption Json.Tree.text?_ofText Json.Tree.ofText_ne_null rfl
  have houtputHash : (ofFields v.jsonFields).optional "output_hash" Json.Tree.text? = some v.outputHash :=
    optional_ofFields_ofOption Json.Tree.text?_ofText Json.Tree.ofText_ne_null rfl
  have herrors : (ofFields v.jsonFields).required "errors" (Report.ofJson? 2) = some v.errors :=
    required_ofFields (v.errors.ofJson?_toJson 2) rfl
  simp only [ofJson?, hfields, hsuccess, hclassName, hjava, houtputHash, herrors, Option.bind_eq_bind,
    Option.bind_some]

/-- A printed verdict is read back as itself. -/
theorem ofText?_text (v : Verdict) : ofText? v.text = some v := by
  rw [ofText?, text, Json.Tree.ofText?_prettyText v.isSpelled_toJson, Option.bind_some, ofJson?_toJson]

/-- A verdict is read back from both its texts, and so are the reports and the diagnostics that it may hold, on
their own at any depth. No field is lost: a suggestion that is left out is none again and an empty one is not, and
a null is no class or no digest again. -/
theorem ofText?_compactText_and_prettyText (v : Verdict) :
    (ofText? v.toJson.compactText = some v ∧ ofText? v.toJson.prettyText = some v) ∧
    (∀ (r : Report) (depth : Nat),
      (Json.Tree.ofText? r.toJson.compactText).bind (Report.ofJson? depth) = some r ∧
        (Json.Tree.ofText? r.toJson.prettyText).bind (Report.ofJson? depth) = some r) ∧
    ∀ (d : Diagnostic) (depth : Nat),
      (Json.Tree.ofText? d.toJson.compactText).bind (Diagnostic.ofJson? depth) = some d ∧
        (Json.Tree.ofText? d.toJson.prettyText).bind (Diagnostic.ofJson? depth) = some d := by
  refine ⟨?_, fun r depth => ?_, fun d depth => ?_⟩
  · exact Json.Tree.bind_ofText?_texts v.isSpelled_toJson v.ofJson?_toJson
  · exact Json.Tree.bind_ofText?_texts r.isSpelled_toJson (r.ofJson?_toJson depth)
  · exact Json.Tree.bind_ofText?_texts d.isSpelled_toJson (d.ofJson?_toJson depth)

end TapeToJava.Verdict
