import TapeToJava.Files.Staged
import TapeToJava.Json.LineMap
import TapeToJava.Proofs.Json.Report
import TapeToJava.Proofs.Text.WellFormed

/-! A line map is read back from its text and from the file that holds its text, whatever entries it has. An
entry's own fields stand first, then those of its span; reading finds each of them by its name. -/

namespace TapeToJava

open Json.Members

theorem Operator.ofJson?_toJson (op : Operator) : ofJson? op.toJson = some op :=
  Json.Tree.choice?_ofText (ofName?_name op)

/-- What stands in a file is read back as the text written to it, with a line feed behind it. -/
theorem decode_fileBytes (text : String) : Text.Utf8.decode (fileBytes text) = text ++ "\n" := by
  have hbytes : fileBytes text = Text.Utf8.encode (text ++ "\n") := by
    rw [Text.Utf8.encode, String.toList_append, List.flatMap_append]
    rfl
  rw [hbytes, Text.Utf8.decode_encode]

namespace Java

namespace LineEntry

/-- The fields of an entry. -/
def jsonFields (e : LineEntry) : List (String × Json.Tree) :=
  ("java_line", .ofInt e.javaLine.toNat) :: ("operator", e.operator.toJson) :: e.span.jsonFields

theorem isSpelled_toJson (e : LineEntry) : e.toJson.IsSpelled := by
  refine Json.Tree.isSpelled_record ?_
  simp only [List.forall_mem_cons]
  exact ⟨Json.Tree.isSpelled_ofInt _, Json.Tree.isSpelled_ofText _, e.span.isSpelled_jsonFields⟩

theorem storedMembers?_toJson (e : LineEntry) (depth : Nat) :
    e.toJson.storedMembers? depth ownFields = some (ofFields e.jsonFields) := by
  refine Json.Tree.storedMembers?_record ?_
  simp only [List.forall_mem_cons]
  exact ⟨Or.inl (by decide), Or.inl (by decide), fun field hfield =>
    Or.inr (e.span.isStorable_jsonFields _ field hfield)⟩

theorem ofJson?_toJson (e : LineEntry) (depth : Nat) : ofJson? depth e.toJson = some e := by
  have hjavaLine : (ofFields e.jsonFields).required "java_line" Json.Tree.uint32? = some e.javaLine :=
    required_ofFields (Json.Tree.uint32?_ofInt _) rfl
  have hoperator : (ofFields e.jsonFields).required "operator" Operator.ofJson? = some e.operator :=
    required_ofFields e.operator.ofJson?_toJson rfl
  have hspan : Span.ofMembers? (ofFields e.jsonFields) = some e.span := Span.ofMembers?_ofFields rfl
  simp only [ofJson?, storedMembers?_toJson, hjavaLine, hoperator, hspan, Option.bind_eq_bind, Option.bind_some]

end LineEntry

namespace LineMap

/-- The fields of a map. -/
def jsonFields (m : LineMap) : List (String × Json.Tree) :=
  [("source", .ofText m.source), ("class_name", .ofText m.className),
    ("entries", .array (m.entries.map LineEntry.toJson))]

theorem isSpelled_toJson (m : LineMap) : m.toJson.IsSpelled := by
  have hentries : (Json.Tree.array (m.entries.map LineEntry.toJson)).IsSpelled := by
    refine Json.Tree.isSpelled_array fun t ht => ?_
    obtain ⟨e, -, rfl⟩ := List.mem_map.mp ht
    exact e.isSpelled_toJson
  refine Json.Tree.isSpelled_record ?_
  simp only [List.forall_mem_cons]
  exact ⟨Json.Tree.isSpelled_ofText _, Json.Tree.isSpelled_ofText _, hentries, List.forall_mem_nil _⟩

theorem ofJson?_toJson (m : LineMap) : ofJson? m.toJson = some m := by
  have hfields : m.toJson.fields? fieldNames = some (ofFields m.jsonFields) := fields?_record _ _
  have hsource : (ofFields m.jsonFields).required "source" Json.Tree.text? = some m.source :=
    required_ofFields (Json.Tree.text?_ofText _) rfl
  have hclassName : (ofFields m.jsonFields).required "class_name" Json.Tree.text? = some m.className :=
    required_ofFields (Json.Tree.text?_ofText _) rfl
  have hentries : (ofFields m.jsonFields).required "entries" (Json.Tree.list? (LineEntry.ofJson? 3)) =
      some m.entries :=
    required_ofFields (Json.Tree.list?_map (fun e : LineEntry => e.ofJson?_toJson 3) _) rfl
  simp only [ofJson?, hfields, hsource, hclassName, hentries, Option.bind_eq_bind, Option.bind_some]

/-- A map is read back from its text, and from what its file holds: the text and a line feed. -/
theorem ofText?_text_and_fileBytes (m : LineMap) :
    ofText? m.text = some m ∧
      Text.Utf8.decode (fileBytes m.text) = m.text ++ "\n" ∧ ofText? (m.text ++ "\n") = some m := by
  have hblank : ∀ c ∈ "\n".toList, Json.Token.isBlank c = true := by
    intro c hc
    rw [List.mem_singleton.mp hc]
    rfl
  refine ⟨?_, decode_fileBytes m.text, ?_⟩
  · rw [ofText?, text, Json.Tree.ofText?_prettyText m.isSpelled_toJson, Option.bind_some, ofJson?_toJson]
  · rw [ofText?, text, Json.Tree.ofText?_prettyText_append m.isSpelled_toJson hblank, Option.bind_some,
      ofJson?_toJson]

end LineMap

end Java

end TapeToJava
