import TapeToJava.Json.Report
import TapeToJava.Proofs.Json.Record

/-! Diagnostics and reports are read back from their JSON forms, whatever texts, numbers and totals they hold. -/

namespace TapeToJava

open Json.Members

namespace Json.Tree

variable {fields : List (String × Json.Tree)} {own : List String} {depth : Nat}

theorem storedMembers?_of_members? {t : Json.Tree} {ms : Json.Members} (h : t.members? = some ms)
    (hstorable : ∀ m ∈ ms, (∃ name ∈ own, m.1 = name.toList) ∨ m.2.isStorable (maxDepth - depth) = true) :
    t.storedMembers? depth own = some ms := by
  rw [storedMembers?, h, Option.filter_some_pos]
  rw [List.all_eq_true]
  intro m hm
  rw [Bool.or_eq_true, List.any_eq_true]
  rcases hstorable m hm with ⟨name, hname, hkey⟩ | hvalue
  · exact Or.inl ⟨name, hname, beq_iff_eq.mpr hkey.symm⟩
  · exact Or.inr hvalue

/-- The fields of a record in which all but the record's own can be stored. -/
theorem storedMembers?_record
    (h : ∀ field ∈ fields, field.1 ∈ own ∨ field.2.isStorable (maxDepth - depth) = true) :
    (record fields).storedMembers? depth own = some (ofFields fields) := by
  refine storedMembers?_of_members? (members?_record fields) fun m hm => ?_
  obtain ⟨field, hfield, rfl⟩ := List.mem_map.mp hm
  rcases h field hfield with hown | hvalue
  · exact Or.inl ⟨field.1, hown, rfl⟩
  · exact Or.inr hvalue

end Json.Tree

namespace Span

theorem isSpelled_jsonFields (s : Span) : ∀ field ∈ s.jsonFields, field.2.IsSpelled := by
  simp only [jsonFields, List.forall_mem_cons]
  have hnumber : ∀ n : UInt32, (Json.Tree.ofInt n.toNat).IsSpelled := fun n => Json.Tree.isSpelled_ofInt _
  exact ⟨hnumber _, hnumber _, hnumber _, hnumber _, List.forall_mem_nil _⟩

theorem isStorable_jsonFields (s : Span) (levels : Nat) :
    ∀ field ∈ s.jsonFields, field.2.isStorable levels = true := by
  have hnumber : ∀ n : UInt32, (Json.Tree.ofInt n.toNat).isStorable levels = true := fun n =>
    Json.Tree.isStorable_ofInt (Nat.le_trans (Nat.le_of_lt n.toNat_lt) (by decide)) levels
  simp only [jsonFields, List.forall_mem_cons]
  exact ⟨hnumber _, hnumber _, hnumber _, hnumber _, List.forall_mem_nil _⟩

theorem ofMembers?_of_named {ms : Json.Members} {s : Span}
    (h : ∀ field ∈ s.jsonFields, ms.named field.1 = [field.2]) : ofMembers? ms = some s := by
  have hnumber : ∀ {name : String} {n : UInt32}, (name, Json.Tree.ofInt n.toNat) ∈ s.jsonFields →
      ms.required name Json.Tree.uint32? = some n := fun hfield =>
    required_of_named_eq (Json.Tree.uint32?_ofInt _) (h _ hfield)
  have hline : ms.required "line" Json.Tree.uint32? = some s.line := hnumber (by simp [jsonFields])
  have hcolumn : ms.required "column" Json.Tree.uint32? = some s.column := hnumber (by simp [jsonFields])
  have hendLine : ms.required "end_line" Json.Tree.uint32? = some s.endLine := hnumber (by simp [jsonFields])
  have hendColumn : ms.required "end_column" Json.Tree.uint32? = some s.endColumn := hnumber (by simp [jsonFields])
  simp only [ofMembers?, hline, hcolumn, hendLine, hendColumn, Option.bind_eq_bind, Option.bind_some]

/-- The span whose fields stand among those of a record. -/
theorem ofMembers?_ofFields {fields : List (String × Json.Tree)} {s : Span}
    (h : fields.filter (fun field => fieldNames.contains field.1) = s.jsonFields) :
    ofMembers? (ofFields fields) = some s := by
  have hfilter : ∀ name ∈ fieldNames, fields.filter (fun field => field.1 == name) =
      s.jsonFields.filter fun field => field.1 == name := by
    intro name hname
    rw [← h, List.filter_filter]
    refine List.filter_congr fun field _ => ?_
    rw [Bool.eq_iff_iff, Bool.and_eq_true]
    refine ⟨fun heq => ⟨heq, ?_⟩, And.left⟩
    rw [List.contains_iff_mem, beq_iff_eq.mp heq]
    exact hname
  refine ofMembers?_of_named fun field hfield => ?_
  have hname : field.1 ∈ fieldNames := List.mem_map_of_mem (f := Prod.fst) hfield
  rw [named_ofFields, hfilter field.1 hname]
  simp only [jsonFields, List.mem_cons, List.not_mem_nil, or_false] at hfield
  rcases hfield with rfl | rfl | rfl | rfl
  · rfl
  · rfl
  · rfl
  · rfl

end Span

theorem Severity.ofJson?_toJson (s : Severity) : ofJson? s.toJson = some s := by
  cases s with
  | error => exact Json.Tree.choice?_ofText rfl
  | warning => exact Json.Tree.choice?_ofText rfl

theorem Category.ofJson?_toJson (c : Category) : ofJson? c.toJson = some c := by
  cases c with
  | syntactic => exact Json.Tree.choice?_ofText rfl
  | naming => exact Json.Tree.choice?_ofText rfl

theorem Code.ofJson?_toJson (c : Code) : ofJson? c.toJson = some c := by
  rw [ofJson?, toJson, Json.Tree.uint16?_ofInt, Option.map_some]

namespace Diagnostic

/-- The fields of a diagnostic. -/
def jsonFields (d : Diagnostic) : List (String × Json.Tree) :=
  [("file", .ofText d.file), ("code", d.code.toJson), ("severity", d.severity.toJson),
    ("category", d.category.toJson), ("message", .ofText d.message)] ++
  d.span.jsonFields ++
  [("source_line", .ofText d.sourceLine)] ++
  (d.suggestion.map fun s => ("suggestion", Json.Tree.ofText s)).toList

variable {d : Diagnostic}

theorem isSpelled_toJson (d : Diagnostic) : d.toJson.IsSpelled := by
  refine Json.Tree.isSpelled_record ?_
  simp only [List.forall_mem_append, List.forall_mem_cons]
  have htext := Json.Tree.isSpelled_ofText
  refine ⟨⟨⟨⟨htext _, Json.Tree.isSpelled_ofInt _, htext _, htext _, htext _, List.forall_mem_nil _⟩,
    d.span.isSpelled_jsonFields⟩, htext _, List.forall_mem_nil _⟩, fun field hfield => ?_⟩
  obtain ⟨s, -, rfl⟩ := Option.map_eq_some_iff.mp (Option.mem_toList.mp hfield)
  exact htext s

theorem storedMembers?_toJson (d : Diagnostic) (depth : Nat) :
    d.toJson.storedMembers? depth ownFields = some (ofFields d.jsonFields) := by
  have hsuggestion : "suggestion" ∈ ownFields := by decide
  refine Json.Tree.storedMembers?_record ?_
  simp only [List.forall_mem_append, List.forall_mem_cons]
  refine ⟨⟨⟨⟨Or.inl (by decide), Or.inl (by decide), Or.inl (by decide), Or.inl (by decide), Or.inl (by decide),
    List.forall_mem_nil _⟩, fun field hfield => Or.inr (d.span.isStorable_jsonFields _ field hfield)⟩,
    Or.inl (by decide), List.forall_mem_nil _⟩, fun field hfield => ?_⟩
  obtain ⟨s, -, rfl⟩ := Option.map_eq_some_iff.mp (Option.mem_toList.mp hfield)
  exact Or.inl hsuggestion

/-- A field that a diagnostic always has. -/
theorem required_jsonFields {α : Type} {name : String} {decode : Json.Tree → Option α} {v : Json.Tree} {a : α}
    (hdecode : decode v = some a)
    (h : ∀ suggestion, (({ d with suggestion := suggestion } : Diagnostic).jsonFields.filter
      fun field => field.1 == name).map (·.2) = [v]) :
    (ofFields d.jsonFields).required name decode = some a :=
  required_ofFields hdecode (h d.suggestion)

theorem ofJson?_toJson (d : Diagnostic) (depth : Nat) : ofJson? depth d.toJson = some d := by
  have hfile : (ofFields d.jsonFields).required "file" Json.Tree.text? = some d.file :=
    required_jsonFields (Json.Tree.text?_ofText _) (by rintro (_ | _) <;> rfl)
  have hcode : (ofFields d.jsonFields).required "code" Code.ofJson? = some d.code :=
    required_jsonFields (Code.ofJson?_toJson _) (by rintro (_ | _) <;> rfl)
  have hseverity : (ofFields d.jsonFields).required "severity" Severity.ofJson? = some d.severity :=
    required_jsonFields (Severity.ofJson?_toJson _) (by rintro (_ | _) <;> rfl)
  have hcategory : (ofFields d.jsonFields).required "category" Category.ofJson? = some d.category :=
    required_jsonFields (Category.ofJson?_toJson _) (by rintro (_ | _) <;> rfl)
  have hmessage : (ofFields d.jsonFields).required "message" Json.Tree.text? = some d.message :=
    required_jsonFields (Json.Tree.text?_ofText _) (by rintro (_ | _) <;> rfl)
  have hsourceLine : (ofFields d.jsonFields).required "source_line" Json.Tree.text? = some d.sourceLine :=
    required_jsonFields (Json.Tree.text?_ofText _) (by rintro (_ | _) <;> rfl)
  have hspan : Span.ofMembers? (ofFields d.jsonFields) = some d.span := by
    obtain ⟨file, code, severity, category, message, span, sourceLine, suggestion⟩ := d
    exact Span.ofMembers?_ofFields (by cases suggestion <;> rfl)
  have hsuggestion : (ofFields d.jsonFields).optional "suggestion" Json.Tree.text? = some d.suggestion := by
    obtain ⟨file, code, severity, category, message, span, sourceLine, suggestion⟩ := d
    exact optional_ofFields_toList Json.Tree.text?_ofText Json.Tree.ofText_ne_null (by cases suggestion <;> rfl)
  simp only [ofJson?, storedMembers?_toJson, hfile, hcode, hseverity, hcategory, hmessage, hspan, hsourceLine,
    hsuggestion, Option.bind_eq_bind, Option.bind_some]

end Diagnostic

namespace Report

theorem isSpelled_toJson (r : Report) : r.toJson.IsSpelled := by
  have hlist : ∀ ds : List Diagnostic, (Json.Tree.array (ds.map Diagnostic.toJson)).IsSpelled := by
    refine fun ds => Json.Tree.isSpelled_array fun t ht => ?_
    obtain ⟨d, -, rfl⟩ := List.mem_map.mp ht
    exact d.isSpelled_toJson
  refine Json.Tree.isSpelled_record ?_
  simp only [List.forall_mem_cons]
  exact ⟨hlist _, hlist _, Json.Tree.isSpelled_ofInt _, Json.Tree.isSpelled_ofInt _, List.forall_mem_nil _⟩

/-- The fields of a report. -/
def jsonFields (r : Report) : List (String × Json.Tree) :=
  [("errors", .array (r.errors.map Diagnostic.toJson)), ("warnings", .array (r.warnings.map Diagnostic.toJson)),
    ("total_errors", .ofInt r.totalErrors.toNat), ("total_warnings", .ofInt r.totalWarnings.toNat)]

theorem ofJson?_toJson (r : Report) (depth : Nat) : ofJson? depth r.toJson = some r := by
  have hfields : r.toJson.fields? fieldNames = some (ofFields r.jsonFields) := fields?_record _ _
  have hlist := Json.Tree.list?_map fun d : Diagnostic => d.ofJson?_toJson (depth + 2)
  have herrors : (ofFields r.jsonFields).required "errors"
      (Json.Tree.list? (Diagnostic.ofJson? (depth + 2))) = some r.errors := required_ofFields (hlist _) rfl
  have hwarnings : (ofFields r.jsonFields).required "warnings"
      (Json.Tree.list? (Diagnostic.ofJson? (depth + 2))) = some r.warnings := required_ofFields (hlist _) rfl
  have htotalErrors : (ofFields r.jsonFields).required "total_errors" Json.Tree.uint64? =
      some r.totalErrors := required_ofFields (Json.Tree.uint64?_ofInt _) rfl
  have htotalWarnings : (ofFields r.jsonFields).required "total_warnings" Json.Tree.uint64? =
      some r.totalWarnings := required_ofFields (Json.Tree.uint64?_ofInt _) rfl
  simp only [ofJson?, hfields, herrors, hwarnings, htotalErrors, htotalWarnings, Option.bind_eq_bind,
    Option.bind_some]

end Report

end TapeToJava
