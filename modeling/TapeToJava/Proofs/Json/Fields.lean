import Mathlib.Data.List.Forall2
import TapeToJava.Proofs.Json.LineMap

/-! A line map is read from every text that has its fields. Their order, the blanks between the tokens, the
spelling of the strings and the members of other names make no difference; a field that is missing or stands
twice leaves no map. -/

namespace TapeToJava

namespace Json

variable {α β : Type} {ms own extras : List (List Char × Tree)} {decoded : Members} {name : String}
  {fields : List (String × (Tree → Prop))} {field : String × (Tree → Prop)} {other : Tree → Prop} {t : Tree}

theorem mapM_eq_some_iff {f : α → Option β} {as : List α} {bs : List β} :
    as.mapM f = some bs ↔ List.Forall₂ (fun a b => f a = some b) as bs := by
  induction as generalizing bs with
  | nil => simp [eq_comm]
  | cons a as ih =>
      simp only [List.mapM_cons, Option.bind_eq_bind, Option.bind_eq_some_iff, Option.pure_def, Option.some.injEq,
        List.forall₂_cons_left_iff, ih]
      constructor
      · rintro ⟨b, hb, bs, hbs, rfl⟩
        exact ⟨b, bs, hb, hbs, rfl⟩
      · rintro ⟨b, bs, hb, hbs, rfl⟩
        exact ⟨b, hb, bs, hbs, rfl⟩

theorem exists_of_forall₂_of_mem {R : α → β → Prop} {as : List α} {bs : List β} (h : List.Forall₂ R as bs)
    {a : α} (ha : a ∈ as) : ∃ b ∈ bs, R a b := by
  induction h with
  | nil => cases ha
  | cons hfirst hrest ih =>
      rcases List.mem_cons.mp ha with rfl | ha
      · exact ⟨_, List.mem_cons_self, hfirst⟩
      · obtain ⟨b, hb, hrelated⟩ := ih ha
        exact ⟨b, List.mem_cons_of_mem _ hb, hrelated⟩

/-! ### The values under a name -/

/-- The values that stand under a name in an object, however its keys are spelled. -/
def valuesOf (ms : List (List Char × Tree)) (name : String) : List Tree :=
  (ms.filter fun m => unescape m.1 == some name.toList).map (·.2)

/-- Each of the names is the key of exactly one member. -/
def EachOnce (names : List String) (ms : List (List Char × Tree)) : Prop :=
  ∀ name ∈ names, (valuesOf ms name).length = 1

theorem valuesOf_append (ms extras : List (List Char × Tree)) (name : String) :
    valuesOf (ms ++ extras) name = valuesOf ms name ++ valuesOf extras name := by
  rw [valuesOf, List.filter_append, List.map_append, valuesOf, valuesOf]

theorem valuesOf_cons (m : List Char × Tree) (ms : List (List Char × Tree)) (name : String) :
    valuesOf (m :: ms) name =
      if unescape m.1 = some name.toList then m.2 :: valuesOf ms name else valuesOf ms name := by
  by_cases hkey : unescape m.1 = some name.toList <;> simp [valuesOf, hkey]

theorem valuesOf_eq_nil (h : ∀ m ∈ ms, unescape m.1 ≠ some name.toList) : valuesOf ms name = [] := by
  rw [valuesOf, List.filter_eq_nil_iff.mpr fun m hm heq => h m hm (beq_iff_eq.mp heq), List.map_nil]

theorem valuesOf_perm (h : ms.Perm own) (name : String) : (valuesOf ms name).Perm (valuesOf own name) :=
  (h.filter _).map _

theorem members?_object (h : ∀ m ∈ ms, (unescape m.1).isSome = true) :
    (Tree.object ms).members? = some (ms.map fun m => ((unescape m.1).getD [], m.2)) := by
  rw [Tree.members?, mapM_eq_some_iff, List.forall₂_map_right_iff, List.forall₂_same]
  intro m hm
  obtain ⟨key, hkey⟩ := Option.isSome_iff_exists.mp (h m hm)
  dsimp only
  rw [hkey, Option.map_some, Option.getD_some]

theorem Members.named_cons (d : List Char × Tree) (decoded : Members) (name : String) :
    Members.named (d :: decoded) name =
      if d.1 = name.toList then d.2 :: decoded.named name else decoded.named name := by
  by_cases hkey : d.1 = name.toList <;> simp [Members.named, hkey]

/-- The members of a name are the same before and after the keys are spelled out. -/
theorem named_of_members? (h : (Tree.object ms).members? = some decoded) (name : String) :
    decoded.named name = valuesOf ms name := by
  rw [Tree.members?, mapM_eq_some_iff] at h
  induction h with
  | nil => rfl
  | cons hm hrest ih =>
      obtain ⟨key, hkey, rfl⟩ := Option.map_eq_some_iff.mp hm
      simp only [Members.named_cons, valuesOf_cons, hkey, Option.some.injEq, ih]

theorem named_of_required {decode : Tree → Option α} {a : α} (h : decoded.required name decode = some a) :
    ∃ v, decoded.named name = [v] ∧ decode v = some a := by
  rw [Members.required] at h
  split at h
  · rename_i v hv
    exact ⟨v, hv, h⟩
  · cases h

/-- A field is read from an object only if it stands there once. -/
theorem length_valuesOf_of_required {decode : Tree → Option α} {a : α}
    (hms : (Tree.object ms).members? = some decoded) (h : decoded.required name decode = some a) :
    (valuesOf ms name).length = 1 := by
  obtain ⟨v, hv, -⟩ := named_of_required h
  rw [← named_of_members? hms, hv, List.length_singleton]

/-! ### Objects with given fields -/

/-- An object that has each of the fields once, with a value of its own, and members of other names, all of them
in any order. -/
inductive Written (fields : List (String × (Tree → Prop))) (other : Tree → Prop) : Tree → Prop
  | object {ms own extras : List (List Char × Tree)} (horder : ms.Perm (own ++ extras))
      (hown : List.Forall₂ (fun field m => unescape m.1 = some field.1.toList ∧ field.2 m.2) fields own)
      (hextras : ∀ m ∈ extras, ∃ key : String,
        unescape m.1 = some key.toList ∧ key ∉ fields.map (·.1) ∧ other m.2) :
      Written fields other (.object ms)

/-- A string that stands for a text, in whatever way it is spelled. -/
def Tree.IsText (s : String) (t : Tree) : Prop :=
  ∃ literal, t = .string literal ∧ unescape literal = some s.toList

theorem Tree.spells_prettyText (ht : t.IsSpelled) : Token.Spells t.prettyText.toList t.tokens := by
  have hspells := spells_pretty t 0 ht (separated_of_blanks (List.forall_mem_nil _)) .nil
  rw [List.append_nil, List.append_nil] at hspells
  rwa [prettyText, String.toList_ofList]

theorem Tree.IsText.text?_eq {s : String} (h : t.IsText s) : t.text? = some s := by
  obtain ⟨literal, rfl, hliteral⟩ := h
  rw [Tree.text?, hliteral, Option.map_some, String.ofList_toList]

/-- Where the names of the fields differ, each of them is the key of its own member only. -/
theorem exists_valuesOf_own
    (hown : List.Forall₂ (fun field m => unescape m.1 = some field.1.toList ∧ field.2 m.2) fields own)
    (hnames : (fields.map (·.1)).Nodup) (hfield : field ∈ fields) :
    ∃ v, valuesOf own field.1 = [v] ∧ field.2 v := by
  induction hown with
  | nil => cases hfield
  | @cons first m rest own hfirst hrest ih =>
      obtain ⟨hfresh, hnames⟩ := List.nodup_cons.mp hnames
      rcases List.mem_cons.mp hfield with rfl | hfield
      · have hothers : valuesOf own field.1 = [] := by
          refine valuesOf_eq_nil fun m hm hkey => hfresh ?_
          obtain ⟨later, hlater, hkey', -⟩ := exists_of_forall₂_of_mem hrest.flip hm
          rw [hkey, Option.some.injEq, String.toList_inj] at hkey'
          exact List.mem_map.mpr ⟨later, hlater, hkey'.symm⟩
        exact ⟨m.2, by rw [valuesOf_cons, if_pos hfirst.1, hothers], hfirst.2⟩
      · have hne : unescape m.1 ≠ some field.1.toList := by
          rw [hfirst.1, Ne, Option.some.injEq, String.toList_inj]
          exact fun hname => hfresh (List.mem_map.mpr ⟨field, hfield, hname.symm⟩)
        rw [valuesOf_cons, if_neg hne]
        exact ih hnames hfield

namespace Written

/-- What the reader makes of the members of such an object. -/
theorem members?_eq (h : Written fields other t) (hnames : (fields.map (·.1)).Nodup) :
    ∃ decoded, t.members? = some decoded ∧
      (∀ field ∈ fields, ∃ v, decoded.named field.1 = [v] ∧ field.2 v) ∧
      ∀ m ∈ decoded, (∃ field ∈ fields, m.1 = field.1.toList ∧ field.2 m.2) ∨ other m.2 := by
  obtain ⟨horder, hown, hextras⟩ := h
  rename_i ms own extras
  have hmember : ∀ m ∈ ms, ∃ key, unescape m.1 = some key ∧
      ((∃ field ∈ fields, key = field.1.toList ∧ field.2 m.2) ∨ other m.2) := by
    intro m hm
    rcases List.mem_append.mp (horder.mem_iff.mp hm) with hm | hm
    · obtain ⟨field, hfield, hkey, hvalue⟩ := exists_of_forall₂_of_mem hown.flip hm
      exact ⟨_, hkey, Or.inl ⟨field, hfield, rfl, hvalue⟩⟩
    · obtain ⟨key, hkey, -, hvalue⟩ := hextras m hm
      exact ⟨_, hkey, Or.inr hvalue⟩
  have hdecoded := members?_object fun m hm => by
    obtain ⟨key, hkey, -⟩ := hmember m hm
    exact Option.isSome_iff_exists.mpr ⟨key, hkey⟩
  refine ⟨_, hdecoded, fun field hfield => ?_, fun d hd => ?_⟩
  · obtain ⟨v, hv, hvalue⟩ := exists_valuesOf_own hown hnames hfield
    have hothers : valuesOf extras field.1 = [] := by
      refine valuesOf_eq_nil fun m hm hkey => ?_
      obtain ⟨key, hkey', hfresh, -⟩ := hextras m hm
      rw [hkey, Option.some.injEq, String.toList_inj] at hkey'
      exact hfresh (List.mem_map.mpr ⟨field, hfield, hkey'⟩)
    have hperm := valuesOf_perm horder field.1
    rw [valuesOf_append, hv, hothers, List.append_nil] at hperm
    exact ⟨v, by rw [named_of_members? hdecoded, List.perm_singleton.mp hperm], hvalue⟩
  · obtain ⟨m, hm, rfl⟩ := List.mem_map.mp hd
    obtain ⟨key, hkey, hvalue⟩ := hmember m hm
    rw [hkey, Option.getD_some]
    exact hvalue

/-- A record whose keys and texts are spelled as the printer spells them, its fields in any order. -/
theorem record {written plain extras : List (String × Tree)} (horder : written.Perm (plain ++ extras))
    (hplain : List.Forall₂ (fun field m => m.1 = field.1 ∧ field.2 m.2) fields plain)
    (hextras : ∀ m ∈ extras, m.1 ∉ fields.map (·.1) ∧ other m.2) :
    Written fields other (.record written) := by
  have hspelled := horder.map fun m : String × Tree => (escape m.1.toList, m.2)
  rw [List.map_append] at hspelled
  refine .object hspelled ?_ fun m hm => ?_
  · rw [List.forall₂_map_right_iff]
    refine hplain.imp fun field m hm => ⟨?_, hm.2⟩
    rw [unescape_escape, hm.1]
  · obtain ⟨extra, hextra, rfl⟩ := List.mem_map.mp hm
    exact ⟨extra.1, unescape_escape _, hextras extra hextra⟩

end Written

end Json

open Json Json.Members

variable {ms : List (List Char × Tree)} {t : Tree}

theorem Operator.ofJson?_of_isText {op : Operator} (h : t.IsText op.name) : ofJson? t = some op := by
  obtain ⟨literal, rfl, hliteral⟩ := h
  have hname : all.find? (fun a => a.name == op.name) = some op := op.ofName?_name
  simp only [ofJson?, Tree.choice?, hliteral, Option.bind_eq_bind, Option.bind_some, String.ofList_toList, hname]

theorem Span.eachOnce_of_ofMembers? {s : Span} {decoded : Members}
    (hdecoded : (Tree.object ms).members? = some decoded) (h : ofMembers? decoded = some s) :
    EachOnce fieldNames ms := by
  simp only [ofMembers?, Option.bind_eq_bind, Option.bind_eq_some_iff] at h
  obtain ⟨line, hline, column, hcolumn, endLine, hendLine, endColumn, hendColumn, -⟩ := h
  simp only [EachOnce, fieldNames, List.forall_mem_cons]
  exact ⟨length_valuesOf_of_required hdecoded hline, length_valuesOf_of_required hdecoded hcolumn,
    length_valuesOf_of_required hdecoded hendLine, length_valuesOf_of_required hdecoded hendColumn,
    List.forall_mem_nil _⟩

namespace Java

namespace LineEntry

/-- The names of the fields of an entry, those of its span among them. -/
def fieldNames : List String := ownFields ++ Span.fieldNames

/-- The fields of an entry, and what may be written for each of them. -/
def writtenFields (e : LineEntry) : List (String × (Tree → Prop)) :=
  ("java_line", (· = .ofInt e.javaLine.toNat)) :: ("operator", Tree.IsText e.operator.name) ::
    e.span.jsonFields.map fun field => (field.1, (· = field.2))

/-- An object that an entry is written as. The values of other names are such as the reader can store, since it
keeps them until it has sorted out the fields of the span. -/
def Written (e : LineEntry) : Tree → Prop :=
  Json.Written e.writtenFields fun v => v.isStorable (maxDepth - 3) = true

theorem nodup_writtenFields (e : LineEntry) : (e.writtenFields.map (·.1)).Nodup := by
  have hnames : e.writtenFields.map (·.1) = fieldNames := rfl
  rw [hnames]
  decide

/-- The fields as they are printed may stand in any order, among others. -/
theorem written_record {e : LineEntry} {written extras : List (String × Tree)}
    (horder : written.Perm (e.jsonFields ++ extras))
    (hextras : ∀ m ∈ extras, m.1 ∉ fieldNames ∧ m.2.isStorable (maxDepth - 3) = true) :
    e.Written (.record written) := by
  have htext : Tree.IsText e.operator.name e.operator.toJson := ⟨_, rfl, unescape_escape _⟩
  refine .record horder (.cons ⟨rfl, rfl⟩ (.cons ⟨rfl, htext⟩ ?_)) hextras
  rw [List.forall₂_map_left_iff, List.forall₂_same]
  exact fun field _ => ⟨rfl, rfl⟩

theorem ofJson?_of_written {e : LineEntry} (h : e.Written t) : ofJson? 3 t = some e := by
  obtain ⟨decoded, hdecoded, hfields, hmembers⟩ := Json.Written.members?_eq h e.nodup_writtenFields
  rw [writtenFields, List.forall_mem_cons, List.forall_mem_cons, List.forall_mem_map] at hfields
  obtain ⟨⟨javaLine, hjavaLine, rfl⟩, ⟨operator, hoperator, hname⟩, hspanFields⟩ := hfields
  have hstored : t.storedMembers? 3 ownFields = some decoded := by
    refine Tree.storedMembers?_of_members? hdecoded fun m hm => ?_
    rcases hmembers m hm with ⟨field, hfield, hkey, hvalue⟩ | hvalue
    · rw [writtenFields, List.mem_cons, List.mem_cons, List.mem_map] at hfield
      rcases hfield with rfl | rfl | ⟨spanField, hspanField, rfl⟩
      · exact Or.inl ⟨"java_line", by decide, hkey⟩
      · exact Or.inl ⟨"operator", by decide, hkey⟩
      · rw [hvalue]
        exact Or.inr (e.span.isStorable_jsonFields _ spanField hspanField)
    · exact Or.inr hvalue
  have hjavaLine : decoded.required "java_line" Tree.uint32? = some e.javaLine :=
    required_of_named_eq (Tree.uint32?_ofInt _) hjavaLine
  have hoperator : decoded.required "operator" Operator.ofJson? = some e.operator :=
    required_of_named_eq (Operator.ofJson?_of_isText hname) hoperator
  have hspan : Span.ofMembers? decoded = some e.span := by
    refine Span.ofMembers?_of_named fun field hfield => ?_
    obtain ⟨v, hv, rfl⟩ := hspanFields field hfield
    exact hv
  simp only [ofJson?, hstored, hjavaLine, hoperator, hspan, Option.bind_eq_bind, Option.bind_some]

/-- An entry is read from an object only if each of its fields stands there once. -/
theorem eachOnce_of_ofJson? {depth : Nat} {e : LineEntry} (h : ofJson? depth (.object ms) = some e) :
    EachOnce fieldNames ms := by
  simp only [ofJson?, Option.bind_eq_bind, Option.bind_eq_some_iff] at h
  obtain ⟨decoded, hstored, javaLine, hjavaLine, operator, hoperator, span, hspan, -⟩ := h
  have hdecoded : (Tree.object ms).members? = some decoded := (Option.filter_eq_some_iff.mp hstored).1
  rw [EachOnce, fieldNames, ownFields, List.forall_mem_append, List.forall_mem_cons, List.forall_mem_singleton]
  exact ⟨⟨length_valuesOf_of_required hdecoded hjavaLine, length_valuesOf_of_required hdecoded hoperator⟩,
    Span.eachOnce_of_ofMembers? hdecoded hspan⟩

end LineEntry

namespace LineMap

/-- The fields of a map, and what may be written for each of them. -/
def writtenFields (m : LineMap) : List (String × (Tree → Prop)) :=
  [("source", Tree.IsText m.source), ("class_name", Tree.IsText m.className),
    ("entries", fun v => ∃ vs, v = .array vs ∧ List.Forall₂ LineEntry.Written m.entries vs)]

/-- An object that a map is written as. The values of other names may be anything. -/
def Written (m : LineMap) : Tree → Prop :=
  Json.Written m.writtenFields fun _ => True

theorem nodup_writtenFields (m : LineMap) : (m.writtenFields.map (·.1)).Nodup := by
  have hnames : m.writtenFields.map (·.1) = fieldNames := rfl
  rw [hnames]
  decide

theorem written_record {m : LineMap} {vs : List Tree} {written extras : List (String × Tree)}
    (horder : written.Perm ([("source", .ofText m.source), ("class_name", .ofText m.className),
      ("entries", .array vs)] ++ extras))
    (hvs : List.Forall₂ LineEntry.Written m.entries vs) (hextras : ∀ m ∈ extras, m.1 ∉ fieldNames) :
    m.Written (.record written) := by
  have htext : ∀ s : String, Tree.IsText s (.ofText s) := fun s => ⟨_, rfl, unescape_escape _⟩
  refine .record horder (.cons ⟨rfl, htext _⟩ (.cons ⟨rfl, htext _⟩ (.cons ⟨rfl, vs, rfl, hvs⟩ .nil))) ?_
  exact fun extra hextra => ⟨hextras extra hextra, trivial⟩

theorem ofJson?_of_written {m : LineMap} (h : m.Written t) : ofJson? t = some m := by
  obtain ⟨decoded, hdecoded, hfields, -⟩ := Json.Written.members?_eq h m.nodup_writtenFields
  simp only [writtenFields, List.forall_mem_cons] at hfields
  obtain ⟨⟨source, hsource, hsourceText⟩, ⟨className, hclassName, hclassNameText⟩,
    ⟨entries, hentries, vs, rfl, hvs⟩, -⟩ := hfields
  have hrecord : t.fields? fieldNames = some decoded := by
    cases h
    exact hdecoded
  have hsource : decoded.required "source" Tree.text? = some m.source :=
    required_of_named_eq hsourceText.text?_eq hsource
  have hclassName : decoded.required "class_name" Tree.text? = some m.className :=
    required_of_named_eq hclassNameText.text?_eq hclassName
  have hlist : Tree.list? (LineEntry.ofJson? 3) (.array vs) = some m.entries := by
    rw [Tree.list?, mapM_eq_some_iff]
    exact hvs.flip.imp fun v e he => LineEntry.ofJson?_of_written he
  have hentries : decoded.required "entries" (Tree.list? (LineEntry.ofJson? 3)) = some m.entries :=
    required_of_named_eq hlist hentries
  simp only [ofJson?, hrecord, hsource, hclassName, hentries, Option.bind_eq_bind, Option.bind_some]

/-- A map is read from an object only if each of its fields stands there once, and each field of an entry once in
the object of the entry. -/
theorem eachOnce_of_ofJson? {m : LineMap} (h : ofJson? (.object ms) = some m) :
    EachOnce fieldNames ms ∧
      ∀ vs es, .array vs ∈ valuesOf ms "entries" → .object es ∈ vs → EachOnce LineEntry.fieldNames es := by
  simp only [ofJson?, Option.bind_eq_bind, Option.bind_eq_some_iff] at h
  obtain ⟨decoded, hrecord, source, hsource, className, hclassName, entries, hentries, -⟩ := h
  have hdecoded : (Tree.object ms).members? = some decoded := hrecord
  constructor
  · simp only [EachOnce, fieldNames, List.forall_mem_cons]
    exact ⟨length_valuesOf_of_required hdecoded hsource, length_valuesOf_of_required hdecoded hclassName,
      length_valuesOf_of_required hdecoded hentries, List.forall_mem_nil _⟩
  · intro vs es hvs hes
    obtain ⟨v, hv, hlist⟩ := named_of_required hentries
    rw [← named_of_members? hdecoded, hv, List.mem_singleton] at hvs
    rw [← hvs, Tree.list?, mapM_eq_some_iff] at hlist
    obtain ⟨e, -, he⟩ := exists_of_forall₂_of_mem hlist hes
    exact LineEntry.eachOnce_of_ofJson? he

/-- A text that has the fields of a map and of its entries is read as that map, in whatever order they stand, with
whatever blanks between the tokens and whatever members of other names. A text from which some field of the map or
of an entry is missing, or in which it stands more than once, is read as none. -/
theorem ofText?_each_field_once_in_any_order :
    (∀ (m : LineMap) (t : Tree) (s : String), m.Written t → Token.Spells s.toList t.tokens →
      ofText? s = some m) ∧
    ∀ (ms : List (List Char × Tree)) (s : String), Token.Spells s.toList (Tree.object ms).tokens →
      (¬EachOnce fieldNames ms ∨
        ∃ vs es, .array vs ∈ valuesOf ms "entries" ∧ .object es ∈ vs ∧ ¬EachOnce LineEntry.fieldNames es) →
      ofText? s = none := by
  constructor
  · intro m t s hwritten hspells
    rw [ofText?, Tree.ofText?_of_spells hspells, Option.bind_some, ofJson?_of_written hwritten]
  · intro ms s hspells hfault
    rw [ofText?, Tree.ofText?_of_spells hspells, Option.bind_some, Option.eq_none_iff_forall_ne_some]
    intro m hm
    obtain ⟨hmap, hentries⟩ := eachOnce_of_ofJson? hm
    rcases hfault with hfault | ⟨vs, es, hvs, hes, hfault⟩
    · exact hfault hmap
    · exact hfault (hentries vs es hvs hes)

/-- The printed fields of an entry in reverse order, behind a note. -/
def reversedEntry : List (String × Tree) :=
  [("note", .array [.null]), ("end_column", .ofInt 5), ("end_line", .ofInt 4), ("column", .ofInt 3),
    ("line", .ofInt 2), ("operator", .ofText "output"), ("java_line", .ofInt 1)]

/-- The fields of a map with one entry in reverse order, behind a note. -/
def reversedFields (entry : List (String × Tree)) : List (String × Tree) :=
  [("note", .null), ("entries", .array [.record entry]), ("class_name", .ofText "B"), ("source", .ofText "a")]

theorem isSpelled_reversedEntry : ∀ field ∈ reversedEntry, field.2.IsSpelled := by
  have hnumber := Tree.isSpelled_ofInt
  simp only [reversedEntry, List.forall_mem_cons]
  exact ⟨Tree.isSpelled_array (List.forall_mem_singleton.mpr Tree.isSpelled_null), hnumber _, hnumber _, hnumber _,
    hnumber _, Tree.isSpelled_ofText _, hnumber _, List.forall_mem_nil _⟩

theorem isSpelled_reversedFields {entry : List (String × Tree)} (h : ∀ field ∈ entry, field.2.IsSpelled) :
    ∀ field ∈ reversedFields entry, field.2.IsSpelled := by
  have htext := Tree.isSpelled_ofText
  simp only [reversedFields, List.forall_mem_cons]
  exact ⟨Tree.isSpelled_null, Tree.isSpelled_array (List.forall_mem_singleton.mpr (Tree.isSpelled_record h)), htext _,
    htext _, List.forall_mem_nil _⟩

/-- Once as it should be, once with a second source, and once without the last column of the entry. -/
theorem ofText?_each_field_once_in_any_order_reversed :
    ofText? (Tree.record (reversedFields reversedEntry)).prettyText =
        some ⟨"a", "B", [⟨1, .print, ⟨2, 3, 4, 5⟩⟩]⟩ ∧
      ofText? (Tree.record (("source", .ofText "a") :: reversedFields reversedEntry)).prettyText = none ∧
      ofText? (Tree.record (reversedFields (reversedEntry.drop 2))).prettyText = none := by
  have hspelled := isSpelled_reversedFields isSpelled_reversedEntry
  refine ⟨?_, ?_, ?_⟩
  · have hentry : LineEntry.Written ⟨1, .print, ⟨2, 3, 4, 5⟩⟩ (.record reversedEntry) := by
      have hreverse : reversedEntry.reverse =
          LineEntry.jsonFields ⟨1, .print, ⟨2, 3, 4, 5⟩⟩ ++ [("note", .array [.null])] := rfl
      refine LineEntry.written_record (hreverse ▸ (List.reverse_perm _).symm) ?_
      rw [List.forall_mem_singleton]
      exact ⟨by decide, by decide⟩
    have hwritten : Written ⟨"a", "B", [⟨1, .print, ⟨2, 3, 4, 5⟩⟩]⟩ (.record (reversedFields reversedEntry)) := by
      have hreverse : (reversedFields reversedEntry).reverse = [("source", .ofText "a"), ("class_name", .ofText "B"),
          ("entries", .array [.record reversedEntry])] ++ [("note", .null)] := rfl
      refine written_record (hreverse ▸ (List.reverse_perm _).symm) (.cons hentry .nil) ?_
      rw [List.forall_mem_singleton]
      decide
    exact ofText?_each_field_once_in_any_order.1 _ _ _ hwritten
      (Tree.spells_prettyText (Tree.isSpelled_record hspelled))
  · have hspelled' : (Tree.record (("source", .ofText "a") :: reversedFields reversedEntry)).IsSpelled :=
      Tree.isSpelled_record (List.forall_mem_cons.mpr ⟨Tree.isSpelled_ofText _, hspelled⟩)
    refine ofText?_each_field_once_in_any_order.2 _ _ (Tree.spells_prettyText hspelled') (Or.inl fun honce => ?_)
    exact absurd (honce "source" (by decide)) (by decide)
  · have hspelled' : (Tree.record (reversedFields (reversedEntry.drop 2))).IsSpelled :=
      Tree.isSpelled_record (isSpelled_reversedFields fun field hfield =>
        isSpelled_reversedEntry field (List.mem_of_mem_drop hfield))
    refine ofText?_each_field_once_in_any_order.2 _ _ (Tree.spells_prettyText hspelled') (Or.inr ⟨_, _,
      List.mem_singleton_self _, List.mem_singleton_self _, fun honce => ?_⟩)
    exact absurd (honce "end_column" (by decide)) (by decide)

end LineMap

end Java

end TapeToJava
