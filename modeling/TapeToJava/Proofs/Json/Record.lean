import TapeToJava.Json.Record
import TapeToJava.Json.Storable
import TapeToJava.Proofs.Json.Tree

/-! Values that stand for texts, numbers and records are written and read back, and the fields of a record are
found in it by their names. -/

namespace TapeToJava.Json

namespace Tree

variable {α : Type} {vs : List Tree} {ms : List (List Char × Tree)} {fields : List (String × Tree)}

/-! ### Literals -/

theorem isSpelled_null : null.IsSpelled :=
  List.forall_mem_singleton.mpr trivial

theorem isSpelled_bool (value : Bool) : (bool value).IsSpelled :=
  List.forall_mem_singleton.mpr trivial

theorem isSpelled_ofText (s : String) : (ofText s).IsSpelled :=
  List.forall_mem_singleton.mpr (Token.isQuotable_escape s.toList)

theorem isSpelled_ofInt (n : Nat) : (ofInt n).IsSpelled := by
  refine List.forall_mem_singleton.mpr ⟨fun c hc => ?_, ?_⟩
  · have hdigit := Numeral.isDigit_of_mem_toDigits hc
    simp [Token.isBare, Char.isAlphanum, hdigit]
  · rw [show integerLiteral n = Nat.toDigits 10 n from rfl, Numeral.ofLiteral?_toDigits]
    rfl

theorem isSpelled_ofOption {encode : α → Tree} (h : ∀ a, (encode a).IsSpelled) (a : Option α) :
    (ofOption encode a).IsSpelled := by
  cases a with
  | none => exact isSpelled_null
  | some a => exact h a

theorem isSpelled_itemTokens (h : ∀ v ∈ vs, v.IsSpelled) : ∀ token ∈ itemTokens vs, token.IsSpelled := by
  induction vs with
  | nil => exact List.forall_mem_singleton.mpr trivial
  | cons v vs ih =>
      obtain ⟨hv, hvs⟩ := List.forall_mem_cons.mp h
      simp only [itemTokens, List.cons_append, List.forall_mem_cons, List.forall_mem_append]
      exact ⟨trivial, hv, ih hvs⟩

theorem isSpelled_array (h : ∀ v ∈ vs, v.IsSpelled) : (array vs).IsSpelled := by
  cases vs with
  | nil =>
      simp only [IsSpelled, tokens, List.forall_mem_cons]
      exact ⟨trivial, trivial, List.forall_mem_nil _⟩
  | cons v vs =>
      obtain ⟨hv, hvs⟩ := List.forall_mem_cons.mp h
      simp only [IsSpelled, tokens, List.cons_append, List.forall_mem_cons, List.forall_mem_append]
      exact ⟨trivial, hv, isSpelled_itemTokens hvs⟩

theorem isSpelled_memberTokens (h : ∀ m ∈ ms, Token.IsQuotable m.1 ∧ m.2.IsSpelled) :
    ∀ token ∈ memberTokens ms, token.IsSpelled := by
  induction ms with
  | nil => exact List.forall_mem_singleton.mpr trivial
  | cons m ms ih =>
      obtain ⟨⟨hkey, hv⟩, hms⟩ := List.forall_mem_cons.mp h
      simp only [memberTokens, List.cons_append, List.forall_mem_cons, List.forall_mem_append]
      exact ⟨trivial, hkey, trivial, hv, ih hms⟩

theorem isSpelled_object (h : ∀ m ∈ ms, Token.IsQuotable m.1 ∧ m.2.IsSpelled) : (object ms).IsSpelled := by
  cases ms with
  | nil =>
      simp only [IsSpelled, tokens, List.forall_mem_cons]
      exact ⟨trivial, trivial, List.forall_mem_nil _⟩
  | cons m ms =>
      obtain ⟨⟨hkey, hv⟩, hms⟩ := List.forall_mem_cons.mp h
      simp only [IsSpelled, tokens, List.cons_append, List.forall_mem_cons, List.forall_mem_append]
      exact ⟨trivial, hkey, trivial, hv, isSpelled_memberTokens hms⟩

theorem isSpelled_record (h : ∀ field ∈ fields, field.2.IsSpelled) : (record fields).IsSpelled := by
  refine isSpelled_object fun m hm => ?_
  obtain ⟨field, hfield, rfl⟩ := List.mem_map.mp hm
  exact ⟨Token.isQuotable_escape _, h field hfield⟩

/-! ### Reading back -/

theorem ofText_ne_null (s : String) : ofText s ≠ null := by
  intro h
  cases h

theorem text?_ofText (s : String) : (ofText s).text? = some s := by
  rw [ofText, text?, unescape_escape, Option.map_some, String.ofList_toList]

theorem int?_ofInt {low high : Int} {n : Nat} (hlow : low ≤ n) (hhigh : n ≤ high) :
    (ofInt n).int? low high = some (n : Int) := by
  rw [ofInt, int?, integer?_integerLiteral, Option.filter_some_pos]
  exact decide_eq_true ⟨hlow, hhigh⟩

theorem uint16?_ofInt (n : UInt16) : (ofInt n.toNat).uint16? = some n := by
  have hlt := n.toNat_lt
  rw [uint16?, int?_ofInt (by omega) (by omega), Option.map_some, Int.toNat_natCast, UInt16.ofNat_toNat]

theorem uint32?_ofInt (n : UInt32) : (ofInt n.toNat).uint32? = some n := by
  have hlt := n.toNat_lt
  rw [uint32?, int?_ofInt (by omega) (by omega), Option.map_some, Int.toNat_natCast, UInt32.ofNat_toNat]

theorem uint64?_ofInt (n : UInt64) : (ofInt n.toNat).uint64? = some n := by
  have hlt := n.toNat_lt
  rw [uint64?, int?_ofInt (by omega) (by omega), Option.map_some, Int.toNat_natCast, UInt64.ofNat_toNat]

theorem list?_map {encode : α → Tree} {decode : Tree → Option α} (h : ∀ a, decode (encode a) = some a)
    (as : List α) : list? decode (.array (as.map encode)) = some as := by
  rw [list?]
  induction as with
  | nil => rfl
  | cons a as ih => rw [List.map_cons, List.mapM_cons, h a, ih]; rfl

theorem choice?_ofText {name : α → String} {all : List α} {a : α}
    (h : all.find? (fun b => name b == name a) = some a) : choice? name all (ofText (name a)) = some a := by
  simp only [choice?, ofText, unescape_escape, Option.bind_eq_bind, Option.bind_some, String.ofList_toList, h]

theorem isStorable_ofInt {n : Nat} (h : n ≤ Numeral.maxDigits) (levels : Nat) :
    (ofInt n).isStorable levels = true := by
  rw [ofInt, show integerLiteral n = Nat.toDigits 10 n from rfl, isStorable, Numeral.ofLiteral?_toDigits,
    Option.map_some, Option.getD_some, Numeral.isFinite_toDigits h]

end Tree

/-! ### Fields of records -/

namespace Members

/-- The members that fields give. -/
def ofFields (fields : List (String × Tree)) : Members :=
  fields.map fun field => (field.1.toList, field.2)

variable {α : Type} {fields : List (String × Tree)} {name : String} {v : Tree}

theorem members?_record (fields : List (String × Tree)) :
    (Tree.record fields).members? = some (ofFields fields) := by
  rw [Tree.record, Tree.members?]
  induction fields with
  | nil => rfl
  | cons field fields ih =>
      obtain ⟨key, v⟩ := field
      rw [List.map_cons, List.mapM_cons, ih]
      dsimp only
      rw [unescape_escape]
      rfl

theorem named_ofFields (fields : List (String × Tree)) (name : String) :
    (ofFields fields).named name = (fields.filter fun field => field.1 == name).map (·.2) := by
  have hkey : ∀ field : String × Tree, (field.1.toList == name.toList) = (field.1 == name) := fun field => by
    rw [Bool.eq_iff_iff, beq_iff_eq, beq_iff_eq, String.toList_inj]
  simp only [named, ofFields, List.filter_map, List.map_map, Function.comp_def, hkey]

theorem fields?_record (names : List String) (fields : List (String × Tree)) :
    (Tree.record fields).fields? names = some (ofFields fields) :=
  members?_record fields

theorem required_of_named_eq {ms : Members} {decode : Tree → Option α} {a : α} (hdecode : decode v = some a)
    (h : ms.named name = [v]) : ms.required name decode = some a := by
  rw [required, h]
  exact hdecode

/-- A field that stands in the record once. -/
theorem required_ofFields {decode : Tree → Option α} {a : α} (hdecode : decode v = some a)
    (h : (fields.filter fun field => field.1 == name).map (·.2) = [v]) :
    (ofFields fields).required name decode = some a :=
  required_of_named_eq hdecode (by rw [named_ofFields, h])

theorem optional_of_named_eq {ms : Members} {decode : Tree → Option α} {a : α} (hdecode : decode v = some a)
    (hnull : v ≠ .null) (h : ms.named name = [v]) : ms.optional name decode = some (some a) := by
  rw [optional, h]
  split
  · rename_i heq
    cases heq
  · rename_i heq
    exact absurd (List.cons.inj heq).1 hnull
  · rename_i w hw heq
    rw [← (List.cons.inj heq).1, hdecode, Option.map_some]
  · rename_i hne
    exact absurd rfl (hne v)

section Optional

variable {encode : α → Tree} {decode : Tree → Option α} (hdecode : ∀ a, decode (encode a) = some a)
  (hnull : ∀ a, encode a ≠ .null) {a : Option α}

include hdecode hnull

/-- An optional field that is null when it has no value. -/
theorem optional_ofFields_ofOption
    (h : (fields.filter fun field => field.1 == name).map (·.2) = [Tree.ofOption encode a]) :
    (ofFields fields).optional name decode = some a := by
  rw [← named_ofFields] at h
  cases a with
  | none => rw [optional, h, Tree.ofOption]
  | some a => exact optional_of_named_eq (hdecode a) (hnull a) h

/-- An optional field that is left out when it has no value. -/
theorem optional_ofFields_toList
    (h : (fields.filter fun field => field.1 == name).map (·.2) = (a.map encode).toList) :
    (ofFields fields).optional name decode = some a := by
  rw [← named_ofFields] at h
  cases a with
  | none => rw [optional, h]; rfl
  | some a => exact optional_of_named_eq (hdecode a) (hnull a) h

end Optional

end Members

end TapeToJava.Json
