import TapeToJava.Json.Reader
import TapeToJava.Proofs.Json.Token

/-! Values and their tokens. The reader makes a value of its tokens, whatever is open around it; the printer
writes these tokens, with blanks between them or without. So a value is read back from either of its texts. -/

namespace TapeToJava.Json

namespace Tree

mutual

/-- The tokens of a value. -/
def tokens : Tree → List Token
  | null => [.null]
  | bool value => [.bool value]
  | number literal => [.number literal]
  | string literal => [.string literal]
  | array [] => [.arrayOpen, .arrayClose]
  | array (v :: vs) => .arrayOpen :: tokens v ++ itemTokens vs
  | object [] => [.objectOpen, .objectClose]
  | object ((k, v) :: ms) => .objectOpen :: .string k :: .colon :: tokens v ++ memberTokens ms

/-- The tokens of the items behind the first one, and the end of the array. -/
def itemTokens : List Tree → List Token
  | [] => [.arrayClose]
  | v :: vs => .comma :: tokens v ++ itemTokens vs

/-- The tokens of the members behind the first one, and the end of the object. -/
def memberTokens : List (List Char × Tree) → List Token
  | [] => [.objectClose]
  | (k, v) :: ms => .comma :: .string k :: .colon :: tokens v ++ memberTokens ms

end

end Tree

/-! ### Reading the tokens -/

namespace Reader

open Json.Tree

/-- An array of which an item has begun is read as if it had had items before. -/
theorem run_firstItem (t : Tree) (items : List Tree) (stack : List Frame) (rest : List Token) :
    State.run ⟨.array items :: stack, .firstItem⟩ (t.tokens ++ rest) =
      State.run ⟨.array items :: stack, .value⟩ (t.tokens ++ rest) := by
  cases t with
  | null => rfl
  | bool value => rfl
  | number literal => rfl
  | string literal => rfl
  | array vs =>
      cases vs with
      | nil => rfl
      | cons v vs => rfl
  | object ms =>
      cases ms with
      | nil => rfl
      | cons m ms => rfl

mutual

/-- The tokens of a value are read as that value. -/
theorem run_tokens (t : Tree) (stack : List Frame) (rest : List Token) :
    State.run ⟨stack, .value⟩ (t.tokens ++ rest) = State.run ⟨stack, .after t⟩ rest := by
  match t with
  | .null => rfl
  | .bool value => rfl
  | .number literal => rfl
  | .string literal => rfl
  | .array [] => rfl
  | .array (v :: vs) =>
      -- The first item is read in a phase of its own, in which the array might still end.
      have hopen : State.run ⟨stack, .value⟩ ((Tree.array (v :: vs)).tokens ++ rest) =
          State.run ⟨.array [] :: stack, .firstItem⟩ (v.tokens ++ (itemTokens vs ++ rest)) := by
        simp only [tokens, List.cons_append, List.append_assoc]
        rfl
      rw [hopen, run_firstItem, run_tokens v, run_itemTokens vs]
      rfl
  | .object [] => rfl
  | .object ((k, v) :: ms) =>
      have hopen : State.run ⟨stack, .value⟩ ((Tree.object ((k, v) :: ms)).tokens ++ rest) =
          State.run ⟨.object [] k :: stack, .value⟩ (v.tokens ++ (memberTokens ms ++ rest)) := by
        simp only [tokens, List.cons_append, List.append_assoc]
        rfl
      rw [hopen, run_tokens v, run_memberTokens ms]
      rfl

theorem run_itemTokens (vs : List Tree) (v : Tree) (items : List Tree) (stack : List Frame) (rest : List Token) :
    State.run ⟨.array items :: stack, .after v⟩ (itemTokens vs ++ rest) =
      State.run ⟨stack, .after (.array ((v :: items).reverse ++ vs))⟩ rest := by
  match vs with
  | [] =>
      rw [List.append_nil]
      rfl
  | w :: vs =>
      have hcomma : State.run ⟨.array items :: stack, .after v⟩ (itemTokens (w :: vs) ++ rest) =
          State.run ⟨.array (v :: items) :: stack, .value⟩ (w.tokens ++ (itemTokens vs ++ rest)) := by
        simp only [itemTokens, List.cons_append, List.append_assoc]
        rfl
      rw [hcomma, run_tokens w, run_itemTokens vs, List.reverse_cons, List.append_assoc, List.singleton_append]

theorem run_memberTokens (ms : List (List Char × Tree)) (k : List Char) (v : Tree)
    (members : List (List Char × Tree)) (stack : List Frame) (rest : List Token) :
    State.run ⟨.object members k :: stack, .after v⟩ (memberTokens ms ++ rest) =
      State.run ⟨stack, .after (.object (((k, v) :: members).reverse ++ ms))⟩ rest := by
  match ms with
  | [] =>
      rw [List.append_nil]
      rfl
  | (l, w) :: ms =>
      have hcomma : State.run ⟨.object members k :: stack, .after v⟩ (memberTokens ((l, w) :: ms) ++ rest) =
          State.run ⟨.object ((k, v) :: members) l :: stack, .value⟩ (w.tokens ++ (memberTokens ms ++ rest)) := by
        simp only [memberTokens, List.cons_append, List.append_assoc]
        rfl
      rw [hcomma, run_tokens w, run_memberTokens ms, List.reverse_cons, List.append_assoc, List.singleton_append]

end

theorem value?_tokens (t : Tree) : value? t.tokens = some t := by
  have hrun := run_tokens t [] []
  rw [List.append_nil] at hrun
  rw [value?, hrun, State.run]

end Reader

/-! ### Writing them -/

namespace Tree

open Token

variable {cs : List Char} {ts : List Token}

/-- A value of which every literal stands for itself. -/
def IsSpelled (t : Tree) : Prop :=
  ∀ token ∈ t.tokens, token.IsSpelled

theorem separated_cons {c : Char} (h : isBare c = false) : Separated (c :: cs) := by
  intro c' hc'
  cases hc'
  exact h

theorem separated_prettyItems (depth : Nat) (vs : List Tree) (cs : List Char) :
    Separated (prettyItems depth vs ++ cs) := by
  cases vs with
  | nil => exact separated_cons rfl
  | cons v vs => exact separated_cons rfl

theorem separated_prettyMembers (depth : Nat) (ms : List (List Char × Tree)) (cs : List Char) :
    Separated (prettyMembers depth ms ++ cs) := by
  cases ms with
  | nil => exact separated_cons rfl
  | cons m ms => exact separated_cons rfl

theorem spells_newLine (depth : Nat) (h : Spells cs ts) : Spells (newLine depth ++ cs) ts := by
  refine h.blanks fun c hc => ?_
  rcases List.mem_cons.mp hc with rfl | hc
  · rfl
  · rw [List.eq_of_mem_replicate hc]
    rfl

/-- A key and its colon, in front of what spells the member's value. -/
theorem spells_key {k : List Char} (hk : (Token.string k).IsSpelled) (h : Spells cs ts) :
    Spells (inQuotes k ++ ':' :: cs) (.string k :: .colon :: ts) :=
  .mark rfl hk (.mark (t := .colon) rfl trivial h)

mutual

/-- A value is written as its tokens, with blanks between them. -/
theorem spells_pretty {cs : List Char} {ts : List Token} (t : Tree) (depth : Nat)
    (ht : ∀ token ∈ t.tokens, token.IsSpelled) (hcs : Separated cs) (h : Spells cs ts) :
    Spells (t.pretty depth ++ cs) (t.tokens ++ ts) := by
  match t with
  | .null => exact .token (t := .null) trivial (fun _ => hcs) h
  | .bool value => exact .token (t := .bool value) trivial (fun _ => hcs) h
  | .number literal => exact .token (ht _ List.mem_cons_self) (fun _ => hcs) h
  | .string literal => exact .token (ht _ List.mem_cons_self) (fun _ => hcs) h
  | .array [] => exact .mark (t := .arrayOpen) rfl trivial (.mark (t := .arrayClose) rfl trivial h)
  | .array (v :: vs) =>
      simp only [tokens, List.cons_append, List.forall_mem_cons, List.forall_mem_append] at ht
      obtain ⟨-, hfirst, hrest⟩ := ht
      have hitems := spells_prettyItems vs depth hrest h
      have hv := spells_pretty v (depth + 1) hfirst (separated_prettyItems depth vs cs) hitems
      simp only [pretty, tokens, List.cons_append, List.append_assoc]
      exact .mark (t := .arrayOpen) rfl trivial (spells_newLine _ hv)
  | .object [] => exact .mark (t := .objectOpen) rfl trivial (.mark (t := .objectClose) rfl trivial h)
  | .object ((k, v) :: ms) =>
      simp only [tokens, List.cons_append, List.forall_mem_cons, List.forall_mem_append] at ht
      obtain ⟨-, hkey, -, hfirst, hrest⟩ := ht
      have hmembers := spells_prettyMembers ms depth hrest h
      have hv := spells_pretty v (depth + 1) hfirst (separated_prettyMembers depth ms cs) hmembers
      simp only [pretty, tokens, List.cons_append, List.append_assoc]
      exact .mark (t := .objectOpen) rfl trivial (spells_newLine _ (spells_key hkey (.blank rfl hv)))

theorem spells_prettyItems {cs : List Char} {ts : List Token} (vs : List Tree) (depth : Nat)
    (hvs : ∀ token ∈ itemTokens vs, token.IsSpelled) (h : Spells cs ts) :
    Spells (prettyItems depth vs ++ cs) (itemTokens vs ++ ts) := by
  match vs with
  | [] =>
      simp only [prettyItems, List.append_assoc]
      exact spells_newLine _ (.mark (t := .arrayClose) rfl trivial h)
  | v :: vs =>
      simp only [itemTokens, List.cons_append, List.forall_mem_cons, List.forall_mem_append] at hvs
      obtain ⟨-, hfirst, hrest⟩ := hvs
      have hitems := spells_prettyItems vs depth hrest h
      have hv := spells_pretty v (depth + 1) hfirst (separated_prettyItems depth vs cs) hitems
      simp only [prettyItems, itemTokens, List.cons_append, List.append_assoc]
      exact .mark (t := .comma) rfl trivial (spells_newLine _ hv)

theorem spells_prettyMembers {cs : List Char} {ts : List Token} (ms : List (List Char × Tree)) (depth : Nat)
    (hms : ∀ token ∈ memberTokens ms, token.IsSpelled) (h : Spells cs ts) :
    Spells (prettyMembers depth ms ++ cs) (memberTokens ms ++ ts) := by
  match ms with
  | [] =>
      simp only [prettyMembers, List.append_assoc]
      exact spells_newLine _ (.mark (t := .objectClose) rfl trivial h)
  | (k, v) :: ms =>
      simp only [memberTokens, List.cons_append, List.forall_mem_cons, List.forall_mem_append] at hms
      obtain ⟨-, hkey, -, hfirst, hrest⟩ := hms
      have hmembers := spells_prettyMembers ms depth hrest h
      have hv := spells_pretty v (depth + 1) hfirst (separated_prettyMembers depth ms cs) hmembers
      simp only [prettyMembers, memberTokens, List.cons_append, List.append_assoc]
      exact .mark (t := .comma) rfl trivial (spells_newLine _ (spells_key hkey (.blank rfl hv)))

end

/-! ### Writing them without blanks -/

theorem separated_compactItems (vs : List Tree) (cs : List Char) : Separated (compactItems vs ++ cs) := by
  cases vs with
  | nil => exact separated_cons rfl
  | cons v vs => exact separated_cons rfl

theorem separated_compactMembers (ms : List (List Char × Tree)) (cs : List Char) :
    Separated (compactMembers ms ++ cs) := by
  cases ms with
  | nil => exact separated_cons rfl
  | cons m ms => exact separated_cons rfl

mutual

/-- Without blanks a value is written as its tokens in a row. -/
theorem spells_compact {cs : List Char} {ts : List Token} (t : Tree)
    (ht : ∀ token ∈ t.tokens, token.IsSpelled) (hcs : Separated cs) (h : Spells cs ts) :
    Spells (t.compact ++ cs) (t.tokens ++ ts) := by
  match t with
  | .null => exact .token (t := .null) trivial (fun _ => hcs) h
  | .bool value => exact .token (t := .bool value) trivial (fun _ => hcs) h
  | .number literal => exact .token (ht _ List.mem_cons_self) (fun _ => hcs) h
  | .string literal => exact .token (ht _ List.mem_cons_self) (fun _ => hcs) h
  | .array [] => exact .mark (t := .arrayOpen) rfl trivial (.mark (t := .arrayClose) rfl trivial h)
  | .array (v :: vs) =>
      simp only [tokens, List.cons_append, List.forall_mem_cons, List.forall_mem_append] at ht
      obtain ⟨-, hfirst, hrest⟩ := ht
      have hitems := spells_compactItems vs hrest h
      have hv := spells_compact v hfirst (separated_compactItems vs cs) hitems
      simp only [compact, tokens, List.cons_append, List.append_assoc]
      exact .mark (t := .arrayOpen) rfl trivial hv
  | .object [] => exact .mark (t := .objectOpen) rfl trivial (.mark (t := .objectClose) rfl trivial h)
  | .object ((k, v) :: ms) =>
      simp only [tokens, List.cons_append, List.forall_mem_cons, List.forall_mem_append] at ht
      obtain ⟨-, hkey, -, hfirst, hrest⟩ := ht
      have hmembers := spells_compactMembers ms hrest h
      have hv := spells_compact v hfirst (separated_compactMembers ms cs) hmembers
      simp only [compact, tokens, List.cons_append, List.append_assoc]
      exact .mark (t := .objectOpen) rfl trivial (spells_key hkey hv)

theorem spells_compactItems {cs : List Char} {ts : List Token} (vs : List Tree)
    (hvs : ∀ token ∈ itemTokens vs, token.IsSpelled) (h : Spells cs ts) :
    Spells (compactItems vs ++ cs) (itemTokens vs ++ ts) := by
  match vs with
  | [] => exact .mark (t := .arrayClose) rfl trivial h
  | v :: vs =>
      simp only [itemTokens, List.cons_append, List.forall_mem_cons, List.forall_mem_append] at hvs
      obtain ⟨-, hfirst, hrest⟩ := hvs
      have hitems := spells_compactItems vs hrest h
      have hv := spells_compact v hfirst (separated_compactItems vs cs) hitems
      simp only [compactItems, itemTokens, List.cons_append, List.append_assoc]
      exact .mark (t := .comma) rfl trivial hv

theorem spells_compactMembers {cs : List Char} {ts : List Token} (ms : List (List Char × Tree))
    (hms : ∀ token ∈ memberTokens ms, token.IsSpelled) (h : Spells cs ts) :
    Spells (compactMembers ms ++ cs) (memberTokens ms ++ ts) := by
  match ms with
  | [] => exact .mark (t := .objectClose) rfl trivial h
  | (k, v) :: ms =>
      simp only [memberTokens, List.cons_append, List.forall_mem_cons, List.forall_mem_append] at hms
      obtain ⟨-, hkey, -, hfirst, hrest⟩ := hms
      have hmembers := spells_compactMembers ms hrest h
      have hv := spells_compact v hfirst (separated_compactMembers ms cs) hmembers
      simp only [compactMembers, memberTokens, List.cons_append, List.append_assoc]
      exact .mark (t := .comma) rfl trivial (spells_key hkey hv)

end

/-! ### Reading the texts -/

/-- A value is read from any text that spells its tokens. -/
theorem ofText?_of_spells {t : Tree} {s : String} (h : Spells s.toList t.tokens) : ofText? s = some t := by
  rw [ofText?, h.scan_eq, Option.bind_some, Reader.value?_tokens]

theorem separated_of_blanks {blanks : List Char} (h : ∀ c ∈ blanks, isBlank c = true) : Separated blanks := by
  intro c hc
  have hblank := h c (List.mem_of_head? hc)
  rw [Bool.eq_false_iff]
  intro hbare
  rw [not_isBlank_of_isBare hbare] at hblank
  cases hblank

/-- What is written is read back, also with blanks behind it. -/
theorem ofText?_prettyText_append {t : Tree} (ht : t.IsSpelled) {blanks : String}
    (hblanks : ∀ c ∈ blanks.toList, isBlank c = true) : ofText? (t.prettyText ++ blanks) = some t := by
  have hbehind : Spells (blanks.toList ++ []) [] := Spells.nil.blanks hblanks
  rw [List.append_nil] at hbehind
  have hspells := spells_pretty t 0 ht (separated_of_blanks hblanks) hbehind
  rw [List.append_nil] at hspells
  apply ofText?_of_spells
  rwa [String.toList_append, prettyText, String.toList_ofList]

theorem ofText?_prettyText {t : Tree} (ht : t.IsSpelled) : ofText? t.prettyText = some t := by
  rw [← String.append_empty (s := t.prettyText)]
  exact ofText?_prettyText_append ht (List.forall_mem_nil _)

theorem ofText?_compactText {t : Tree} (ht : t.IsSpelled) : ofText? t.compactText = some t := by
  have hspells := spells_compact t ht (fun _ h => by cases h) .nil
  rw [List.append_nil, List.append_nil] at hspells
  apply ofText?_of_spells
  rwa [compactText, String.toList_ofList]

/-- What is made of a value is made of both its texts. -/
theorem bind_ofText?_texts {α : Type} {decode : Tree → Option α} {t : Tree} {a : α} (ht : t.IsSpelled)
    (h : decode t = some a) :
    (ofText? t.compactText).bind decode = some a ∧ (ofText? t.prettyText).bind decode = some a := by
  rw [ofText?_compactText ht, ofText?_prettyText ht, Option.bind_some]
  exact ⟨h, h⟩

end Tree

end TapeToJava.Json
