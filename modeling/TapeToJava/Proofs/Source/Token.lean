import Mathlib.Data.Nat.Init
import TapeToJava.Proofs.Source.File
import TapeToJava.Source.Token

/-! The tokens of a text are its operator characters, each with the line and the column of its index. In a
text that is not too long the lines and columns are exact, and they ascend from token to token. -/

namespace TapeToJava

open Text

/-- A span starts before another one does: in an earlier line, or further to the left in the same line. -/
def Span.Before (s s' : Span) : Prop :=
  s.line < s'.line ∨ s.line = s'.line ∧ s.column < s'.column

theorem Span.not_before_of_eq {s s' : Span} (hline : s.line = s'.line) (hcolumn : s.column = s'.column) :
    ¬s.Before s' := by
  rintro (h | ⟨-, h⟩)
  · exact UInt32.ne_of_lt h hline
  · exact UInt32.ne_of_lt h hcolumn

/-- The place of an index. -/
def Cursor.ofIndex (cs : List Char) (i : Nat) : Cursor :=
  ⟨lineAt cs i, columnAt cs i⟩

namespace Cursor

theorem advance_ofIndex {cs : List Char} {i : Nat} {c : Char} (h : cs[i]? = some c) :
    (Cursor.ofIndex cs i).advance c = Cursor.ofIndex cs (i + 1) := by
  have htake : cs.take (i + 1) = cs.take i ++ [c] := by rw [List.take_add_one, h]; rfl
  rw [Cursor.ofIndex, Cursor.ofIndex, advance, lineAt, lineAt, columnAt, columnAt, htake, List.count_append,
    List.reverse_append, List.reverse_singleton, List.singleton_append, List.takeWhile_cons,
    List.count_singleton]
  by_cases hc : c = '\n'
  · simp [hc]
  · simp [hc]

/-- A place comes before another one: in an earlier line, or further to the left in the same line. -/
def Before (p q : Cursor) : Prop :=
  p.line < q.line ∨ p.line = q.line ∧ p.column < q.column

theorem Before.trans {p q r : Cursor} (h : p.Before q) (h' : q.Before r) : p.Before r := by
  unfold Before at *
  omega

theorem before_advance (p : Cursor) (c : Char) : p.Before (p.advance c) := by
  rw [advance]
  split
  · exact Or.inl (Nat.lt_succ_self _)
  · exact Or.inr ⟨rfl, Nat.lt_succ_self _⟩

theorem ofIndex_before {cs : List Char} {i j : Nat} (hij : i < j) (hj : j < cs.length) :
    (Cursor.ofIndex cs i).Before (Cursor.ofIndex cs j) := by
  induction j, hij using Nat.le_induction with
  | base =>
      rw [← advance_ofIndex (List.getElem?_eq_getElem (Nat.lt_of_succ_lt hj))]
      exact before_advance _ _
  | succ j _ ih =>
      refine (ih (Nat.lt_of_succ_lt hj)).trans ?_
      rw [← advance_ofIndex (List.getElem?_eq_getElem (Nat.lt_of_succ_lt hj))]
      exact before_advance _ _

section Span

variable {cs : List Char} {i : Nat}

theorem toNat_line_ofIndex (hi : i < cs.length) (hlength : cs.length < UInt32.size) :
    (Cursor.ofIndex cs i).span.line.toNat = lineAt cs i :=
  UInt32.toNat_ofNat_of_lt' (Nat.lt_of_le_of_lt (lineAt_le cs i) (Nat.lt_of_le_of_lt hi hlength))

theorem toNat_column_ofIndex (hi : i < cs.length) (hlength : cs.length < UInt32.size) :
    (Cursor.ofIndex cs i).span.column.toNat = columnAt cs i :=
  UInt32.toNat_ofNat_of_lt' (Nat.lt_of_le_of_lt (columnAt_le cs i) (Nat.lt_of_le_of_lt hi hlength))

theorem span_ofIndex_before {j : Nat} (hij : i < j) (hj : j < cs.length) (hlength : cs.length < UInt32.size) :
    (Cursor.ofIndex cs i).span.Before (Cursor.ofIndex cs j).span := by
  have hi := Nat.lt_trans hij hj
  rw [Span.Before, UInt32.lt_iff_toNat_lt, UInt32.lt_iff_toNat_lt, ← UInt32.toNat_inj,
    toNat_line_ofIndex hi hlength, toNat_line_ofIndex hj hlength, toNat_column_ofIndex hi hlength,
    toNat_column_ofIndex hj hlength]
  exact ofIndex_before hij hj

end Span

end Cursor

/-- The token of a character with its index, if it is an operator. -/
def Token.ofIndexed? (cs : List Char) (x : Char × Nat) : Option Token :=
  (Operator.ofChar? x.1).map fun op => ⟨op, (Cursor.ofIndex cs x.2).span⟩

theorem Token.ofIndexed?_eq_some_iff {cs : List Char} {x : Char × Nat} {t : Token} :
    Token.ofIndexed? cs x = some t ↔ x.1 = t.operator.char ∧ t.span = (Cursor.ofIndex cs x.2).span := by
  rw [Token.ofIndexed?, Option.map_eq_some_iff]
  constructor
  · rintro ⟨op, hop, rfl⟩
    exact ⟨Operator.ofChar?_eq_some_iff.mp hop, rfl⟩
  · rintro ⟨hop, hspan⟩
    exact ⟨t.operator, Operator.ofChar?_eq_some_iff.mpr hop, by rw [← hspan]⟩

namespace Lexed

theorem tokensFrom_ofIndex (cs : List Char) {i : Nat} {rest : List Char} (h : cs.drop i = rest) :
    tokensFrom (Cursor.ofIndex cs i) rest = (rest.zipIdx i).filterMap (Token.ofIndexed? cs) := by
  induction rest generalizing i with
  | nil => rfl
  | cons c rest ih =>
      have hc : cs[i]? = some c := by rw [← List.head?_drop, h]; rfl
      have hrest : cs.drop (i + 1) = rest := by rw [← List.drop_drop, h]; rfl
      rw [tokensFrom, Cursor.advance_ofIndex hc, ih hrest, List.zipIdx_cons, List.filterMap_cons, Token.ofIndexed?]
      cases Operator.ofChar? c <;> rfl

theorem tokens_ofText (s : String) :
    (ofText s).tokens = s.toList.zipIdx.filterMap (Token.ofIndexed? s.toList) :=
  tokensFrom_ofIndex s.toList List.drop_zero

theorem mem_tokens_iff {s : String} {t : Token} :
    t ∈ (ofText s).tokens ↔
      ∃ i, s.toList[i]? = some t.operator.char ∧ t.span = (Cursor.ofIndex s.toList i).span := by
  rw [tokens_ofText, List.mem_filterMap]
  constructor
  · rintro ⟨⟨c, i⟩, hmem, ht⟩
    obtain ⟨hop, hspan⟩ := Token.ofIndexed?_eq_some_iff.mp ht
    refine ⟨i, ?_, hspan⟩
    rw [← hop]
    exact List.mem_zipIdx_iff_getElem?.mp hmem
  · rintro ⟨i, hchar, hspan⟩
    exact ⟨(t.operator.char, i), List.mem_zipIdx_iff_getElem?.mpr hchar,
      Token.ofIndexed?_eq_some_iff.mpr ⟨rfl, hspan⟩⟩

theorem length_tokens_le (s : String) : (ofText s).tokens.length ≤ s.length := by
  rw [tokens_ofText, ← String.length_toList]
  calc (s.toList.zipIdx.filterMap (Token.ofIndexed? s.toList)).length
      ≤ s.toList.zipIdx.length := List.length_filterMap_le _ _
    _ = s.toList.length := List.length_zipIdx

/-- The spans of the tokens ascend. -/
theorem pairwise_tokens {s : String} (hlength : s.length < UInt32.size) :
    (ofText s).tokens.Pairwise fun t t' => t.span.Before t'.span := by
  rw [← String.length_toList] at hlength
  rw [tokens_ofText, List.pairwise_filterMap]
  apply List.pairwise_iff_getElem.mpr
  intro i j hi hj hij t ht t' ht'
  rw [List.getElem_zipIdx] at ht ht'
  rw [(Token.ofIndexed?_eq_some_iff.mp ht).2, (Token.ofIndexed?_eq_some_iff.mp ht').2]
  rw [List.length_zipIdx] at hj
  exact Cursor.span_ofIndex_before (Nat.add_lt_add_left hij 0) (by rwa [Nat.zero_add]) hlength

end Lexed

/-- An operator in a text is found at the line and the column of its place. -/
theorem SourceFile.charAt?_operator {f : SourceFile} (hlength : f.text.length < UInt32.size) {i : Nat}
    {op : Operator} (h : f.text.toList[i]? = some op.char) :
    f.charAt? (Cursor.ofIndex f.text.toList i).span.line (Cursor.ofIndex f.text.toList i).span.column =
      some op.char := by
  have hi : i < f.text.toList.length := (List.getElem?_eq_some_iff.mp h).1
  rw [← String.length_toList] at hlength
  apply charAt?_eq h
  · cases op <;> decide
  · cases op <;> decide
  · exact Cursor.toNat_line_ofIndex hi hlength
  · exact Cursor.toNat_column_ofIndex hi hlength

end TapeToJava
