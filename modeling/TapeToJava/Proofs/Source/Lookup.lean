import TapeToJava.Proofs.Source.Operators
import TapeToJava.Proofs.Source.Token

/-! The tokens of a text against its lines looked up by number. An operator stands in a column of a line exactly when
there is a token of it with this place, so the tokens, whose places ascend, list the operators of all lines. -/

namespace TapeToJava

namespace Lexed

/-- A place holds an operator when there is a token for it. -/
theorem mem_tokens_iff_charAt? {f : SourceFile} (hlength : f.text.length < UInt32.size) {op : Operator}
    {line column : UInt32} :
    ⟨op, .point line column⟩ ∈ (ofText f.text).tokens ↔ f.charAt? line column = some op.char := by
  constructor
  · intro h
    obtain ⟨i, hchar, hspan⟩ := mem_tokens_iff.mp h
    have hfound := SourceFile.charAt?_operator hlength hchar
    rwa [← hspan] at hfound
  · intro h
    obtain ⟨i, hchar, hline, hcolumn⟩ := SourceFile.exists_index_of_charAt? h
    refine mem_tokens_iff.mpr ⟨i, hchar, ?_⟩
    rw [Cursor.ofIndex, Cursor.span, ← hline, ← hcolumn, UInt32.ofNat_toNat, UInt32.ofNat_toNat]

theorem span_eq_point {s : String} {t : Token} (h : t ∈ (ofText s).tokens) :
    t.span = .point t.span.line t.span.column := by
  obtain ⟨i, -, hspan⟩ := mem_tokens_iff.mp h
  rw [hspan]
  rfl

theorem nodup_tokens {s : String} (hlength : s.length < UInt32.size) : (ofText s).tokens.Nodup := by
  refine (pairwise_tokens hlength).imp fun hbefore heq => ?_
  rw [heq] at hbefore
  exact Span.not_before_of_eq rfl rfl hbefore

/-- Every character is either an operator or left out. -/
theorem length_tokens_add_discarded (s : String) :
    (ofText s).tokens.length + (ofText s).discarded = s.length := by
  have htokens : (ofText s).tokens.length = s.toList.countP fun c => (Operator.ofChar? c).isSome := by
    rw [← Token.length_operators, operators_ofText, List.length_filterMap_eq_countP]
  have hdiscarded : (ofText s).discarded = s.toList.countP fun c => ¬(Operator.ofChar? c).isSome := by
    simp only [ofText, Bool.not_eq_true, Option.isSome_eq_false_iff, Bool.decide_eq_true]
  rw [htokens, hdiscarded, ← List.length_eq_countP_add_countP, String.length_toList]

/-- The tokens of a text are the operators of its lines, each with its line and column, in the order of their places
and without repetition. -/
theorem tokens_list_operators (f : SourceFile) (hlength : f.text.length < UInt32.size - 1) :
    (ofText f.text).tokens.Pairwise (fun t t' => t.span.Before t'.span) ∧
    (ofText f.text).tokens.Nodup ∧
    (∀ t ∈ (ofText f.text).tokens, t.span = .point t.span.line t.span.column) ∧
    (∀ op line column, ⟨op, .point line column⟩ ∈ (ofText f.text).tokens ↔
      f.charAt? line column = some op.char) ∧
    (ofText f.text).tokens.length + (ofText f.text).discarded = f.text.length := by
  have hlength' : f.text.length < UInt32.size := by omega
  exact ⟨pairwise_tokens hlength', nodup_tokens hlength', fun t => span_eq_point,
    fun op line column => mem_tokens_iff_charAt? hlength', length_tokens_add_discarded f.text⟩

/-- A text with a character of two bytes, an empty line, a carriage return within a line and one at its end. -/
theorem tokens_list_operators_returns :
    "é+\r\n\n[\r]\r".length < UInt32.size - 1 ∧
      ⟨.loopClose, .point 3 3⟩ ∈ (ofText "é+\r\n\n[\r]\r").tokens ∧
      (ofText "é+\r\n\n[\r]\r").tokens.Pairwise fun t t' => t.span.Before t'.span := by
  have hlength : "é+\r\n\n[\r]\r".length < UInt32.size - 1 := by decide
  obtain ⟨hascending, -, -, hplaces, -⟩ := tokens_list_operators ⟨"returns.bf", "é+\r\n\n[\r]\r"⟩ hlength
  exact ⟨hlength, (hplaces .loopClose 3 3).mpr (by decide), hascending⟩

end Lexed

end TapeToJava
