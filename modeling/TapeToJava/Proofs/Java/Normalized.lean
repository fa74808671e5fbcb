import TapeToJava.Proofs.Bracket.Matching
import TapeToJava.Proofs.Java.Body
import TapeToJava.Proofs.Source.Operators
import TapeToJava.Proofs.Source.Token

/-! A text and what is left of it without its comments. They have the same operators, and a body is made or refused
by the operators alone; only the places differ, which are lines and columns of the text for the one and indices on
a single line for the other. The bracket that is blamed is the same token of both. -/

namespace TapeToJava

namespace Token

theorem operators_ofNormalized (s : String) : operators (ofNormalized s) = s.toList.filterMap Operator.ofChar? := by
  apply List.ext_getElem?
  intro i
  rw [operators, ofNormalized, List.getElem?_map, List.getElem?_mapIdx, Option.map_map]
  exact Option.map_id'

/-- A token of a text without comments stands on line one, in the column of its index. -/
theorem span_of_getElem?_ofNormalized {s : String} {i : Nat} {t : Token} (h : (ofNormalized s)[i]? = some t) :
    t.span = .point 1 (UInt32.ofNat (i + 1)) := by
  rw [ofNormalized, List.getElem?_mapIdx] at h
  obtain ⟨op, -, rfl⟩ := Option.map_eq_some_iff.mp h
  rfl

end Token

theorem Lexed.normalized_ofText (s : String) : (ofText s).normalized = normalize s := by
  rw [normalized, ← String.toList_inj, String.toList_ofList, toList_normalize, Token.operators, List.map_map]
  rfl

theorem operators_ofNormalized_normalize (s : String) :
    Token.operators (Token.ofNormalized (normalize s)) = Token.operators (Lexed.ofText s).tokens := by
  have hchar : Operator.ofChar? ∘ Operator.char = some := funext Operator.ofChar?_char
  rw [Token.operators_ofNormalized, toList_normalize, List.filterMap_map, hchar, List.filterMap_some]

namespace Java.Body

theorem ofTokens_of_imbalance_none {tokens others : List Token} (h : imbalance? tokens = none)
    (h' : imbalance? others = none) (hops : Token.operators tokens = Token.operators others) :
    ∃ body, ofTokens tokens = .ok body ∧ ofTokens others = .ok body := by
  have hlength : tokens.length = others.length := by
    rw [← Token.length_operators, hops, Token.length_operators]
  refine ⟨_, by rw [ofTokens_eq, h], ?_⟩
  rw [ofTokens_eq, h', hops, hlength]

/-- A text and what is left of it without its comments have the same body, or they are refused for the same fault:
the text at its `k`-th token where the other is refused in column `k`. -/
theorem ofTokens_agrees_ofNormalized (s : String) (hlength : s.length < UInt32.size - 1) :
    (Lexed.ofText s).normalized = normalize s ∧
    ((∃ body, ofTokens (Lexed.ofText s).tokens = .ok body ∧ ofNormalized (normalize s) = .ok body) ∨
      ∃ (k : UInt32) (t : Token), 0 < k ∧ (Lexed.ofText s).tokens[k.toNat - 1]? = some t ∧
        ((ofTokens (Lexed.ofText s).tokens = .error (.strayClose t.span) ∧
            ofNormalized (normalize s) = .error (.strayClose (.point 1 k))) ∨
          ∃ depth, ofTokens (Lexed.ofText s).tokens = .error (.unclosed depth t.span) ∧
            ofNormalized (normalize s) = .error (.unclosed depth (.point 1 k)))) := by
  have hops := (operators_ofNormalized_normalize s).symm
  refine ⟨Lexed.normalized_ofText s, ?_⟩
  rcases Matching.imbalance?_of_operators_eq hops with ⟨hnone, hnone'⟩ | ⟨i, t, t', ht, ht', hfault⟩
  · exact Or.inl (ofTokens_of_imbalance_none hnone hnone' hops)
  · have hi : i < (Lexed.ofText s).tokens.length := (List.getElem?_eq_some_iff.mp ht).1
    have htokens := Lexed.length_tokens_le s
    -- The index is that of a character of the text, so the column does not wrap.
    have hk : (UInt32.ofNat (i + 1)).toNat = i + 1 := UInt32.toNat_ofNat_of_lt' (by omega)
    refine Or.inr ⟨UInt32.ofNat (i + 1), t, ?_, ?_, ?_⟩
    · rw [UInt32.lt_iff_toNat_lt, hk]
      exact Nat.succ_pos i
    · rw [hk, Nat.add_sub_cancel, ht]
    · rw [← Token.span_of_getElem?_ofNormalized ht']
      rcases hfault with ⟨hstray, hstray'⟩ | ⟨depth, hunclosed, hunclosed'⟩
      · exact Or.inl ⟨ofTokens_eq_error_iff.mpr hstray, ofTokens_eq_error_iff.mpr hstray'⟩
      · exact Or.inr ⟨depth, ofTokens_eq_error_iff.mpr hunclosed, ofTokens_eq_error_iff.mpr hunclosed'⟩

/-- A loop over two lines and one bracket too many behind it. -/
theorem ofTokens_agrees_ofNormalized_stray :
    "a[\n]é]".length < UInt32.size - 1 ∧ (Lexed.ofText "a[\n]é]").normalized = normalize "a[\n]é]" ∧
      ∃ (k : UInt32) (t : Token), (Lexed.ofText "a[\n]é]").tokens[k.toNat - 1]? = some t ∧ t.span = .point 2 3 ∧
        ofNormalized (normalize "a[\n]é]") = .error (.strayClose (.point 1 k)) := by
  have hlength : "a[\n]é]".length < UInt32.size - 1 := by decide
  have hfirst : ofTokens (Lexed.ofText "a[\n]é]").tokens = .error (.strayClose (.point 2 3)) := rfl
  obtain ⟨hnormalized, hagree⟩ := ofTokens_agrees_ofNormalized "a[\n]é]" hlength
  rw [hfirst] at hagree
  rcases hagree with ⟨body, hbody, -⟩ | ⟨k, t, -, ht, ⟨hstray, hstray'⟩ | ⟨depth, hunclosed, -⟩⟩
  · cases hbody
  · simp only [Except.error.injEq, Imbalance.strayClose.injEq] at hstray
    exact ⟨hlength, hnormalized, k, t, ht, hstray.symm, hstray'⟩
  · cases hunclosed

end Java.Body

end TapeToJava
