import TapeToJava.Proofs.Bracket.Balance
import TapeToJava.Source.Token

/-! The operators of a text. Reading it into tokens and leaving its comments out keep the same operators, so
that a text without comments is told by the tokens of the text with them. -/

namespace TapeToJava

namespace Lexed

theorem operators_tokensFrom (p : Cursor) (cs : List Char) :
    Token.operators (tokensFrom p cs) = cs.filterMap Operator.ofChar? := by
  induction cs generalizing p with
  | nil => rfl
  | cons c cs ih =>
      rw [tokensFrom, List.filterMap_cons]
      cases Operator.ofChar? c with
      | none => exact ih (p.advance c)
      | some op => rw [Token.operators_cons, ih (p.advance c)]

theorem operators_ofText (s : String) :
    Token.operators (ofText s).tokens = s.toList.filterMap Operator.ofChar? :=
  operators_tokensFrom .first s.toList

end Lexed

/-- The characters that are left without the comments are those of the tokens. -/
theorem toList_normalize (s : String) :
    (normalize s).toList = (Token.operators (Lexed.ofText s).tokens).map Operator.char := by
  rw [normalize, String.toList_ofList, Lexed.operators_ofText]
  induction s.toList with
  | nil => rfl
  | cons c cs ih =>
      rw [List.filter_cons, List.filterMap_cons]
      cases hop : Operator.ofChar? c with
      | none => exact ih
      | some op =>
          have hc := Operator.ofChar?_eq_some_iff.mp hop
          rw [if_pos (show (some op).isSome = true from rfl), ih, hc, List.map_cons]

theorem normalize_eq_iff {s s' : String} :
    normalize s = normalize s' ↔
      Token.operators (Lexed.ofText s).tokens = Token.operators (Lexed.ofText s').tokens := by
  rw [← String.toList_inj, toList_normalize, toList_normalize]
  exact List.map_inj_right fun _ _ => Operator.char_injective

end TapeToJava
