import Mathlib.Data.List.Basic
import Mathlib.Data.List.Count
import TapeToJava.Proofs.Source.Operators
import TapeToJava.Proofs.Source.Token
import TapeToJava.Proofs.Text.Utf8

/-! The tokens of a file that is read from raw bytes. Operators and line feeds are ASCII, and decoding leaves
ASCII alone; so each operator is read from its own byte and stands in the line of that byte, however ill-formed
the bytes around it are. -/

namespace TapeToJava

open Text

/-! ### Operators and line feeds are ASCII -/

theorem Operator.ofChar?_of_not_isAscii {c : Char} (h : Utf8.isAscii c = false) : Operator.ofChar? c = none := by
  rw [Option.eq_none_iff_forall_ne_some]
  rintro op hop
  rw [Operator.ofChar?_eq_some_iff.mp hop] at h
  cases op <;> exact absurd h (by decide)

theorem Operator.ofChar?_byteChar (byte : UInt8) :
    Operator.ofChar? (Utf8.byteChar byte) = Operator.ofByte? byte := by
  rw [Operator.ofByte?]
  split
  case isTrue => rfl
  case isFalse h => exact Operator.ofChar?_of_not_isAscii (by rw [Utf8.isAscii_byteChar, decide_eq_false h])

theorem Text.Utf8.byteChar_injective : Function.Injective Utf8.byteChar := by
  intro byte byte' h
  have hnat := congrArg Char.toNat h
  rw [Utf8.toNat_byteChar, Utf8.toNat_byteChar] at hnat
  exact UInt8.toNat_inj.mp hnat

theorem Text.lineAt_map_byteChar (bytes : List UInt8) (i : Nat) :
    lineAt (bytes.map Utf8.byteChar) i = (bytes.take i).count 0x0A + 1 := by
  have hfeed : Utf8.byteChar 0x0A = '\n' := by decide
  rw [lineAt, ← List.map_take, ← hfeed, List.count_map_of_injective _ _ Utf8.byteChar_injective]

theorem Cursor.line_advance_of_not_isAscii (p : Cursor) {c : Char} (h : Utf8.isAscii c = false) :
    (p.advance c).line = p.line := by
  have hfeed : c ≠ '\n' := by
    rintro rfl
    exact absurd h (by decide)
  rw [Cursor.advance, if_neg hfeed]

theorem Cursor.line_advance_congr {p q : Cursor} (h : p.line = q.line) (c : Char) :
    (p.advance c).line = (q.advance c).line := by
  rw [Cursor.advance, Cursor.advance]
  split
  · exact congrArg (· + 1) h
  · exact h

/-! ### Operators with their lines -/

/-- What a token tells without its columns: its operator and the number of its line. -/
def Token.inLine (t : Token) : Operator × Nat :=
  (t.operator, t.span.line.toNat)

/-- The operator of a byte with its index, and the number of its line: one more than the line feeds in front of
it. -/
def Operator.inLine? (bytes : List UInt8) (x : UInt8 × Nat) : Option (Operator × Nat) :=
  (Operator.ofByte? x.1).map fun op => (op, (bytes.take x.2).count 0x0A + 1)

theorem Operator.map_fst_inLine? (bytes : List UInt8) :
    (bytes.zipIdx.filterMap (Operator.inLine? bytes)).map Prod.fst = bytes.filterMap Operator.ofByte? := by
  calc (bytes.zipIdx.filterMap (Operator.inLine? bytes)).map Prod.fst
      = bytes.zipIdx.filterMap fun x => (Operator.inLine? bytes x).map Prod.fst := List.map_filterMap
    _ = bytes.zipIdx.filterMap (Operator.ofByte? ∘ Prod.fst) := by
        refine List.filterMap_congr fun x _ => ?_
        rw [Operator.inLine?, Option.map_map]
        exact Option.map_id'
    _ = bytes.filterMap Operator.ofByte? := by
        rw [← List.filterMap_map, List.zipIdx_map_fst]

namespace Lexed

/-- Leaving out what is not ASCII moves no operator to another line. -/
theorem inLine_tokensFrom_filter {p q : Cursor} (h : p.line = q.line) (cs : List Char) :
    (tokensFrom p cs).map Token.inLine = (tokensFrom q (cs.filter Utf8.isAscii)).map Token.inLine := by
  induction cs generalizing p q with
  | nil => rfl
  | cons c cs ih =>
      rw [List.filter_cons]
      by_cases hc : Utf8.isAscii c = true
      · have hnext := ih (Cursor.line_advance_congr h c)
        rw [if_pos hc, tokensFrom, tokensFrom]
        cases Operator.ofChar? c with
        | none => exact hnext
        | some op =>
            have hspan : p.span.line = q.span.line := congrArg UInt32.ofNat h
            rw [List.map_cons, List.map_cons, hnext, Token.inLine, Token.inLine, hspan]
      · have hc := Bool.eq_false_iff.mpr hc
        rw [hc, if_neg Bool.false_ne_true, tokensFrom, Operator.ofChar?_of_not_isAscii hc]
        exact ih ((Cursor.line_advance_of_not_isAscii p hc).trans h)

theorem inLine_tokensFrom_byteChar {bytes : List UInt8} (hlength : bytes.length < UInt32.size) :
    (tokensFrom .first (bytes.map Utf8.byteChar)).map Token.inLine =
      bytes.zipIdx.filterMap (Operator.inLine? bytes) := by
  have htokens := tokensFrom_ofIndex (bytes.map Utf8.byteChar) (i := 0) List.drop_zero
  rw [show Cursor.first = Cursor.ofIndex (bytes.map Utf8.byteChar) 0 from rfl, htokens, List.zipIdx_map,
    List.filterMap_map, List.map_filterMap]
  refine List.filterMap_congr fun x hx => ?_
  have hindex : x.2 < bytes.length := by
    have hmem := List.mem_zipIdx hx
    omega
  rw [← List.length_map (f := Utf8.byteChar)] at hindex hlength
  rw [Function.comp_apply, Token.ofIndexed?, Prod.map_fst, Prod.map_snd, Operator.ofChar?_byteChar, id,
    Option.map_map, Operator.inLine?]
  congr 1
  funext op
  rw [Function.comp_apply, Token.inLine, Cursor.toNat_line_ofIndex hindex hlength, lineAt_map_byteChar]

end Lexed

namespace SourceFile

/-- However ill-formed the bytes of a file are, its tokens are the operators among them, each in the line of its
byte. -/
theorem tokens_ofBytes (name : String) {bytes : List UInt8} (h : bytes.length < UInt32.size - 1) :
    Token.operators (Lexed.ofText (ofBytes name bytes).text).tokens = bytes.filterMap Operator.ofByte? ∧
      (Lexed.ofText (ofBytes name bytes).text).tokens.map Token.inLine =
        bytes.zipIdx.filterMap (Operator.inLine? bytes) := by
  have hlines : (Lexed.ofText (ofBytes name bytes).text).tokens.map Token.inLine =
      bytes.zipIdx.filterMap (Operator.inLine? bytes) := by
    calc (Lexed.tokensFrom .first (Utf8.decode bytes).toList).map Token.inLine
        = (Lexed.tokensFrom .first ((Utf8.decode bytes).toList.filter Utf8.isAscii)).map Token.inLine :=
          Lexed.inLine_tokensFrom_filter rfl _
      _ = (Lexed.tokensFrom .first ((bytes.map Utf8.byteChar).filter Utf8.isAscii)).map Token.inLine := by
          rw [Utf8.filter_isAscii_decode]
      _ = (Lexed.tokensFrom .first (bytes.map Utf8.byteChar)).map Token.inLine :=
          (Lexed.inLine_tokensFrom_filter rfl _).symm
      _ = bytes.zipIdx.filterMap (Operator.inLine? bytes) :=
          Lexed.inLine_tokensFrom_byteChar (Nat.lt_of_lt_of_le h (Nat.sub_le _ _))
  refine ⟨?_, hlines⟩
  rw [← Operator.map_fst_inLine? bytes, ← hlines, List.map_map]
  rfl

/-- Characters that are cut short swallow neither the operator nor the line feed that cuts them. -/
theorem tokens_ofBytes_ill_formed :
    (Lexed.ofText (ofBytes "cut.bf" [0xE2, 0x2B, 0x0A, 0xF0, 0x9F, 0x5B, 0xFF, 0x0A, 0x5D]).text).tokens.map
      Token.inLine = [(.increment, 1), (.loopOpen, 2), (.loopClose, 3)] := by
  rw [(tokens_ofBytes "cut.bf" (by decide)).2]
  decide

end SourceFile

end TapeToJava
