import TapeToJava.Generation
import TapeToJava.Proofs.Java.Body
import TapeToJava.Proofs.Java.LineMap
import TapeToJava.Proofs.Java.Scaffold
import TapeToJava.Proofs.Source.Token

/-! Tracing Java lines back to the source. The lines in front of the program, the lines of its operators, the
entries of the map and the places of the tokens are counted each on its own; they agree, so that a line of the
program leads to the operator that it was made from and every operator is reached from exactly one line. -/

namespace TapeToJava

open Text Java

namespace Java.CompilationUnit

/-- The entry of a line, in the map of a class. -/
theorem find?_eq_some_iff {m : LineMap} {tokens : List Token}
    (hentries : m.entries = entriesFrom Scaffold.prologueLines tokens) (hlength : tokens.length < UInt32.size - 7)
    {line : UInt32} {e : LineEntry} :
    m.find? line = some e ↔
      ∃ i t, tokens[i]? = some t ∧ line.toNat = 7 + i ∧ e = ⟨line, t.operator, t.span⟩ := by
  have hget : ∀ i, m.entries[i]? = tokens[i]?.map fun t =>
      (⟨UInt32.ofNat (7 + i), t.operator, t.span⟩ : LineEntry) := by
    intro i
    rw [hentries, getElem?_entriesFrom, show Scaffold.prologueLines + i + 1 = 7 + i by
      rw [Scaffold.prologueLines]; omega]
  have hlines : ∀ i e, m.entries[i]? = some e → e.javaLine.toNat = 7 + i := by
    intro i e he
    rw [hget] at he
    obtain ⟨t, ht, rfl⟩ := Option.map_eq_some_iff.mp he
    have hi := (List.getElem?_eq_some_iff.mp ht).1
    exact UInt32.toNat_ofNat_of_lt' (by omega)
  rw [LineMap.find?_eq_getElem? hlines]
  constructor
  · intro h
    split at h
    · rename_i hle
      have hline := hlines _ e h
      rw [hget] at h
      obtain ⟨t, ht, he⟩ := Option.map_eq_some_iff.mp h
      refine ⟨line.toNat - 7, t, ht, by omega, ?_⟩
      rw [← he, Nat.add_sub_cancel' hle, UInt32.ofNat_toNat]
    · cases h
  · rintro ⟨i, t, ht, hline, rfl⟩
    rw [if_pos (by omega), hline, Nat.add_sub_cancel_left, hget, ht, ← hline, UInt32.ofNat_toNat]
    rfl

end Java.CompilationUnit

namespace SourceFile

variable {f : SourceFile} {name : ClassName} {g : Generated}

/-- What a class is made of. -/
theorem generate_eq_ok (h : f.generate name = .ok g) :
    g.java.text = Scaffold.wrap name (String.ofList (Body.render (Token.operators (Lexed.ofText f.text).tokens))) ∧
      g.java.operatorCount = (Lexed.ofText f.text).tokens.length ∧
      g.java.lineMap.entries =
        CompilationUnit.entriesFrom Scaffold.prologueLines (Lexed.ofText f.text).tokens := by
  rw [generate, CompilationUnit.ofTokens] at h
  cases hbody : Body.ofTokens (Lexed.ofText f.text).tokens with
  | error fault => rw [hbody] at h; cases h
  | ok body =>
      obtain ⟨-, rfl⟩ := Body.ofTokens_eq_ok_iff.mp hbody
      rw [hbody] at h
      cases h
      exact ⟨rfl, rfl, rfl⟩

theorem find?_lineMap_eq_some_iff (hlength : f.text.length < UInt32.size - 7) (h : f.generate name = .ok g)
    {line : UInt32} {e : LineEntry} :
    g.java.lineMap.find? line = some e ↔
      ∃ i t, (Lexed.ofText f.text).tokens[i]? = some t ∧ line.toNat = 7 + i ∧
        e = ⟨line, t.operator, t.span⟩ :=
  CompilationUnit.find?_eq_some_iff (generate_eq_ok h).2.2
    (Nat.lt_of_le_of_lt (Lexed.length_tokens_le f.text) hlength)

theorem exists_find?_lineMap_iff (hlength : f.text.length < UInt32.size - 7) (h : f.generate name = .ok g)
    (line : UInt32) :
    (∃ e, g.java.lineMap.find? line = some e) ↔ 7 ≤ line.toNat ∧ line.toNat ≤ 6 + g.java.operatorCount := by
  rw [(generate_eq_ok h).2.1]
  constructor
  · rintro ⟨e, he⟩
    obtain ⟨i, t, ht, hline, -⟩ := (find?_lineMap_eq_some_iff hlength h).mp he
    have hi := (List.getElem?_eq_some_iff.mp ht).1
    omega
  · rintro ⟨hle, hge⟩
    have hi : line.toNat - 7 < (Lexed.ofText f.text).tokens.length := by omega
    have hline : line.toNat = 7 + (line.toNat - 7) := by omega
    exact ⟨_, (find?_lineMap_eq_some_iff hlength h).mpr ⟨_, _, List.getElem?_eq_getElem hi, hline, rfl⟩⟩

theorem exists_lines_java (hlength : f.text.length < UInt32.size - 7) (hname : name.isIdentifier = true)
    (h : f.generate name = .ok g) :
    ∃ ls, lines g.java.text.toList = ls ++ [[]] ∧ ls.length = 6 + g.java.operatorCount + 3 ∧
      ∀ line e, g.java.lineMap.find? line = some e →
        ls[line.toNat - 1]? = some (statement e.operator).toList := by
  obtain ⟨htext, hcount, -⟩ := generate_eq_ok h
  obtain ⟨before, behind, hbefore, hbehind, hlines⟩ :=
    Scaffold.exists_lines_wrap (newline_not_mem_of_isIdentifier hname)
      (Token.operators (Lexed.ofText f.text).tokens)
  rw [Scaffold.prologueLines] at hbefore
  refine ⟨_, by rw [htext, hlines], ?_, ?_⟩
  · rw [List.length_append, List.length_append, List.length_map, hbefore, hbehind, hcount,
      Token.length_operators]
  · intro line e he
    obtain ⟨i, t, ht, hline, rfl⟩ := (find?_lineMap_eq_some_iff hlength h).mp he
    have hi := (List.getElem?_eq_some_iff.mp ht).1
    have hindex : line.toNat - 1 - before.length = i := by omega
    rw [List.append_assoc, List.getElem?_append_right (by omega), hindex, List.getElem?_append_left,
      List.getElem?_map, Token.operators, List.getElem?_map, ht]
    · rfl
    · rwa [List.length_map, Token.length_operators]

theorem charAt?_of_find? (hlength : f.text.length < UInt32.size - 7) (h : f.generate name = .ok g) {line : UInt32}
    {e : LineEntry} (he : g.java.lineMap.find? line = some e) :
    f.charAt? e.span.line e.span.column = some e.operator.char := by
  obtain ⟨i, t, ht, -, rfl⟩ := (find?_lineMap_eq_some_iff hlength h).mp he
  obtain ⟨k, hk, hspan⟩ := Lexed.mem_tokens_iff.mp (List.mem_of_getElem? ht)
  rw [hspan]
  exact charAt?_operator (by omega) hk

theorem before_of_find? (hlength : f.text.length < UInt32.size - 7) (h : f.generate name = .ok g)
    {line line' : UInt32} {e e' : LineEntry} (he : g.java.lineMap.find? line = some e)
    (he' : g.java.lineMap.find? line' = some e') (hlt : line < line') : e.span.Before e'.span := by
  obtain ⟨i, t, ht, hi, rfl⟩ := (find?_lineMap_eq_some_iff hlength h).mp he
  obtain ⟨j, t', ht', hj, rfl⟩ := (find?_lineMap_eq_some_iff hlength h).mp he'
  obtain ⟨hi', rfl⟩ := List.getElem?_eq_some_iff.mp ht
  obtain ⟨hj', rfl⟩ := List.getElem?_eq_some_iff.mp ht'
  rw [UInt32.lt_iff_toNat_lt] at hlt
  exact List.pairwise_iff_getElem.mp (Lexed.pairwise_tokens (by omega)) i j hi' hj' (by omega)

theorem existsUnique_find? (hlength : f.text.length < UInt32.size - 7) (h : f.generate name = .ok g) {i : Nat}
    {op : Operator} (hop : f.text.toList[i]? = some op.char) :
    ∃! line, ∃ e, g.java.lineMap.find? line = some e ∧ e.operator = op ∧
      e.span.line.toNat = lineAt f.text.toList i ∧ e.span.column.toNat = columnAt f.text.toList i := by
  have hi : i < f.text.toList.length := (List.getElem?_eq_some_iff.mp hop).1
  have hlength' : f.text.toList.length < UInt32.size := by
    rw [String.length_toList]
    omega
  have hmem : (⟨op, (Cursor.ofIndex f.text.toList i).span⟩ : Token) ∈ (Lexed.ofText f.text).tokens :=
    Lexed.mem_tokens_iff.mpr ⟨i, hop, rfl⟩
  obtain ⟨k, hk⟩ := List.mem_iff_getElem?.mp hmem
  have hcount : k < (Lexed.ofText f.text).tokens.length := (List.getElem?_eq_some_iff.mp hk).1
  have hjava : (UInt32.ofNat (7 + k)).toNat = 7 + k := by
    apply UInt32.toNat_ofNat_of_lt'
    have hle := Lexed.length_tokens_le f.text
    omega
  have hentry := (find?_lineMap_eq_some_iff hlength h).mpr ⟨k, _, hk, hjava, rfl⟩
  have hline := Cursor.toNat_line_ofIndex hi hlength'
  have hcolumn := Cursor.toNat_column_ofIndex hi hlength'
  refine ⟨UInt32.ofNat (7 + k), ⟨_, hentry, rfl, hline, hcolumn⟩, ?_⟩
  -- Two lines that lead to the same place cannot stand one before the other.
  rintro line ⟨e, he, -, hline', hcolumn'⟩
  have hsameLine := UInt32.toNat_inj.mp (hline'.trans hline.symm)
  have hsameColumn := UInt32.toNat_inj.mp (hcolumn'.trans hcolumn.symm)
  rcases Nat.lt_trichotomy line.toNat (UInt32.ofNat (7 + k)).toNat with hlt | heq | hlt
  · have hbefore := before_of_find? hlength h he hentry (UInt32.lt_iff_toNat_lt.mpr hlt)
    exact absurd hbefore (Span.not_before_of_eq hsameLine hsameColumn)
  · exact UInt32.toNat_inj.mp heq
  · have hbefore := before_of_find? hlength h hentry he (UInt32.lt_iff_toNat_lt.mpr hlt)
    exact absurd hbefore (Span.not_before_of_eq hsameLine.symm hsameColumn.symm)

/-- A Java line has an entry exactly when it is a line of the program. The line is the one its entry's operator
is written as, and the operator stands at the entry's place in the source. The places ascend with the lines,
and each operator of the source is the one of exactly one line. -/
theorem find?_lineMap_traces (hlength : f.text.length < UInt32.size - 7) (hname : name.isIdentifier = true)
    (h : f.generate name = .ok g) :
    (∀ line, (∃ e, g.java.lineMap.find? line = some e) ↔
      7 ≤ line.toNat ∧ line.toNat ≤ 6 + g.java.operatorCount) ∧
    (∃ ls, lines g.java.text.toList = ls ++ [[]] ∧ ls.length = 6 + g.java.operatorCount + 3 ∧
      ∀ line e, g.java.lineMap.find? line = some e →
        ls[line.toNat - 1]? = some (statement e.operator).toList) ∧
    (∀ line e, g.java.lineMap.find? line = some e →
      f.charAt? e.span.line e.span.column = some e.operator.char) ∧
    (∀ line line' e e', g.java.lineMap.find? line = some e → g.java.lineMap.find? line' = some e' →
      line < line' → e.span.Before e'.span) ∧
    ∀ i op, f.text.toList[i]? = some op.char → ∃! line, ∃ e, g.java.lineMap.find? line = some e ∧
      e.operator = op ∧ e.span.line.toNat = lineAt f.text.toList i ∧
        e.span.column.toNat = columnAt f.text.toList i := by
  refine ⟨exists_find?_lineMap_iff hlength h, exists_lines_java hlength hname h, ?_, ?_, ?_⟩
  · intro line e he
    exact charAt?_of_find? hlength h he
  · intro line line' e e' he he' hlt
    exact before_of_find? hlength h he he' hlt
  · intro i op hop
    exact existsUnique_find? hlength h hop

/-- A program on two lines: its third operator stands in the first column of the second one. -/
theorem find?_lineMap_traces_two_lines :
    "+[\r\n-]".length < UInt32.size - 7 ∧ (ClassName.mk "Main").isIdentifier = true ∧
      ∃ g, (SourceFile.mk "main.bf" "+[\r\n-]").generate ⟨"Main"⟩ = .ok g ∧
        ∃ e, g.java.lineMap.find? 9 = some e ∧
          (SourceFile.mk "main.bf" "+[\r\n-]").charAt? e.span.line e.span.column = some e.operator.char := by
  have hlength : "+[\r\n-]".length < UInt32.size - 7 := by decide
  have hname : (ClassName.mk "Main").isIdentifier = true := by decide
  obtain ⟨g, hg, hcount⟩ : ∃ g, (SourceFile.mk "main.bf" "+[\r\n-]").generate ⟨"Main"⟩ = .ok g ∧
      g.java.operatorCount = 4 := ⟨_, rfl, rfl⟩
  obtain ⟨hrange, -, hchar, -, -⟩ := find?_lineMap_traces hlength hname hg
  obtain ⟨e, he⟩ := (hrange 9).mpr ⟨by decide, by rw [hcount]; decide⟩
  exact ⟨hlength, hname, g, hg, e, he, hchar 9 e he⟩

end SourceFile

end TapeToJava
