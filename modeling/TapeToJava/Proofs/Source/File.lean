import TapeToJava.Source.File
import TapeToJava.Proofs.Text.Place

/-! Looking up a line by its number. The table of byte offsets has one entry for each line, and between an
entry and the line feed in front of the next one, or the end of the text, stand the characters of the line;
so the look-up comes to splitting the text at its line feeds. -/

namespace TapeToJava.SourceFile

open Text

theorem breaksFrom_append_of_not_mem (offset : Nat) {l : List Char} (h : '\n' ∉ l) (rest : List Char) :
    breaksFrom offset (l ++ rest) = breaksFrom (offset + byteLength l) rest := by
  induction l generalizing offset with
  | nil => rfl
  | cons c l ih =>
      obtain ⟨hc, hl⟩ := not_or.mp (mt List.mem_cons.mpr h)
      rw [List.cons_append, breaksFrom]
      simp only [if_neg (Ne.symm hc)]
      rw [ih _ hl, byteLength_cons, Nat.add_assoc]

theorem breaksFrom_newline (offset : Nat) (rest : List Char) :
    breaksFrom offset ('\n' :: rest) = (offset + 1) :: breaksFrom (offset + 1) rest :=
  rfl

theorem length_breaksFrom (offset : Nat) (cs : List Char) : (breaksFrom offset cs).length = cs.count '\n' := by
  induction cs generalizing offset with
  | nil => rfl
  | cons c cs ih =>
      rw [breaksFrom, List.count_cons]
      by_cases hc : c = '\n'
      · simp only [if_pos hc, List.length_cons, ih, beq_iff_eq]
      · simp only [if_neg hc, ih, beq_iff_eq, Nat.add_zero]

theorem length_lineStarts (f : SourceFile) : f.lineStarts.length = (lines f.text.toList).length := by
  rw [lineStarts, List.length_cons, length_breaksFrom, length_lines, Nat.add_comm]

/-- Past the starts of complete lines, the table goes on as that of what stands behind them. -/
theorem drop_starts {ls : List (List Char)} (h : ∀ l ∈ ls, '\n' ∉ l) (offset : Nat) (rest : List Char) :
    (offset :: breaksFrom offset (ls.flatMap (· ++ ['\n']) ++ rest)).drop ls.length =
      (offset + byteLength (ls.flatMap (· ++ ['\n']))) ::
        breaksFrom (offset + byteLength (ls.flatMap (· ++ ['\n']))) rest := by
  induction ls generalizing offset with
  | nil => rfl
  | cons l ls ih =>
      have hl := h l List.mem_cons_self
      have hls := ih fun k hk => h k (List.mem_cons_of_mem l hk)
      rw [List.flatMap_cons, List.append_assoc, List.append_assoc, breaksFrom_append_of_not_mem offset hl,
        List.singleton_append, breaksFrom_newline, List.length_cons, List.drop_succ_cons, hls,
        byteLength_append, byteLength_append, ← Nat.add_assoc, ← Nat.add_assoc]
      rfl

/-- The bounds of a line are the number of bytes in front of it, and that number with its own bytes. -/
theorem lineBounds?_eq {f : SourceFile} {number : UInt32} {l : List Char} {before behind : List (List Char)}
    (htext : f.text.toList = before.flatMap (· ++ ['\n']) ++ l ++ behind.flatMap ('\n' :: ·))
    (hbefore : ∀ k ∈ before, '\n' ∉ k) (hl : '\n' ∉ l) (hnumber : number.toNat = before.length + 1) :
    f.lineBounds? number = some (byteLength (before.flatMap (· ++ ['\n'])),
      byteLength (before.flatMap (· ++ ['\n'])) + byteLength l) := by
  have hdrop := drop_starts hbefore 0 (l ++ behind.flatMap ('\n' :: ·))
  rw [← List.append_assoc, ← htext, Nat.zero_add, breaksFrom_append_of_not_mem _ hl] at hdrop
  have hstart : f.lineStarts[before.length]? = some (byteLength (before.flatMap (· ++ ['\n']))) := by
    rw [← Nat.add_zero before.length, ← List.getElem?_drop, lineStarts, hdrop]
    rfl
  have hnext : f.lineStarts[before.length + 1]? = (breaksFrom (byteLength (before.flatMap (· ++ ['\n'])) +
      byteLength l) (behind.flatMap ('\n' :: ·)))[0]? := by
    rw [← List.getElem?_drop, lineStarts, hdrop, List.getElem?_cons_succ]
  rw [lineBounds?, hnumber]
  simp only [hstart, hnext]
  cases behind with
  | nil =>
      rw [htext, List.flatMap_nil, List.append_nil, byteLength_append]
      rfl
  | cons k behind =>
      rw [List.flatMap_cons, List.cons_append, breaksFrom_newline]
      rfl

theorem lineCount_eq_length (f : SourceFile) : f.lineCount = (lines f.text.toList).length :=
  length_lineStarts f

/-- All that looking for the bounds of a line can come to: there is no such line, or its bounds are those of a piece
of the text. -/
theorem lineBounds?_cases (f : SourceFile) (number : UInt32) :
    (¬(1 ≤ number.toNat ∧ number.toNat ≤ f.lineCount) ∧ f.lineBounds? number = none) ∨
      ∃ before l behind, f.text.toList = before ++ l ++ behind ∧ 1 ≤ number.toNat ∧
        (lines f.text.toList)[number.toNat - 1]? = some l ∧
        f.lineBounds? number = some (byteLength before, byteLength before + byteLength l) := by
  cases hn : number.toNat with
  | zero =>
      refine Or.inl ⟨by omega, ?_⟩
      rw [lineBounds?, hn]
  | succ n =>
      cases hl : (lines f.text.toList)[n]? with
      | none =>
          have hlength := List.getElem?_eq_none_iff.mp hl
          rw [← length_lineStarts] at hlength
          refine Or.inl ⟨by rw [lineCount]; omega, ?_⟩
          rw [lineBounds?, hn]
          simp only [List.getElem?_eq_none hlength]
      | some l =>
          obtain ⟨before, behind, htext, hbefore, hnew, hlength, -⟩ := eq_append_of_getElem?_lines hl
          rw [← hlength] at hn
          exact Or.inr ⟨_, l, _, htext, Nat.le_add_left 1 n, hl, lineBounds?_eq htext hbefore hnew hn⟩

theorem line?_of_lineBounds? {f : SourceFile} {number : UInt32} {before l behind : List Char}
    (htext : f.text.toList = before ++ l ++ behind)
    (hbounds : f.lineBounds? number = some (byteLength before, byteLength before + byteLength l)) :
    f.line? number = some (String.ofList (trimReturns l)) := by
  rw [line?, hbounds, Option.bind_some, htext]
  simp only [slice_append, Option.map_some]

/-- Looking a line up comes to splitting the text. -/
theorem line?_eq (f : SourceFile) (number : UInt32) :
    f.line? number =
      if number = 0 then none
      else ((lines f.text.toList)[number.toNat - 1]?).map fun l => String.ofList (trimReturns l) := by
  rcases f.lineBounds?_cases number with ⟨hrange, hnone⟩ | ⟨before, l, behind, htext, hpos, hl, hbounds⟩
  · have hline : f.line? number = none := by rw [line?, hnone, Option.bind_none]
    by_cases hzero : number = 0
    · rw [hline, if_pos hzero]
    · have hpos : number.toNat ≠ 0 := fun h => hzero (UInt32.toNat_inj.mp h)
      have hlength := f.lineCount_eq_length
      rw [hline, if_neg hzero, List.getElem?_eq_none (by omega), Option.map_none]
  · have hzero : number ≠ 0 := by
      rintro rfl
      cases hpos
    rw [line?_of_lineBounds? htext hbounds, if_neg hzero, hl, Option.map_some]

/-- The character in a column, counted from one, of a line that is looked up by its number. -/
def charAt? (f : SourceFile) (line column : UInt32) : Option Char :=
  (f.line? line).bind fun text => if column = 0 then none else text.toList[column.toNat - 1]?

/-- The characters that end lines apart, what stands at an index is found in its column of its line. -/
theorem charAt?_eq {f : SourceFile} {i : Nat} {c : Char} {line column : UInt32}
    (h : f.text.toList[i]? = some c) (hfeed : c ≠ '\n') (hreturn : c ≠ '\r')
    (hline : line.toNat = lineAt f.text.toList i) (hcolumn : column.toNat = columnAt f.text.toList i) :
    f.charAt? line column = some c := by
  obtain ⟨l, hl, hc⟩ := exists_line_of_getElem? h hfeed
  have hline0 : line ≠ 0 := by
    rintro rfl
    exact absurd hline (Nat.succ_ne_zero _).symm
  have hcolumn0 : column ≠ 0 := by
    rintro rfl
    exact absurd hcolumn (Nat.succ_ne_zero _).symm
  rw [charAt?, line?_eq, if_neg hline0, hline, hl, Option.map_some, Option.bind_some, if_neg hcolumn0,
    String.toList_ofList, hcolumn, getElem?_trimReturns hc hreturn]

theorem exists_index_of_charAt? {f : SourceFile} {line column : UInt32} {c : Char}
    (h : f.charAt? line column = some c) :
    ∃ i, f.text.toList[i]? = some c ∧ line.toNat = lineAt f.text.toList i ∧
      column.toNat = columnAt f.text.toList i := by
  obtain ⟨text, htext, hchar⟩ := Option.bind_eq_some_iff.mp h
  rw [line?_eq] at htext
  by_cases hline0 : line = 0
  · rw [if_pos hline0] at htext
    cases htext
  by_cases hcolumn0 : column = 0
  · rw [if_pos hcolumn0] at hchar
    cases hchar
  rw [if_neg hline0] at htext
  rw [if_neg hcolumn0] at hchar
  obtain ⟨l, hl, rfl⟩ := Option.map_eq_some_iff.mp htext
  rw [String.toList_ofList] at hchar
  obtain ⟨i, hi, hline, hcolumn⟩ := exists_index_of_getElem?_lines hl (getElem?_of_getElem?_trimReturns hchar)
  have hline' : line.toNat ≠ 0 := fun hzero => hline0 (UInt32.toNat_inj.mp hzero)
  have hcolumn' : column.toNat ≠ 0 := fun hzero => hcolumn0 (UInt32.toNat_inj.mp hzero)
  exact ⟨i, hi, by omega, by omega⟩

/-! ### The bounds that lines are cut at -/

theorem byteLength_eq_utf8ByteSize (cs : List Char) : byteLength cs = (String.ofList cs).utf8ByteSize := by
  induction cs with
  | nil => rfl
  | cons c cs ih => rw [byteLength_cons, ih, String.ofList_cons, String.utf8ByteSize_append, String.utf8ByteSize_singleton]

theorem isValid_of_toList_eq {s : String} {before behind : List Char} (h : s.toList = before ++ behind) :
    String.Pos.Raw.IsValid s ⟨byteLength before⟩ := by
  apply String.Pos.Raw.isValid_iff_exists_append.mpr
  refine ⟨String.ofList before, String.ofList behind, ?_, ?_⟩
  · rw [← String.ofList_append, ← h, String.ofList_toList]
  · rw [byteLength_eq_utf8ByteSize, String.rawEndPos]

theorem getLast?_trimReturns_ne (cs : List Char) : (trimReturns cs).getLast? ≠ some '\r' := by
  intro h
  have hhead := List.head?_dropWhile_not (· == '\r') cs.reverse
  rw [trimReturns, List.getLast?_reverse] at h
  rw [h] at hhead
  simp at hhead

section Lines

variable {f : SourceFile} {number : UInt32}

theorem le_lineCount {l : List Char} (hpos : 1 ≤ number.toNat)
    (hl : (lines f.text.toList)[number.toNat - 1]? = some l) : number.toNat ≤ f.lineCount := by
  have hlt := (List.getElem?_eq_some_iff.mp hl).1
  rw [lineCount_eq_length]
  omega

theorem isSome_lineBounds?_iff :
    (f.lineBounds? number).isSome = true ↔ 1 ≤ number.toNat ∧ number.toNat ≤ f.lineCount := by
  rcases f.lineBounds?_cases number with ⟨hrange, hnone⟩ | ⟨before, l, behind, htext, hpos, hl, hbounds⟩
  · simp [hnone, hrange]
  · simp [hbounds, hpos, le_lineCount hpos hl]

/-- No line is lost in cutting: a line that has bounds is found. -/
theorem isSome_line?_iff : (f.line? number).isSome = true ↔ (f.lineBounds? number).isSome = true := by
  rcases f.lineBounds?_cases number with ⟨-, hnone⟩ | ⟨before, l, behind, htext, -, -, hbounds⟩
  · rw [line?, hnone, Option.bind_none]
    rfl
  · rw [line?_of_lineBounds? htext hbounds, hbounds]
    rfl

theorem exists_returns_of_line? {text : String} (h : f.line? number = some text) :
    ∃ returns, (∀ c ∈ returns, c = '\r') ∧ text.toList.getLast? ≠ some '\r' ∧
      (lines f.text.toList)[number.toNat - 1]? = some (text.toList ++ returns) := by
  rcases f.lineBounds?_cases number with ⟨-, hnone⟩ | ⟨before, l, behind, htext, -, hl, hbounds⟩
  · rw [line?, hnone] at h
    cases h
  · rw [line?_of_lineBounds? htext hbounds] at h
    cases h
    obtain ⟨returns, hreturns, hall⟩ := exists_eq_trimReturns_append l
    rw [String.toList_ofList]
    exact ⟨returns, hall, getLast?_trimReturns_ne l, by rw [← hreturns, hl]⟩

theorem isValid_of_lineBounds? {start stop : Nat} (h : f.lineBounds? number = some (start, stop)) :
    start ≤ stop ∧ stop ≤ f.text.utf8ByteSize ∧ String.Pos.Raw.IsValid f.text ⟨start⟩ ∧
      String.Pos.Raw.IsValid f.text ⟨stop⟩ := by
  rcases f.lineBounds?_cases number with ⟨-, hnone⟩ | ⟨before, l, behind, htext, -, -, hbounds⟩
  · rw [hnone] at h
    cases h
  · rw [hbounds] at h
    cases h
    have hstop := isValid_of_toList_eq htext
    rw [byteLength_append] at hstop
    rw [List.append_assoc] at htext
    exact ⟨Nat.le_add_right _ _, hstop.le_rawEndPos, isValid_of_toList_eq htext, hstop⟩

end Lines

/-- A number has a line when it is one of those that the lines are counted with, and then the line is the piece of
the text between line feeds without the carriage returns at its end. It is cut at two places between characters, in
order and within the text. -/
theorem line?_cuts_pieces (f : SourceFile) (number : UInt32) :
    f.lineCount = 1 + f.text.toList.count '\n' ∧
    ((f.line? number).isSome = true ↔ 1 ≤ number.toNat ∧ number.toNat ≤ f.lineCount) ∧
    ((f.lineBounds? number).isSome = true ↔ 1 ≤ number.toNat ∧ number.toNat ≤ f.lineCount) ∧
    (∀ text, f.line? number = some text → ∃ returns, (∀ c ∈ returns, c = '\r') ∧
      text.toList.getLast? ≠ some '\r' ∧ (lines f.text.toList)[number.toNat - 1]? = some (text.toList ++ returns)) ∧
    ∀ start stop, f.lineBounds? number = some (start, stop) → start ≤ stop ∧ stop ≤ f.text.utf8ByteSize ∧
      String.Pos.Raw.IsValid f.text ⟨start⟩ ∧ String.Pos.Raw.IsValid f.text ⟨stop⟩ := by
  refine ⟨?_, isSome_line?_iff.trans isSome_lineBounds?_iff, isSome_lineBounds?_iff, ?_, ?_⟩
  · rw [lineCount_eq_length, length_lines]
  · intro text h
    exact exists_returns_of_line? h
  · intro start stop h
    exact isValid_of_lineBounds? h

/-- The first line ends with two carriage returns behind a character of two bytes, and the second is empty. -/
theorem line?_cuts_pieces_returns :
    ∃ (f : SourceFile) (start stop : Nat), f.line? 1 = some "é" ∧ f.lineBounds? 1 = some (start, stop) ∧
      start < stop ∧ String.Pos.Raw.IsValid f.text ⟨stop⟩ ∧
      (∃ returns, (lines f.text.toList)[0]? = some ("é".toList ++ returns)) ∧ (f.line? 3).isSome = true ∧
      (f.line? 4).isSome = false := by
  obtain ⟨f, hline, hbounds, hcount⟩ : ∃ f : SourceFile, f.line? 1 = some "é" ∧ f.lineBounds? 1 = some (0, 4) ∧
      f.lineCount = 3 :=
    ⟨⟨"returns.bf", "é\r\r\n\n]"⟩, by decide, by decide, by decide⟩
  obtain ⟨-, -, -, hpieces, hcuts⟩ := line?_cuts_pieces f 1
  obtain ⟨returns, -, -, hpiece⟩ := hpieces "é" hline
  obtain ⟨-, -, -, hvalid⟩ := hcuts 0 4 hbounds
  refine ⟨f, 0, 4, hline, hbounds, by decide, hvalid, ⟨returns, hpiece⟩, ?_, ?_⟩
  · rw [(line?_cuts_pieces f 3).2.1, hcount]
    decide
  · rw [← Bool.not_eq_true, (line?_cuts_pieces f 4).2.1, hcount]
    decide

end TapeToJava.SourceFile
