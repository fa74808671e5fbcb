import Mathlib.Data.List.Induction
import TapeToJava.Proofs.Text.Lines

/-! Places in a text: the line and the column of an index, found by counting line feeds and the characters
behind the last of them. What stands at an index stands at its column in its line. -/

namespace TapeToJava.Text

/-- The line of an index, counted from one: one more than the line feeds in front of it. -/
def lineAt (cs : List Char) (i : Nat) : Nat :=
  (cs.take i).count '\n' + 1

/-- The column of an index, counted from one: one more than the characters between it and the last line feed
in front of it. -/
def columnAt (cs : List Char) (i : Nat) : Nat :=
  ((cs.take i).reverse.takeWhile (· != '\n')).length + 1

theorem lineAt_le (cs : List Char) (i : Nat) : lineAt cs i ≤ i + 1 :=
  Nat.succ_le_succ (Nat.le_trans List.count_le_length (List.length_take_le i cs))

theorem columnAt_le (cs : List Char) (i : Nat) : columnAt cs i ≤ i + 1 := by
  have hlength := (List.takeWhile_sublist (· != '\n') (l := (cs.take i).reverse)).length_le
  rw [List.length_reverse] at hlength
  exact Nat.succ_le_succ (Nat.le_trans hlength (List.length_take_le i cs))

/-- A text is the lines that are complete, each with its line feed, and what stands behind the last line
feed. -/
theorem exists_complete_lines (cs : List Char) :
    ∃ (ls : List (List Char)) (last : List Char), cs = ls.flatMap (· ++ ['\n']) ++ last ∧
      (∀ l ∈ ls, '\n' ∉ l) ∧ '\n' ∉ last ∧ ls.length = cs.count '\n' ∧
      last.length = (cs.reverse.takeWhile (· != '\n')).length := by
  induction cs using List.reverseRecOn with
  | nil => exact ⟨[], [], rfl, by simp, by simp, rfl, rfl⟩
  | append_singleton cs c ih =>
      obtain ⟨ls, last, hcs, hls, hlast, hlines, hcolumn⟩ := ih
      rw [List.reverse_append, List.reverse_singleton, List.singleton_append, List.count_append]
      by_cases hc : c = '\n'
      · subst hc
        refine ⟨ls ++ [last], [], ?_, ?_, by simp, ?_, rfl⟩
        · rw [hcs, List.flatMap_append, List.flatMap_singleton, List.append_nil, List.append_assoc]
        · intro l hl
          rcases List.mem_append.mp hl with hl | hl
          · exact hls l hl
          · rwa [List.mem_singleton.mp hl]
        · rw [List.length_append, hlines]
          rfl
      · refine ⟨ls, last ++ [c], by rw [hcs, List.append_assoc], hls, ?_, ?_, ?_⟩
        · intro hmem
          rcases List.mem_append.mp hmem with hmem | hmem
          · exact hlast hmem
          · exact hc (List.mem_singleton.mp hmem).symm
        · rw [hlines, List.count_singleton, if_neg (by simpa using hc), Nat.add_zero]
        · rw [List.takeWhile_cons, if_pos (by simpa using hc), List.length_append, List.length_cons, hcolumn]
          rfl

/-- A text that ends with a line feed consists of complete lines. -/
theorem exists_lines_of_getLast? {cs : List Char} (h : cs.getLast? = some '\n') :
    ∃ ls : List (List Char), cs = ls.flatMap (· ++ ['\n']) ∧ (∀ l ∈ ls, '\n' ∉ l) ∧
      ls.length = cs.count '\n' := by
  obtain ⟨ls, last, hcs, hls, hlast, hlength, -⟩ := exists_complete_lines cs
  cases hend : last.getLast? with
  | none =>
      rw [List.getLast?_eq_none_iff.mp hend, List.append_nil] at hcs
      exact ⟨ls, hcs, hls, hlength⟩
  | some c =>
      rw [hcs, List.getLast?_append, hend, Option.some_or] at h
      cases h
      exact absurd (List.mem_of_getLast? hend) hlast

theorem exists_line_of_getElem? {cs : List Char} {i : Nat} {c : Char} (h : cs[i]? = some c) (hc : c ≠ '\n') :
    ∃ l, (lines cs)[lineAt cs i - 1]? = some l ∧ l[columnAt cs i - 1]? = some c := by
  obtain ⟨ls, last, htake, hls, hlast, hlines, hcolumn⟩ := exists_complete_lines (cs.take i)
  obtain ⟨hi, hget⟩ := List.getElem?_eq_some_iff.mp h
  have hdrop : cs.drop i = c :: cs.drop (i + 1) := by rw [List.drop_eq_getElem_cons hi, hget]
  have hcs : cs = ls.flatMap (· ++ ['\n']) ++ (last ++ [c] ++ cs.drop (i + 1)) := by
    calc cs = cs.take i ++ cs.drop i := (List.take_append_drop i cs).symm
      _ = _ := by rw [htake, hdrop]; simp only [List.append_assoc, List.singleton_append]
  have hnew : '\n' ∉ last ++ [c] := by
    intro hmem
    rcases List.mem_append.mp hmem with hmem | hmem
    · exact hlast hmem
    · exact hc (List.mem_singleton.mp hmem).symm
  obtain ⟨piece, others, -, hpieces⟩ := pieces_append_of_not_mem hnew (cs.drop (i + 1))
  refine ⟨last ++ [c] ++ piece, ?_, ?_⟩
  · rw [lineAt, Nat.add_sub_cancel, ← hlines, hcs, lines_flatMap_append hls, lines, hpieces]
    rw [List.getElem?_append_right (Nat.le_refl _), Nat.sub_self]
    rfl
  · rw [columnAt, Nat.add_sub_cancel, ← hcolumn, List.append_assoc,
      List.getElem?_append_right (Nat.le_refl _), Nat.sub_self]
    rfl

/-! ### From lines back to indices -/

theorem count_newline_flatMap {ls : List (List Char)} (h : ∀ l ∈ ls, '\n' ∉ l) :
    (ls.flatMap (· ++ ['\n'])).count '\n' = ls.length := by
  induction ls with
  | nil => rfl
  | cons l ls ih =>
      obtain ⟨hl, hls⟩ := List.forall_mem_cons.mp h
      rw [List.flatMap_cons, List.count_append, List.count_append, List.count_eq_zero.mpr hl, ih hls, Nat.zero_add,
        List.length_cons, Nat.add_comm]
      rfl

/-- The complete lines in front of an index and what stands between them and the index give its place. -/
theorem place_of_take_eq {cs last : List Char} {ls : List (List Char)} {i : Nat}
    (h : cs.take i = ls.flatMap (· ++ ['\n']) ++ last) (hls : ∀ l ∈ ls, '\n' ∉ l) (hlast : '\n' ∉ last) :
    lineAt cs i = ls.length + 1 ∧ columnAt cs i = last.length + 1 := by
  have hbehind : ∀ c ∈ last.reverse, (c != '\n') = true := by
    intro c hc
    rw [bne_iff_ne]
    rintro rfl
    exact hlast (List.mem_reverse.mp hc)
  have hfeed : ((ls.flatMap (· ++ ['\n'])).reverse.takeWhile (· != '\n')) = [] := by
    rcases List.eq_nil_or_concat ls with rfl | ⟨ls, l, rfl⟩
    · rfl
    · rw [List.concat_eq_append, List.flatMap_append, List.flatMap_singleton, List.reverse_append,
        List.reverse_append]
      rfl
  constructor
  · rw [lineAt, h, List.count_append, count_newline_flatMap hls, List.count_eq_zero.mpr hlast, Nat.add_zero]
  · rw [columnAt, h, List.reverse_append, List.takeWhile_append_of_pos hbehind, hfeed, List.append_nil,
      List.length_reverse]

/-- What stands in a column of a line stands at an index with that line and column. -/
theorem exists_index_of_getElem?_lines {cs l : List Char} {n k : Nat} {c : Char} (hl : (lines cs)[n]? = some l)
    (hc : l[k]? = some c) : ∃ i, cs[i]? = some c ∧ lineAt cs i = n + 1 ∧ columnAt cs i = k + 1 := by
  obtain ⟨before, behind, hcs, hbefore, hnew, hlength, -⟩ := eq_append_of_getElem?_lines hl
  have hk : k < l.length := (List.getElem?_eq_some_iff.mp hc).1
  have hget : cs[(before.flatMap (· ++ ['\n'])).length + k]? = some c := by
    rw [hcs, List.append_assoc, List.getElem?_append_right (Nat.le_add_right _ _), Nat.add_sub_cancel_left,
      List.getElem?_append_left hk, hc]
  have htake : cs.take ((before.flatMap (· ++ ['\n'])).length + k) = before.flatMap (· ++ ['\n']) ++ l.take k := by
    rw [hcs, List.append_assoc, List.take_length_add_append, List.take_append_of_le_length (Nat.le_of_lt hk)]
  obtain ⟨hline, hcolumn⟩ := place_of_take_eq htake hbefore fun hmem => hnew (List.mem_of_mem_take hmem)
  rw [hlength] at hline
  rw [List.length_take_of_le (Nat.le_of_lt hk)] at hcolumn
  exact ⟨_, hget, hline, hcolumn⟩

/-! ### Trailing carriage returns -/

theorem exists_eq_trimReturns_append (l : List Char) : ∃ tail, l = trimReturns l ++ tail ∧ ∀ c ∈ tail, c = '\r' := by
  refine ⟨(l.reverse.takeWhile (· == '\r')).reverse, ?_, ?_⟩
  · rw [trimReturns, ← List.reverse_append, List.takeWhile_append_dropWhile, List.reverse_reverse]
  · intro c hc
    exact eq_of_beq (List.all_eq_true.mp List.all_takeWhile c (List.mem_reverse.mp hc))

theorem getElem?_trimReturns {l : List Char} {k : Nat} {c : Char} (h : l[k]? = some c) (hc : c ≠ '\r') :
    (trimReturns l)[k]? = some c := by
  obtain ⟨tail, hl, htail⟩ := exists_eq_trimReturns_append l
  by_cases hk : k < (trimReturns l).length
  · rwa [hl, List.getElem?_append_left hk] at h
  · rw [hl, List.getElem?_append_right (Nat.le_of_not_lt hk)] at h
    exact absurd (htail c (List.mem_of_getElem? h)) hc

theorem getElem?_of_getElem?_trimReturns {l : List Char} {k : Nat} {c : Char} (h : (trimReturns l)[k]? = some c) :
    l[k]? = some c := by
  obtain ⟨tail, hl, -⟩ := exists_eq_trimReturns_append l
  have hk : k < (trimReturns l).length := (List.getElem?_eq_some_iff.mp h).1
  rw [hl, List.getElem?_append_left hk, h]

end TapeToJava.Text
