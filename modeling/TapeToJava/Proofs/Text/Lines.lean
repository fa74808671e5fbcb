import TapeToJava.Text.Lines

/-! The lines of a text that is put together from lines, and the text that is put together from its lines. -/

namespace TapeToJava.Text

/-- A separator divides whatever stands in front of it. -/
theorem pieces_append (sep : Char) (cs rest : List Char) :
    pieces sep (cs ++ sep :: rest) = pieces sep cs ++ pieces sep rest := by
  induction cs with
  | nil => exact pieces_sep sep rest
  | cons c cs ih =>
      simp only [List.cons_append, pieces, ih]
      split
      · rw [List.cons_append]
      · cases hcs : pieces sep cs with
        | nil => exact absurd hcs (pieces_ne_nil sep cs)
        | cons l ls => rw [List.cons_append, List.cons_append]

theorem pieces_append_of_not_mem {sep : Char} {l : List Char} (h : sep ∉ l) (rest : List Char) :
    ∃ piece others, pieces sep rest = piece :: others ∧ pieces sep (l ++ rest) = (l ++ piece) :: others := by
  induction l with
  | nil =>
      obtain ⟨piece, others, hrest⟩ := List.exists_cons_of_ne_nil (pieces_ne_nil sep rest)
      exact ⟨piece, others, hrest, hrest⟩
  | cons c l ih =>
      obtain ⟨hc, hl⟩ := not_or.mp (mt List.mem_cons.mpr h)
      obtain ⟨piece, others, hrest, happend⟩ := ih hl
      refine ⟨piece, others, hrest, ?_⟩
      rw [List.cons_append, pieces, if_neg (Ne.symm hc), happend, List.cons_append]

theorem pieces_of_not_mem {sep : Char} {l : List Char} (h : sep ∉ l) : pieces sep l = [l] := by
  obtain ⟨piece, others, hempty, hpieces⟩ := pieces_append_of_not_mem h []
  rw [pieces_nil] at hempty
  cases hempty
  rw [List.append_nil] at hpieces
  exact hpieces

theorem pieces_append_sep {sep : Char} {l : List Char} (h : sep ∉ l) (rest : List Char) :
    pieces sep (l ++ sep :: rest) = l :: pieces sep rest := by
  rw [pieces_append, pieces_of_not_mem h, List.singleton_append]

/-- Splitting undoes joining. -/
theorem pieces_joined {sep : Char} {ls : List (List Char)} (hls : ls ≠ []) (h : ∀ l ∈ ls, sep ∉ l) :
    pieces sep (joined sep ls) = ls := by
  induction ls with
  | nil => exact absurd rfl hls
  | cons l ls ih =>
      have hl := h l List.mem_cons_self
      have hrest : ∀ k ∈ ls, sep ∉ k := fun k hk => h k (List.mem_cons_of_mem l hk)
      cases ls with
      | nil => exact pieces_of_not_mem hl
      | cons k ks =>
          rw [joined, pieces_append_sep hl, ih (List.cons_ne_nil k ks) hrest]
          exact List.cons_ne_nil k ks

/-- Texts without a line feed, each with a line feed behind it, are the first lines of what they begin. -/
theorem lines_flatMap_append {ls : List (List Char)} (h : ∀ l ∈ ls, '\n' ∉ l) (rest : List Char) :
    lines (ls.flatMap (· ++ ['\n']) ++ rest) = ls ++ lines rest := by
  induction ls with
  | nil => rfl
  | cons l ls ih =>
      have hl := h l List.mem_cons_self
      have hls := ih fun l' hl' => h l' (List.mem_cons_of_mem l hl')
      rw [List.flatMap_cons, List.append_assoc, List.append_assoc, List.singleton_append, lines,
        pieces_append_sep hl, ← lines, hls, List.cons_append]

theorem lines_append_newline (cs rest : List Char) : lines (cs ++ '\n' :: rest) = lines cs ++ lines rest :=
  pieces_append '\n' cs rest

theorem lines_injective {cs cs' : List Char} (h : lines cs = lines cs') : cs = cs' := by
  rw [← joined_pieces '\n' cs, ← joined_pieces '\n' cs']
  exact congrArg (joined '\n') h

theorem joined_cons (sep : Char) (l : List Char) (ls : List (List Char)) :
    joined sep (l :: ls) = l ++ ls.flatMap (sep :: ·) := by
  induction ls generalizing l with
  | nil => rw [joined, List.flatMap_nil, List.append_nil]
  | cons k ls ih => rw [joined, ih, List.flatMap_cons, List.cons_append]; simp

theorem joined_append_cons (sep : Char) (before : List (List Char)) (l : List Char)
    (behind : List (List Char)) :
    joined sep (before ++ l :: behind) =
      before.flatMap (· ++ [sep]) ++ l ++ behind.flatMap (sep :: ·) := by
  induction before with
  | nil => exact joined_cons sep l behind
  | cons k before ih =>
      have hne : before ++ l :: behind ≠ [] := by simp
      rw [List.cons_append, joined, ih, List.flatMap_cons]
      · simp only [List.append_assoc, List.cons_append, List.nil_append]
      · exact hne

/-- A text is its line with a given number, with the lines in front of it, each with a line feed behind it,
and the lines behind it, each with a line feed in front of it. -/
theorem eq_append_of_getElem?_lines {cs l : List Char} {n : Nat} (h : (lines cs)[n]? = some l) :
    ∃ before behind : List (List Char),
      cs = before.flatMap (· ++ ['\n']) ++ l ++ behind.flatMap ('\n' :: ·) ∧
      (∀ k ∈ before, '\n' ∉ k) ∧ '\n' ∉ l ∧ before.length = n ∧ (lines cs).length = n + 1 + behind.length := by
  obtain ⟨hn, hl⟩ := List.getElem?_eq_some_iff.mp h
  have hsplit : (lines cs).take n ++ l :: (lines cs).drop (n + 1) = lines cs := by
    rw [← hl, ← List.drop_eq_getElem_cons hn, List.take_append_drop]
  refine ⟨(lines cs).take n, (lines cs).drop (n + 1), ?_, ?_, ?_, ?_, ?_⟩
  · rw [← joined_append_cons, hsplit, lines, joined_pieces]
  · intro k hk
    exact not_mem_of_mem_pieces (List.mem_of_mem_take hk)
  · exact not_mem_of_mem_pieces (List.mem_of_getElem? h)
  · exact List.length_take_of_le (Nat.le_of_lt hn)
  · rw [List.length_drop]
    omega

end TapeToJava.Text
