/-! The pieces of a text between the occurrences of a separator. -/

namespace TapeToJava.Text

/-- The pieces between the separators; there is one more of them than there are separators. -/
def pieces (sep : Char) : List Char → List (List Char)
  | [] => [[]]
  | c :: cs =>
    if c = sep then [] :: pieces sep cs
    else match pieces sep cs with
      | [] => [[c]]
      | l :: ls => (c :: l) :: ls

/-- Pieces with a separator between any two of them. -/
def joined (sep : Char) : List (List Char) → List Char
  | [] => []
  | [l] => l
  | l :: ls => l ++ sep :: joined sep ls

theorem pieces_ne_nil (sep : Char) (cs : List Char) : pieces sep cs ≠ [] := by
  cases cs with
  | nil => simp [pieces]
  | cons c cs =>
    simp only [pieces]
    split
    · simp
    · split <;> simp

@[simp] theorem pieces_nil (sep : Char) : pieces sep [] = [[]] := rfl

@[simp] theorem pieces_sep (sep : Char) (cs : List Char) : pieces sep (sep :: cs) = [] :: pieces sep cs := by
  simp [pieces]

theorem length_pieces (sep : Char) (cs : List Char) : (pieces sep cs).length = 1 + cs.count sep := by
  induction cs with
  | nil => rfl
  | cons c cs ih =>
    by_cases h : c = sep
    · subst h
      simp [ih]
      omega
    · simp only [pieces, h, if_false]
      cases hl : pieces sep cs with
      | nil => exact absurd hl (pieces_ne_nil sep cs)
      | cons l ls =>
        rw [hl] at ih
        simp [h] at ih ⊢
        omega

theorem joined_cons_cons (sep : Char) (c : Char) (l : List Char) (ls : List (List Char)) :
    joined sep ((c :: l) :: ls) = c :: joined sep (l :: ls) := by
  cases ls <;> simp [joined]

theorem joined_pieces (sep : Char) (cs : List Char) : joined sep (pieces sep cs) = cs := by
  induction cs with
  | nil => rfl
  | cons c cs ih =>
    cases hl : pieces sep cs with
    | nil => exact absurd hl (pieces_ne_nil sep cs)
    | cons l ls =>
      rw [hl] at ih
      by_cases h : c = sep
      · subst h
        simp [hl, joined, ih]
      · simp [pieces, h, hl, joined_cons_cons, ih]

theorem not_mem_of_mem_pieces {sep : Char} {l cs : List Char} (h : l ∈ pieces sep cs) : sep ∉ l := by
  induction cs generalizing l with
  | nil =>
    simp at h
    simp [h]
  | cons c cs ih =>
    by_cases hc : c = sep
    · subst hc
      simp only [pieces_sep, List.mem_cons] at h
      rcases h with rfl | h
      · simp
      · exact ih h
    · cases hl : pieces sep cs with
      | nil => exact absurd hl (pieces_ne_nil sep cs)
      | cons k ks =>
        simp only [pieces, hc, if_false, hl, List.mem_cons] at h
        rcases h with rfl | h
        · have := ih (l := k) (by simp [hl])
          simp [this, Ne.symm hc]
        · exact ih (by simp [hl, h])

end TapeToJava.Text
