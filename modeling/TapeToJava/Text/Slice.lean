/-! Pieces of a text between two byte offsets of its UTF-8 form. An offset inside a character, or past
the end, gives no piece. -/

namespace TapeToJava.Text

/-- The number of UTF-8 bytes of a text. -/
def byteLength : List Char → Nat
  | [] => 0
  | c :: cs => c.utf8Size + byteLength cs

/-- What follows the first `n` bytes. -/
def dropBytes : Nat → List Char → Option (List Char)
  | 0, cs => some cs
  | _ + 1, [] => none
  | n + 1, c :: cs => if c.utf8Size ≤ n + 1 then dropBytes (n + 1 - c.utf8Size) cs else none

/-- The characters that make up the first `n` bytes. -/
def takeBytes : Nat → List Char → Option (List Char)
  | 0, _ => some []
  | _ + 1, [] => none
  | n + 1, c :: cs =>
    if c.utf8Size ≤ n + 1 then (takeBytes (n + 1 - c.utf8Size) cs).map (c :: ·) else none

/-- The text from byte offset `start` up to byte offset `stop`. -/
def slice (start stop : Nat) (cs : List Char) : Option (List Char) :=
  if start ≤ stop then (dropBytes start cs).bind (takeBytes (stop - start)) else none

@[simp] theorem byteLength_nil : byteLength [] = 0 := rfl

@[simp] theorem byteLength_cons (c : Char) (cs : List Char) :
    byteLength (c :: cs) = c.utf8Size + byteLength cs := rfl

@[simp] theorem byteLength_append (as bs : List Char) :
    byteLength (as ++ bs) = byteLength as + byteLength bs := by
  induction as with
  | nil => rw [List.nil_append, byteLength_nil, Nat.zero_add]
  | cons a as ih => rw [List.cons_append, byteLength_cons, byteLength_cons, ih, Nat.add_assoc]

theorem dropBytes_append (as bs : List Char) : dropBytes (byteLength as) (as ++ bs) = some bs := by
  induction as with
  | nil => cases bs <;> rfl
  | cons a as ih =>
    have ha : 0 < a.utf8Size := Char.utf8Size_pos a
    obtain ⟨n, hn⟩ : ∃ n, byteLength (a :: as) = n + 1 := ⟨byteLength (a :: as) - 1, by simp; omega⟩
    rw [hn, List.cons_append, dropBytes]
    simp only [byteLength_cons] at hn
    rw [if_pos (by omega), ← hn, Nat.add_sub_cancel_left, ih]

theorem takeBytes_append (as bs : List Char) : takeBytes (byteLength as) (as ++ bs) = some as := by
  induction as with
  | nil => cases bs <;> rfl
  | cons a as ih =>
    have ha : 0 < a.utf8Size := Char.utf8Size_pos a
    obtain ⟨n, hn⟩ : ∃ n, byteLength (a :: as) = n + 1 := ⟨byteLength (a :: as) - 1, by simp; omega⟩
    rw [hn, List.cons_append, takeBytes]
    simp only [byteLength_cons] at hn
    rw [if_pos (by omega), ← hn, Nat.add_sub_cancel_left, ih, Option.map_some]

theorem slice_append (as bs cs : List Char) :
    slice (byteLength as) (byteLength as + byteLength bs) (as ++ bs ++ cs) = some bs := by
  rw [slice, if_pos (by omega), List.append_assoc, dropBytes_append, Option.bind_some,
    Nat.add_sub_cancel_left, takeBytes_append]

end TapeToJava.Text
