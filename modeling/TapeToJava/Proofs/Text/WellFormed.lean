import TapeToJava.Proofs.Text.Utf8

/-! Decoding undoes encoding: nothing in the bytes of a text is replaced. The first byte of a character fixes its
leading bits, how many bytes follow and which second bytes may follow; each later byte adds six bits. -/

namespace TapeToJava.Text.Utf8

variable {v : Nat} {bytes : List UInt8}

/-! ### The bytes behind the first one -/

section Continuation

variable {p : Partial} {bits n : Nat} (hbits : bits < 0x40) (hlow : p.low ≤ bits + 0x80)
  (hhigh : bits + 0x80 ≤ p.high)

include hbits hlow hhigh

/-- A byte that continues a character and does not end it. -/
theorem decodeFrom_more (hafter : p.after = n + 1) :
    decodeFrom (some p) (UInt8.ofNat (bits + 0x80) :: bytes) =
      decodeFrom (some ⟨p.value * 0x40 + bits, 0x80, 0xBF, n⟩) bytes := by
  have hbyte : (UInt8.ofNat (bits + 0x80)).toNat = bits + 0x80 :=
    UInt8.toNat_ofNat_of_lt' (show _ < 256 by omega)
  rw [decodeFrom_cons, step]
  dsimp only
  rw [hbyte, if_pos ⟨hlow, hhigh⟩, hafter, Nat.add_sub_cancel]
  rfl

/-- The byte that ends a character. -/
theorem decodeFrom_last (hafter : p.after = 0) :
    decodeFrom (some p) (UInt8.ofNat (bits + 0x80) :: bytes) =
      Char.ofNat (p.value * 0x40 + bits) :: decodeFrom none bytes := by
  have hbyte : (UInt8.ofNat (bits + 0x80)).toNat = bits + 0x80 :=
    UInt8.toNat_ofNat_of_lt' (show _ < 256 by omega)
  rw [decodeFrom_cons, step]
  dsimp only
  rw [hbyte, if_pos ⟨hlow, hhigh⟩, hafter, Nat.add_sub_cancel]
  rfl

end Continuation

/-! ### The first byte -/

/-- A byte begins a character: it gives the leading bits, and a range in which the next byte must lie. -/
def Begins (b value next after : Nat) : Prop :=
  ∃ low high, start (UInt8.ofNat b) = ([], some ⟨value, low, high, after⟩) ∧ low ≤ next ∧ next ≤ high

theorem decodeFrom_begins {b value next after : Nat} (h : Begins b value next after) :
    ∃ p : Partial, decodeFrom none (UInt8.ofNat b :: bytes) = decodeFrom (some p) bytes ∧ p.value = value ∧
      p.after = after ∧ p.low ≤ next ∧ next ≤ p.high := by
  obtain ⟨low, high, hstart, hlow, hhigh⟩ := h
  refine ⟨⟨value, low, high, after⟩, ?_, rfl, rfl, hlow, hhigh⟩
  rw [decodeFrom_cons, step, hstart]
  rfl

theorem begins_two (hlow : 0x80 ≤ v) (hhigh : v < 0x800) :
    Begins (v / 0x40 + 0xC0) (v / 0x40) (v % 0x40 + 0x80) 0 := by
  have hbyte : (UInt8.ofNat (v / 0x40 + 0xC0)).toNat = v / 0x40 + 0xC0 :=
    UInt8.toNat_ofNat_of_lt' (show _ < 256 by omega)
  refine ⟨0x80, 0xBF, ?_, by omega, by omega⟩
  rw [start]
  rw [hbyte, if_neg (by omega), if_neg (by omega), if_pos (by omega), Nat.add_sub_cancel]

theorem begins_three (hlow : 0x800 ≤ v) (hhigh : v < 0x10000) (hvalid : v.isValidChar) :
    Begins (v / 0x1000 + 0xE0) (v / 0x1000) (v / 0x40 % 0x40 + 0x80) 1 := by
  have hbyte : (UInt8.ofNat (v / 0x1000 + 0xE0)).toNat = v / 0x1000 + 0xE0 :=
    UInt8.toNat_ofNat_of_lt' (show _ < 256 by omega)
  rw [Begins, start]
  rw [hbyte, if_neg (by omega), if_neg (by omega), if_neg (by omega), Nat.add_sub_cancel]
  by_cases hfirst : v / 0x1000 = 0
  · rw [if_pos (by omega), hfirst]
    exact ⟨0xA0, 0xBF, rfl, by omega, by omega⟩
  rw [if_neg (by omega)]
  by_cases hsurrogates : v / 0x1000 = 0xD
  · rw [if_pos (by omega), hsurrogates]
    refine ⟨0x80, 0x9F, rfl, by omega, ?_⟩
    rcases hvalid with hvalid | ⟨hvalid, -⟩
    · omega
    · omega
  · rw [if_neg (by omega), if_pos (by omega)]
    exact ⟨0x80, 0xBF, rfl, by omega, by omega⟩

theorem begins_four (hlow : 0x10000 ≤ v) (hvalid : v.isValidChar) :
    Begins (v / 0x40000 + 0xF0) (v / 0x40000) (v / 0x1000 % 0x40 + 0x80) 2 := by
  have hhigh : v < 0x110000 := by
    rcases hvalid with hvalid | ⟨-, hvalid⟩
    · omega
    · exact hvalid
  have hbyte : (UInt8.ofNat (v / 0x40000 + 0xF0)).toNat = v / 0x40000 + 0xF0 :=
    UInt8.toNat_ofNat_of_lt' (show _ < 256 by omega)
  rw [Begins, start]
  rw [hbyte, if_neg (by omega), if_neg (by omega), if_neg (by omega), if_neg (by omega), if_neg (by omega),
    if_neg (by omega), Nat.add_sub_cancel]
  by_cases hfirst : v / 0x40000 = 0
  · rw [if_pos (by omega), hfirst]
    exact ⟨0x90, 0xBF, rfl, by omega, by omega⟩
  rw [if_neg (by omega)]
  by_cases hlast : v / 0x40000 = 4
  · rw [if_neg (by omega), if_pos (by omega), hlast]
    exact ⟨0x80, 0x8F, rfl, by omega, by omega⟩
  · rw [if_pos (by omega)]
    exact ⟨0x80, 0xBF, rfl, by omega, by omega⟩

/-! ### Characters and texts -/

/-- Six bits of a number. -/
theorem sixBits_lt (v : Nat) : v % 0x40 < 0x40 :=
  Nat.mod_lt v (by decide)

theorem sixBits_le (v : Nat) : v % 0x40 + 0x80 ≤ 0xBF := by
  have hlt := sixBits_lt v
  omega

theorem decodeFrom_two (hlow : 0x80 ≤ v) (hhigh : v < 0x800) :
    decodeFrom none (UInt8.ofNat (v / 0x40 + 0xC0) :: UInt8.ofNat (v % 0x40 + 0x80) :: bytes) =
      Char.ofNat v :: decodeFrom none bytes := by
  obtain ⟨p, hfirst, hvalue, hafter, hleast, hgreatest⟩ := decodeFrom_begins (begins_two hlow hhigh)
  have hnumber : v / 0x40 * 0x40 + v % 0x40 = v := by omega
  rw [hfirst, decodeFrom_last (sixBits_lt _) hleast hgreatest hafter, hvalue, hnumber]

theorem decodeFrom_three (hlow : 0x800 ≤ v) (hhigh : v < 0x10000) (hvalid : v.isValidChar) :
    decodeFrom none (UInt8.ofNat (v / 0x1000 + 0xE0) :: UInt8.ofNat (v / 0x40 % 0x40 + 0x80) ::
      UInt8.ofNat (v % 0x40 + 0x80) :: bytes) = Char.ofNat v :: decodeFrom none bytes := by
  obtain ⟨p, hfirst, hvalue, hafter, hleast, hgreatest⟩ := decodeFrom_begins (begins_three hlow hhigh hvalid)
  have hnumber : (v / 0x1000 * 0x40 + v / 0x40 % 0x40) * 0x40 + v % 0x40 = v := by omega
  rw [hfirst, decodeFrom_more (sixBits_lt _) hleast hgreatest hafter, hvalue]
  rw [decodeFrom_last (sixBits_lt _) (Nat.le_add_left _ _) (sixBits_le _) rfl, hnumber]

theorem decodeFrom_four (hlow : 0x10000 ≤ v) (hvalid : v.isValidChar) :
    decodeFrom none (UInt8.ofNat (v / 0x40000 + 0xF0) :: UInt8.ofNat (v / 0x1000 % 0x40 + 0x80) ::
      UInt8.ofNat (v / 0x40 % 0x40 + 0x80) :: UInt8.ofNat (v % 0x40 + 0x80) :: bytes) =
      Char.ofNat v :: decodeFrom none bytes := by
  obtain ⟨p, hfirst, hvalue, hafter, hleast, hgreatest⟩ := decodeFrom_begins (begins_four hlow hvalid)
  have hnumber : ((v / 0x40000 * 0x40 + v / 0x1000 % 0x40) * 0x40 + v / 0x40 % 0x40) * 0x40 + v % 0x40 = v := by
    omega
  rw [hfirst, decodeFrom_more (sixBits_lt _) hleast hgreatest hafter, hvalue]
  rw [decodeFrom_more (sixBits_lt _) (Nat.le_add_left _ _) (sixBits_le _) rfl]
  rw [decodeFrom_last (sixBits_lt _) (Nat.le_add_left _ _) (sixBits_le _) rfl, hnumber]

/-- The bytes of a character are read as that character, whatever follows them. -/
theorem decodeFrom_utf8EncodeChar (c : Char) (bytes : List UInt8) :
    decodeFrom none (String.utf8EncodeChar c ++ bytes) = c :: decodeFrom none bytes := by
  have hvalid : c.toNat.isValidChar := c.valid
  have hchar : Char.ofNat c.toNat = c := Char.ofNat_toNat c
  rw [String.utf8EncodeChar, show c.val.toNat = c.toNat from rfl]
  generalize c.toNat = v at hvalid hchar
  subst hchar
  by_cases hone : v ≤ 0x7F
  · have hbyte : (UInt8.ofNat v).toNat = v := UInt8.toNat_ofNat_of_lt' (show _ < 256 by omega)
    rw [if_pos hone, List.singleton_append, decodeFrom_cons, step, start, hbyte, if_pos (by omega)]
    rfl
  rw [if_neg hone]
  by_cases htwo : v ≤ 0x7FF
  · have hlead : v / 64 % 32 = v / 64 := by omega
    rw [if_pos htwo, hlead]
    exact decodeFrom_two (by omega) (Nat.lt_succ_of_le htwo)
  rw [if_neg htwo]
  by_cases hthree : v ≤ 0xFFFF
  · have hlead : v / 4096 % 16 = v / 4096 := by omega
    rw [if_pos hthree, hlead]
    exact decodeFrom_three (Nat.lt_of_not_le htwo) (Nat.lt_succ_of_le hthree) hvalid
  · have hlead : v / 262144 % 8 = v / 262144 := by
      rcases hvalid with hvalid | ⟨-, hvalid⟩
      · omega
      · omega
    rw [if_neg hthree, hlead]
    exact decodeFrom_four (Nat.lt_of_not_le hthree) hvalid

theorem decode_encode (s : String) : decode (encode s) = s := by
  have hlist : ∀ cs : List Char, decodeFrom none (cs.flatMap String.utf8EncodeChar) = cs := by
    intro cs
    induction cs with
    | nil => rfl
    | cons c cs ih => rw [List.flatMap_cons, decodeFrom_utf8EncodeChar, ih]
  rw [decode, encode, hlist, String.ofList_toList]

end TapeToJava.Text.Utf8
