import Mathlib.Algebra.Group.Nat.Defs
import TapeToJava.Text.Utf8

/-! Decoding with replacement leaves ASCII alone: the ASCII characters of the decoded text are those of the ASCII
bytes, in the same order, whatever stands between them. A character that has been begun can only be completed
beyond ASCII, and an ASCII byte that cuts it short is read again. -/

namespace TapeToJava.Text.Utf8

/-- A character that is written as a single byte. -/
def isAscii (c : Char) : Bool :=
  decide (c.toNat < 0x80)

/-- The character with the number of a byte. -/
def byteChar (byte : UInt8) : Char :=
  Char.ofNat byte.toNat

theorem toNat_ofNat {n : Nat} (h : n.isValidChar) : (Char.ofNat n).toNat = n := by
  rw [Char.ofNat, dif_pos h]
  rfl

theorem toNat_byteChar (byte : UInt8) : (byteChar byte).toNat = byte.toNat := by
  have hbyte := byte.toNat_lt
  exact toNat_ofNat (Or.inl (by omega))

theorem isAscii_byteChar (byte : UInt8) : isAscii (byteChar byte) = decide (byte.toNat < 0x80) := by
  rw [isAscii, toNat_byteChar]

namespace Partial

/-- The least number with which a character that has been begun can be completed. -/
def least (p : Partial) : Nat :=
  (p.value * 0x40 + (p.low - 0x80)) * 0x40 ^ p.after

/-- The number behind the greatest one with which it can be completed. -/
def bound (p : Partial) : Nat :=
  (p.value * 0x40 + (p.high - 0x80) + 1) * 0x40 ^ p.after

/-- Only bytes beyond ASCII continue the character that has been begun, and it can only be completed to a
character beyond ASCII. -/
structure Fits (p : Partial) : Prop where
  low_ge : 0x80 ≤ p.low
  least_ge : 0x80 ≤ p.least
  isValid : p.bound ≤ 0xD800 ∨ (0xE000 ≤ p.least ∧ p.bound ≤ 0x110000)

theorem least_eq (value n : Nat) : least ⟨value, 0x80, 0xBF, n⟩ = value * 0x40 ^ (n + 1) := by
  rw [least, Nat.sub_self, Nat.add_zero, Nat.mul_assoc, ← Nat.pow_succ']

theorem bound_eq (value n : Nat) : bound ⟨value, 0x80, 0xBF, n⟩ = (value + 1) * 0x40 ^ (n + 1) := by
  have hlast : value * 0x40 + (0xBF - 0x80) + 1 = (value + 1) * 0x40 := by omega
  dsimp only [bound]
  rw [hlast, Nat.mul_assoc, ← Nat.pow_succ']

theorem fits_of_value {value n : Nat} (hleast : 0x80 ≤ value * 0x40 ^ (n + 1))
    (hvalid : (value + 1) * 0x40 ^ (n + 1) ≤ 0xD800 ∨
      (0xE000 ≤ value * 0x40 ^ (n + 1) ∧ (value + 1) * 0x40 ^ (n + 1) ≤ 0x110000)) :
    Fits ⟨value, 0x80, 0xBF, n⟩ := by
  refine ⟨Nat.le_refl _, ?_, ?_⟩
  · rwa [least_eq]
  · rwa [least_eq, bound_eq]

/-- One more byte narrows the range of the numbers that are left. -/
theorem Fits.next {p : Partial} (hp : p.Fits) {b n : Nat} (hlow : p.low ≤ b) (hhigh : b ≤ p.high)
    (hafter : p.after = n + 1) : Fits ⟨p.value * 0x40 + (b - 0x80), 0x80, 0xBF, n⟩ := by
  obtain ⟨hlow_ge, hleast, hvalid⟩ := hp
  have hleast' : p.least ≤ (p.value * 0x40 + (b - 0x80)) * 0x40 ^ (n + 1) := by
    rw [least, hafter]
    exact Nat.mul_le_mul_right _ (by omega)
  have hbound' : (p.value * 0x40 + (b - 0x80) + 1) * 0x40 ^ (n + 1) ≤ p.bound := by
    rw [bound, hafter]
    exact Nat.mul_le_mul_right _ (by omega)
  apply fits_of_value
  · exact Nat.le_trans hleast hleast'
  · rcases hvalid with hvalid | ⟨hvalid, hvalid'⟩
    · exact Or.inl (Nat.le_trans hbound' hvalid)
    · exact Or.inr ⟨Nat.le_trans hvalid hleast', Nat.le_trans hbound' hvalid'⟩

/-- The last byte completes a character beyond ASCII. -/
theorem Fits.isAscii_last {p : Partial} (hp : p.Fits) {b : Nat} (hlow : p.low ≤ b) (hhigh : b ≤ p.high)
    (hafter : p.after = 0) : isAscii (Char.ofNat (p.value * 0x40 + (b - 0x80))) = false := by
  obtain ⟨hlow_ge, hleast, hvalid⟩ := hp
  rw [least, hafter, Nat.pow_zero, Nat.mul_one] at hleast hvalid
  rw [bound, hafter, Nat.pow_zero, Nat.mul_one] at hvalid
  have hchar : (p.value * 0x40 + (b - 0x80)).isValidChar := by
    rcases hvalid with hvalid | ⟨hvalid, hvalid'⟩
    · exact Or.inl (by omega)
    · exact Or.inr ⟨by omega, by omega⟩
  rw [isAscii, toNat_ofNat hchar, decide_eq_false_iff_not]
  omega

end Partial

/-! ### One byte -/

theorem isAscii_replacement : isAscii replacement = false := by
  decide

/-- Characters that are complete and a character that has been begun, all of them beyond ASCII. -/
def Beyond (given : List Char × Option Partial) : Prop :=
  (∀ c ∈ given.1, isAscii c = false) ∧ ∀ p, given.2 = some p → p.Fits

theorem beyond_replacement : Beyond ([replacement], none) := by
  refine ⟨fun c hc => ?_, fun p hp => by cases hp⟩
  rw [List.mem_singleton.mp hc, isAscii_replacement]

theorem Partial.Fits.beyond {p : Partial} (hp : p.Fits) : Beyond ([], some p) := by
  refine ⟨List.forall_mem_nil _, fun q hq => ?_⟩
  rwa [← Option.some.inj hq]

theorem beyond_start {byte : UInt8} (h : 0x80 ≤ byte.toNat) : Beyond (start byte) := by
  have hbyte := byte.toNat_lt
  unfold start
  dsimp only
  generalize byte.toNat = b at h hbyte
  -- The first bytes of two, three and four; after 0xE0, 0xED, 0xF0 and 0xF4 not every second byte may follow.
  split
  · omega
  split
  · exact beyond_replacement
  split
  · exact (Partial.fits_of_value (by omega) (by omega)).beyond
  split
  · exact Partial.Fits.beyond ⟨by decide, by decide, by decide⟩
  split
  · exact Partial.Fits.beyond ⟨by decide, by decide, by decide⟩
  split
  · exact (Partial.fits_of_value (by omega) (by omega)).beyond
  split
  · exact Partial.Fits.beyond ⟨by decide, by decide, by decide⟩
  split
  · exact (Partial.fits_of_value (by omega) (by omega)).beyond
  split
  · exact Partial.Fits.beyond ⟨by decide, by decide, by decide⟩
  · exact beyond_replacement

theorem beyond_step {p : Option Partial} {byte : UInt8} (hp : ∀ q, p = some q → q.Fits) (h : 0x80 ≤ byte.toNat) :
    Beyond (step p byte) := by
  cases p with
  | none => exact beyond_start h
  | some p =>
      have hfits := hp p rfl
      dsimp only [step]
      split
      case isTrue hrange =>
        cases hafter : p.after with
        | zero =>
            refine ⟨fun c hc => ?_, fun q hq => by cases hq⟩
            rw [List.mem_singleton.mp hc, hfits.isAscii_last hrange.1 hrange.2 hafter]
        | succ n => exact (hfits.next hrange.1 hrange.2 hafter).beyond
      case isFalse =>
        obtain ⟨hchars, hnext⟩ := beyond_start h
        exact ⟨List.forall_mem_cons.mpr ⟨isAscii_replacement, hchars⟩, hnext⟩

theorem filter_isAscii_eq_nil {cs : List Char} (h : ∀ c ∈ cs, isAscii c = false) : cs.filter isAscii = [] :=
  List.filter_eq_nil_iff.mpr fun c hc => by rw [h c hc]; exact Bool.false_ne_true

/-- What a byte gives beyond ASCII does not count: there is its own character if it is ASCII, and else nothing. -/
theorem filter_isAscii_step {p : Option Partial} (hp : ∀ q, p = some q → q.Fits) (byte : UInt8) :
    (step p byte).1.filter isAscii = [byteChar byte].filter isAscii ∧
      ∀ q, (step p byte).2 = some q → q.Fits := by
  by_cases h : byte.toNat < 0x80
  · obtain ⟨cs, hstep, hcs⟩ := step_ascii h fun q hq => (hp q hq).low_ge
    have hbeyond : cs.filter isAscii = [] :=
      filter_isAscii_eq_nil fun c hc => by rw [hcs c hc, isAscii_replacement]
    rw [hstep]
    refine ⟨?_, fun q hq => by cases hq⟩
    rw [List.filter_append, hbeyond, List.nil_append, byteChar]
  · obtain ⟨hchars, hnext⟩ := beyond_step hp (Nat.le_of_not_lt h)
    have hbyte : isAscii (byteChar byte) = false := by rw [isAscii_byteChar, decide_eq_false h]
    refine ⟨?_, hnext⟩
    rw [filter_isAscii_eq_nil hchars, filter_isAscii_eq_nil (List.forall_mem_singleton.mpr hbyte)]

/-! ### All bytes -/

theorem decodeFrom_cons (p : Option Partial) (byte : UInt8) (bytes : List UInt8) :
    decodeFrom p (byte :: bytes) = (step p byte).1 ++ decodeFrom (step p byte).2 bytes := by
  cases p <;> rfl

theorem filter_isAscii_decodeFrom {p : Option Partial} (hp : ∀ q, p = some q → q.Fits) (bytes : List UInt8) :
    (decodeFrom p bytes).filter isAscii = (bytes.map byteChar).filter isAscii := by
  induction bytes generalizing p with
  | nil =>
      cases p with
      | none => rfl
      | some p => exact filter_isAscii_eq_nil (List.forall_mem_singleton.mpr isAscii_replacement)
  | cons byte bytes ih =>
      obtain ⟨hchars, hnext⟩ := filter_isAscii_step hp byte
      rw [decodeFrom_cons, List.filter_append, hchars, ih hnext, ← List.filter_append]
      rfl

theorem filter_isAscii_decode (bytes : List UInt8) :
    (decode bytes).toList.filter isAscii = (bytes.map byteChar).filter isAscii := by
  rw [decode, String.toList_ofList]
  exact filter_isAscii_decodeFrom (fun q hq => by cases hq) bytes

end TapeToJava.Text.Utf8
