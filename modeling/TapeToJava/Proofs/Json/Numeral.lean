import Mathlib.Data.List.TakeWhile
import TapeToJava.Json.Numeral

/-! The literal of a natural number: its decimal digits, which are read back as the number. -/

namespace TapeToJava.Json

variable {n : Nat}

namespace Numeral

theorem digitsValue_toDigits (n : Nat) : digitsValue (Nat.toDigits 10 n) = n := by
  have hvalue := Nat.ofDigitChars_ten_toDigits (n := n)
  rwa [Nat.ofDigitChars_eq_foldl] at hvalue

theorem isDigit_of_mem_toDigits {c : Char} (h : c ∈ Nat.toDigits 10 n) : c.isDigit = true :=
  Nat.isDigit_of_mem_toDigits (by decide) (by decide) h

/-- Only the digits of zero start with a zero. -/
theorem head?_toDigits_ne_zero (hn : n ≠ 0) : (Nat.toDigits 10 n).head? ≠ some '0' := by
  induction n using Nat.strongRecOn with
  | ind n ih =>
      rw [Nat.toDigits_eq_if (by decide)]
      split
      · rename_i hlt
        have hdigit : ∀ m : Fin 10, m.val ≠ 0 → m.val.digitChar ≠ '0' := by decide
        intro hhead
        exact hdigit ⟨n, hlt⟩ hn (Option.some.inj hhead)
      · rename_i hle
        obtain ⟨c, cs, hcs⟩ := List.exists_cons_of_ne_nil (Nat.toDigits_ne_nil (b := 10) (n := n / 10))
        have hrest := ih (n / 10) (by omega) (by omega)
        rw [hcs] at hrest ⊢
        exact hrest

theorem digits?_toDigits (n : Nat) : digits? (Nat.toDigits 10 n) = some (Nat.toDigits 10 n, []) := by
  have htake : (Nat.toDigits 10 n).takeWhile Char.isDigit = Nat.toDigits 10 n :=
    List.takeWhile_eq_self_iff.mpr fun c hc => isDigit_of_mem_toDigits hc
  have hdrop : (Nat.toDigits 10 n).dropWhile Char.isDigit = [] :=
    List.dropWhile_eq_nil_iff.mpr fun c hc => isDigit_of_mem_toDigits hc
  rw [digits?, htake, hdrop, if_neg Nat.toDigits_ne_nil]

theorem unsigned?_toDigits (n : Nat) :
    unsigned? false (Nat.toDigits 10 n) = some ⟨false, Nat.toDigits 10 n, none, none⟩ := by
  have hzero : ¬((Nat.toDigits 10 n).head? = some '0' ∧ Nat.toDigits 10 n ≠ ['0']) := by
    rintro ⟨hhead, hne⟩
    by_cases hn : n = 0
    · rw [hn, Nat.toDigits_zero] at hne
      exact hne rfl
    · exact head?_toDigits_ne_zero hn hhead
  simp only [unsigned?, digits?_toDigits, Option.bind_eq_bind, Option.bind_some, if_neg hzero, fraction?,
    exponent?]

theorem ofLiteral?_toDigits (n : Nat) :
    ofLiteral? (Nat.toDigits 10 n) = some ⟨false, Nat.toDigits 10 n, none, none⟩ := by
  rw [← unsigned?_toDigits]
  unfold ofLiteral?
  split
  · rename_i cs hcs
    have hminus : ('-' : Char).isDigit = true := isDigit_of_mem_toDigits (n := n) (by simp [hcs])
    exact absurd hminus (by decide)
  · rfl

/-! ### Numbers that fit in a word -/

theorem le_foldl_digits (ds : List Char) (n : Nat) :
    n ≤ ds.foldl (fun n d => 10 * n + (d.toNat - 48)) n := by
  induction ds generalizing n with
  | nil => exact Nat.le_refl n
  | cons d ds ih =>
      have hstep : n ≤ 10 * n + (d.toNat - 48) := by omega
      exact Nat.le_trans hstep (ih _)

theorem keepDigits_of_le {ds : List Char} (h : ds.foldl (fun n d => 10 * n + (d.toNat - 48)) n ≤ maxDigits) :
    keepDigits n ds = (ds.foldl (fun n d => 10 * n + (d.toNat - 48)) n, []) := by
  induction ds generalizing n with
  | nil => rfl
  | cons d ds ih =>
      rw [keepDigits, if_neg (Nat.not_lt.mpr (Nat.le_trans (le_foldl_digits ds _) h))]
      exact ih h

theorem isFinite_toDigits (h : n ≤ maxDigits) : isFinite ⟨false, Nat.toDigits 10 n, none, none⟩ = true := by
  have hvalue := digitsValue_toDigits n
  rw [digitsValue] at hvalue
  have hkeep : keepDigits 0 (Nat.toDigits 10 n) = (n, []) := by
    rw [keepDigits_of_le (hvalue.symm ▸ h), hvalue]
  simp [isFinite, hkeep, keepDigits]

end Numeral

theorem integer?_integerLiteral (n : Nat) : integer? (integerLiteral n) = some (n : Int) := by
  have hliteral : integerLiteral n = Nat.toDigits 10 n := rfl
  rw [hliteral, integer?, Numeral.ofLiteral?_toDigits, Option.bind_some, Numeral.toInt?]
  simp only [Numeral.digitsValue_toDigits]
  rfl

end TapeToJava.Json
