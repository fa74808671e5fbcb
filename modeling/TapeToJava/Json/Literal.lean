/-! String literals of JSON: a text is written with the fewest escapes, and every spelling of it is read
back. A literal is what stands between the quotes. -/

namespace TapeToJava.Json

/-- The number of a hexadecimal digit, in either case. -/
def hexValue? (c : Char) : Option Nat :=
  if c.isDigit then some (c.toNat - 48)
  else if 'a' ≤ c ∧ c ≤ 'f' then some (c.toNat - 87)
  else if 'A' ≤ c ∧ c ≤ 'F' then some (c.toNat - 55)
  else none

/-- How a character is written: quotes, backslashes and characters below U+0020 are escaped. -/
def escapeChar (c : Char) : List Char :=
  if c = '"' then ['\\', '"']
  else if c = '\\' then ['\\', '\\']
  else if c = '\x08' then ['\\', 'b']
  else if c = '\x0c' then ['\\', 'f']
  else if c = '\n' then ['\\', 'n']
  else if c = '\r' then ['\\', 'r']
  else if c = '\t' then ['\\', 't']
  else if c.toNat < 0x20 then
    ['\\', 'u', '0', '0', Nat.digitChar (c.toNat / 16), Nat.digitChar (c.toNat % 16)]
  else [c]

/-- The literal of a text. -/
def escape (cs : List Char) : List Char :=
  cs.flatMap escapeChar

/-- The character of a single-letter escape. -/
def simpleEscape? : Char → Option Char
  | '"' => some '"'
  | '\\' => some '\\'
  | '/' => some '/'
  | 'b' => some '\x08'
  | 'f' => some '\x0c'
  | 'n' => some '\n'
  | 'r' => some '\r'
  | 't' => some '\t'
  | _ => none

/-- The number of four hexadecimal digits. -/
def unit? (a b c d : Char) : Option Nat := do
  let a ← hexValue? a
  let b ← hexValue? b
  let c ← hexValue? c
  let d ← hexValue? d
  some (((a * 16 + b) * 16 + c) * 16 + d)

/-- A piece of a literal: a character, or a 16-bit unit given by its number. -/
inductive Piece where
  | char (c : Char)
  | unit (value : Nat)
  deriving DecidableEq, Repr

/-- The pieces of a literal. -/
def literalPieces? : List Char → Option (List Piece)
  | [] => some []
  | '\\' :: 'u' :: a :: b :: c :: d :: cs =>
    match unit? a b c d with
    | none => none
    | some value => (literalPieces? cs).map (.unit value :: ·)
  | '\\' :: c :: cs =>
    match simpleEscape? c with
    | none => none
    | some e => (literalPieces? cs).map (.char e :: ·)
  | c :: cs => if c = '\\' then none else (literalPieces? cs).map (.char c :: ·)

/-- The character of two units that form a pair. -/
def pairChar (high low : Nat) : Char :=
  Char.ofNat (0x10000 + (high - 0xD800) * 0x400 + (low - 0xDC00))

/-- The text of pieces. A surrogate that is not half of a pair has none. -/
def textOfPieces? : List Piece → Option (List Char)
  | [] => some []
  | .char c :: ps => (textOfPieces? ps).map (c :: ·)
  | [.unit value] => if 0xD800 ≤ value ∧ value < 0xE000 then none else some [Char.ofNat value]
  | .unit value :: .char c :: ps =>
    if 0xD800 ≤ value ∧ value < 0xE000 then none
    else (textOfPieces? ps).map (Char.ofNat value :: c :: ·)
  | .unit high :: .unit low :: ps =>
    if 0xD800 ≤ high ∧ high < 0xDC00 then
      if 0xDC00 ≤ low ∧ low < 0xE000 then (textOfPieces? ps).map (pairChar high low :: ·) else none
    else if 0xDC00 ≤ high ∧ high < 0xE000 then none
    else (textOfPieces? (.unit low :: ps)).map (Char.ofNat high :: ·)

/-- The text of a literal. -/
def unescape (literal : List Char) : Option (List Char) :=
  (literalPieces? literal).bind textOfPieces?

/-! ### Reading back -/

theorem hexValue?_digitChar {n : Nat} (h : n < 16) : hexValue? (Nat.digitChar n) = some n := by
  have hn : ∀ m : Fin 16, hexValue? (Nat.digitChar m) = some m.val := by decide
  exact hn ⟨n, h⟩

theorem unit?_control {n : Nat} (h : n < 0x20) :
    unit? '0' '0' (Nat.digitChar (n / 16)) (Nat.digitChar (n % 16)) = some n := by
  have hz : hexValue? '0' = some 0 := rfl
  simp [unit?, hz, hexValue?_digitChar (show n / 16 < 16 by omega),
    hexValue?_digitChar (show n % 16 < 16 by omega)]
  omega

theorem literalPieces?_plain {c : Char} (h : c ≠ '\\') (cs : List Char) :
    literalPieces? (c :: cs) = (literalPieces? cs).map (.char c :: ·) := by
  rw [literalPieces?]
  · simp [h]
  · simp_all
  · simp_all

theorem textOfPieces?_unit {n : Nat} (h : n < 0xD800) (ps : List Piece) :
    textOfPieces? (.unit n :: ps) = (textOfPieces? ps).map (Char.ofNat n :: ·) := by
  cases ps with
  | nil => simp [textOfPieces?]; omega
  | cons p ps =>
    cases p with
    | char c =>
      simp only [textOfPieces?, Option.map_map]
      rw [if_neg (by omega)]
      rfl
    | unit m =>
      simp only [textOfPieces?]
      rw [if_neg (by omega), if_neg (by omega)]

/-- The pieces of a character's literal stand for that character. -/
theorem literalPieces?_escapeChar (c : Char) (cs : List Char) :
    ∃ p, literalPieces? (escapeChar c ++ cs) = (literalPieces? cs).map (p :: ·) ∧
      ∀ ps, textOfPieces? (p :: ps) = (textOfPieces? ps).map (c :: ·) := by
  unfold escapeChar
  split
  · exact ⟨.char c, by simp_all [literalPieces?, simpleEscape?], by simp [textOfPieces?]⟩
  split
  · exact ⟨.char c, by simp_all [literalPieces?, simpleEscape?], by simp [textOfPieces?]⟩
  split
  · exact ⟨.char c, by simp_all [literalPieces?, simpleEscape?], by simp [textOfPieces?]⟩
  split
  · exact ⟨.char c, by simp_all [literalPieces?, simpleEscape?], by simp [textOfPieces?]⟩
  split
  · exact ⟨.char c, by simp_all [literalPieces?, simpleEscape?], by simp [textOfPieces?]⟩
  split
  · exact ⟨.char c, by simp_all [literalPieces?, simpleEscape?], by simp [textOfPieces?]⟩
  split
  · exact ⟨.char c, by simp_all [literalPieces?, simpleEscape?], by simp [textOfPieces?]⟩
  split
  · rename_i h
    refine ⟨.unit c.toNat, ?_, fun ps => ?_⟩
    · simp [literalPieces?, unit?_control h]
    · rw [textOfPieces?_unit (by omega), Char.ofNat_toNat]
  · exact ⟨.char c, literalPieces?_plain ‹_› cs, by simp [textOfPieces?]⟩

/-- What is written is read back. -/
theorem unescape_escape (cs : List Char) : unescape (escape cs) = some cs := by
  induction cs with
  | nil => rfl
  | cons c cs ih =>
    obtain ⟨p, hp, hc⟩ := literalPieces?_escapeChar c (escape cs)
    have he : escape (c :: cs) = escapeChar c ++ escape cs := by simp [escape]
    unfold unescape at ih ⊢
    rw [he, hp]
    cases hl : literalPieces? (escape cs) with
    | none => simp [hl] at ih
    | some ps =>
      rw [hl, Option.bind_some] at ih
      simp [hc, ih]

end TapeToJava.Json
