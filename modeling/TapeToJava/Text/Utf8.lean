/-! UTF-8, written and read. Reading never fails: each maximal ill-formed piece is replaced by one
U+FFFD. The reader looks at one byte at a time and keeps what it still expects of the current character.
-/

namespace TapeToJava.Text.Utf8

/-- The UTF-8 bytes of a text. -/
def encode (s : String) : List UInt8 :=
  s.toList.flatMap String.utf8EncodeChar

/-- The character that stands for an ill-formed piece. -/
def replacement : Char := '\uFFFD'

/-- A character of which the first bytes have been read. -/
structure Partial where
  /-- The payload of the bytes read so far. -/
  value : Nat
  /-- The least byte that may come next. -/
  low : Nat
  /-- The greatest byte that may come next. -/
  high : Nat
  /-- How many bytes must follow the next one. -/
  after : Nat
  deriving DecidableEq, Repr

/-- What a byte between characters gives: characters that are complete, and a character begun. The
bounds on the second byte rule out overlong forms, surrogates and values beyond U+10FFFF. -/
def start (byte : UInt8) : List Char × Option Partial :=
  let b := byte.toNat
  if b < 0x80 then ([Char.ofNat b], none)
  else if b < 0xC2 then ([replacement], none)
  else if b < 0xE0 then ([], some ⟨b - 0xC0, 0x80, 0xBF, 0⟩)
  else if b = 0xE0 then ([], some ⟨0, 0xA0, 0xBF, 1⟩)
  else if b = 0xED then ([], some ⟨0xD, 0x80, 0x9F, 1⟩)
  else if b < 0xF0 then ([], some ⟨b - 0xE0, 0x80, 0xBF, 1⟩)
  else if b = 0xF0 then ([], some ⟨0, 0x90, 0xBF, 2⟩)
  else if b < 0xF4 then ([], some ⟨b - 0xF0, 0x80, 0xBF, 2⟩)
  else if b = 0xF4 then ([], some ⟨4, 0x80, 0x8F, 2⟩)
  else ([replacement], none)

/-- Reads one byte. A byte that cannot continue the character begun ends it as ill-formed and is read
again between characters. -/
def step : Option Partial → UInt8 → List Char × Option Partial
  | none, byte => start byte
  | some p, byte =>
    let b := byte.toNat
    if p.low ≤ b ∧ b ≤ p.high then
      let value := p.value * 0x40 + (b - 0x80)
      match p.after with
      | 0 => ([Char.ofNat value], none)
      | n + 1 => ([], some ⟨value, 0x80, 0xBF, n⟩)
    else
      let (cs, q) := start byte
      (replacement :: cs, q)

/-- Reads the bytes that follow what has been read of a character. -/
def decodeFrom : Option Partial → List UInt8 → List Char
  | none, [] => []
  | some _, [] => [replacement]
  | p, byte :: bytes => (step p byte).1 ++ decodeFrom (step p byte).2 bytes

/-- The text of a byte string, with each maximal ill-formed piece replaced. -/
def decode (bytes : List UInt8) : String :=
  String.ofList (decodeFrom none bytes)

theorem step_ascii {p : Option Partial} {byte : UInt8} (h : byte.toNat < 0x80)
    (hp : ∀ q, p = some q → 0x80 ≤ q.low) :
    ∃ cs, step p byte = (cs ++ [Char.ofNat byte.toNat], none) ∧ ∀ c ∈ cs, c = replacement := by
  cases p with
  | none => exact ⟨[], by simp [step, start, h], by simp⟩
  | some q =>
    have hq : ¬(q.low ≤ byte.toNat ∧ byte.toNat ≤ q.high) := by
      have := hp q rfl
      omega
    exact ⟨[replacement], by simp [step, start, h, hq], by simp⟩

end TapeToJava.Text.Utf8
