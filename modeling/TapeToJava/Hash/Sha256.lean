/-! SHA-256: padding, message schedule, compression. -/

namespace TapeToJava.Sha256

/-- The chaining value. -/
structure State where
  a : UInt32
  b : UInt32
  c : UInt32
  d : UInt32
  e : UInt32
  f : UInt32
  g : UInt32
  h : UInt32
  deriving DecidableEq, Repr

def initial : State :=
  ⟨0x6a09e667, 0xbb67ae85, 0x3c6ef372, 0xa54ff53a, 0x510e527f, 0x9b05688c, 0x1f83d9ab, 0x5be0cd19⟩

/-- The constants of the sixty-four rounds. -/
def constants : List UInt32 := [
  0x428a2f98, 0x71374491, 0xb5c0fbcf, 0xe9b5dba5, 0x3956c25b, 0x59f111f1, 0x923f82a4, 0xab1c5ed5,
  0xd807aa98, 0x12835b01, 0x243185be, 0x550c7dc3, 0x72be5d74, 0x80deb1fe, 0x9bdc06a7, 0xc19bf174,
  0xe49b69c1, 0xefbe4786, 0x0fc19dc6, 0x240ca1cc, 0x2de92c6f, 0x4a7484aa, 0x5cb0a9dc, 0x76f988da,
  0x983e5152, 0xa831c66d, 0xb00327c8, 0xbf597fc7, 0xc6e00bf3, 0xd5a79147, 0x06ca6351, 0x14292967,
  0x27b70a85, 0x2e1b2138, 0x4d2c6dfc, 0x53380d13, 0x650a7354, 0x766a0abb, 0x81c2c92e, 0x92722c85,
  0xa2bfe8a1, 0xa81a664b, 0xc24b8b70, 0xc76c51a3, 0xd192e819, 0xd6990624, 0xf40e3585, 0x106aa070,
  0x19a4c116, 0x1e376c08, 0x2748774c, 0x34b0bcb5, 0x391c0cb3, 0x4ed8aa4a, 0x5b9cca4f, 0x682e6ff3,
  0x748f82ee, 0x78a5636f, 0x84c87814, 0x8cc70208, 0x90befffa, 0xa4506ceb, 0xbef9a3f7, 0xc67178f2]

/-- A word turned to the right by `n` bits, for `n` from 1 to 31. -/
def rotate (n w : UInt32) : UInt32 :=
  (w >>> n) ||| (w <<< (32 - n))

def choose (x y z : UInt32) : UInt32 :=
  (x &&& y) ^^^ (~~~x &&& z)

def majority (x y z : UInt32) : UInt32 :=
  (x &&& y) ^^^ (x &&& z) ^^^ (y &&& z)

/-- One round, with its constant and its schedule word added up. -/
def State.round (s : State) (word : UInt32) : State :=
  let t₁ := s.h + (rotate 6 s.e ^^^ rotate 11 s.e ^^^ rotate 25 s.e) + choose s.e s.f s.g + word
  let t₂ := (rotate 2 s.a ^^^ rotate 13 s.a ^^^ rotate 22 s.a) + majority s.a s.b s.c
  ⟨t₁ + t₂, s.a, s.b, s.c, s.d + t₁, s.e, s.f, s.g⟩

def State.add (s t : State) : State :=
  ⟨s.a + t.a, s.b + t.b, s.c + t.c, s.d + t.d, s.e + t.e, s.f + t.f, s.g + t.g, s.h + t.h⟩

/-- The schedule word behind those given, the last of which comes first. -/
def nextWord (words : List UInt32) : UInt32 :=
  let w₂ := words.getD 1 0
  let w₁₅ := words.getD 14 0
  (rotate 17 w₂ ^^^ rotate 19 w₂ ^^^ (w₂ >>> 10)) + words.getD 6 0 +
    (rotate 7 w₁₅ ^^^ rotate 18 w₁₅ ^^^ (w₁₅ >>> 3)) + words.getD 15 0

/-- Schedule words with `n` more behind them, the last one first. -/
def extend : Nat → List UInt32 → List UInt32
  | 0, words => words
  | n + 1, words => extend n (nextWord words :: words)

/-- The big-endian words of a byte string; a remainder of fewer than four bytes is left out. -/
def wordsOf : List UInt8 → List UInt32
  | b₀ :: b₁ :: b₂ :: b₃ :: bytes =>
    let word := (b₀.toUInt32 <<< 24) ||| (b₁.toUInt32 <<< 16) ||| (b₂.toUInt32 <<< 8) ||| b₃.toUInt32
    word :: wordsOf bytes
  | _ => []

/-- Takes in one block of sixteen words. -/
def State.absorb (s : State) (block : List UInt32) : State :=
  let schedule := (extend 48 block.reverse).reverse
  s.add ((List.zipWith (· + ·) constants schedule).foldl State.round s)

/-- Takes in `count` blocks. -/
def State.absorbBlocks : Nat → State → List UInt32 → State
  | 0, s, _ => s
  | count + 1, s, words => State.absorbBlocks count (s.absorb (words.take 16)) (words.drop 16)

/-- The `n` lowest bytes of a number, the highest of them first. -/
def bytesOf (n value : Nat) : List UInt8 :=
  (List.range n).reverse.map fun i => UInt8.ofNat (value >>> (8 * i))

/-- A message filled up to whole blocks: a one bit, zero bits, and the length in bits. -/
def padded (message : List UInt8) : List UInt8 :=
  message ++ 0x80 :: (List.replicate ((119 - message.length % 64) % 64) 0 ++ bytesOf 8 (8 * message.length))

/-- The digest of a message, as eight words. -/
def digest (message : List UInt8) : List UInt32 :=
  let words := wordsOf (padded message)
  let s := initial.absorbBlocks (words.length / 16) words
  [s.a, s.b, s.c, s.d, s.e, s.f, s.g, s.h]

/-- A word as eight hexadecimal digits. -/
def wordText (w : UInt32) : List Char :=
  (bytesOf 4 w.toNat).flatMap fun b => [Nat.digitChar (b.toNat / 16), Nat.digitChar (b.toNat % 16)]

/-- The digest of a message, as hexadecimal digits. -/
def digestText (message : List UInt8) : String :=
  String.ofList ((digest message).flatMap wordText)

end TapeToJava.Sha256
