/-! Number literals of JSON, and what they stand for. -/

namespace TapeToJava.Json

/-- The parts of a number literal. -/
structure Numeral where
  negative : Bool
  /-- The digits before the point. -/
  whole : List Char
  /-- The digits behind the point, if there is one. -/
  fraction : Option (List Char)
  /-- Whether the exponent is negative, and its digits, if there is one. -/
  exponent : Option (Bool × List Char)
  deriving DecidableEq, Repr

namespace Numeral

/-- The number of a row of decimal digits. -/
def digitsValue (ds : List Char) : Nat :=
  ds.foldl (fun n d => 10 * n + (d.toNat - 48)) 0

/-- A row of digits that is not empty, and what follows it. -/
def digits? (cs : List Char) : Option (List Char × List Char) :=
  if cs.takeWhile Char.isDigit = [] then none
  else some (cs.takeWhile Char.isDigit, cs.dropWhile Char.isDigit)

/-- The digits behind a point, and what follows them. -/
def fraction? : List Char → Option (Option (List Char) × List Char)
  | '.' :: cs => (digits? cs).map fun (ds, rest) => (some ds, rest)
  | cs => some (none, cs)

/-- The sign and the digits behind an exponent letter. -/
def exponentDigits? : List Char → Option (Bool × List Char)
  | '-' :: cs => (digits? cs).bind fun (ds, rest) => if rest = [] then some (true, ds) else none
  | '+' :: cs => (digits? cs).bind fun (ds, rest) => if rest = [] then some (false, ds) else none
  | cs => (digits? cs).bind fun (ds, rest) => if rest = [] then some (false, ds) else none

/-- The exponent, which ends the literal. -/
def exponent? : List Char → Option (Option (Bool × List Char))
  | [] => some none
  | c :: cs => if c = 'e' ∨ c = 'E' then (exponentDigits? cs).map some else none

/-- The parts of a literal without its sign. The digits before the point have no leading zero. -/
def unsigned? (negative : Bool) (cs : List Char) : Option Numeral := do
  let (whole, cs) ← digits? cs
  if whole.head? = some '0' ∧ whole ≠ ['0'] then none
  let (fraction, cs) ← fraction? cs
  let exponent ← exponent? cs
  some ⟨negative, whole, fraction, exponent⟩

/-- The parts of a literal; `none` when it is no JSON number. -/
def ofLiteral? : List Char → Option Numeral
  | '-' :: cs => unsigned? true cs
  | cs => unsigned? false cs

/-- The number of a literal that is written as an integer. The literal `-0` stands for no integer. -/
def toInt? (n : Numeral) : Option Int :=
  match n.fraction, n.exponent with
  | none, none =>
    if n.negative then
      if digitsValue n.whole = 0 then none else some (-(digitsValue n.whole : Int))
    else some (digitsValue n.whole)
  | _, _ => none

/-! ### Numbers that are too large -/

/-- The greatest digits that are kept: those of a 64-bit word. -/
def maxDigits : Nat := UInt64.size - 1

/-- Appends digits to a number as long as it fits in a word; behind it come the digits that are left. -/
def keepDigits : Nat → List Char → Nat × List Char
  | n, [] => (n, [])
  | n, d :: ds =>
    if maxDigits < 10 * n + (d.toNat - 48) then (n, d :: ds) else keepDigits (10 * n + (d.toNat - 48)) ds

/-- The double that is nearest to a natural number, a tie going to the even one, without a bound on its
exponent. -/
def toDouble (n : Nat) : Nat :=
  let ulp := 1 <<< (Nat.log2 n - 52)
  let low := n / ulp
  let rest := n % ulp
  if 2 * rest < ulp ∨ (2 * rest = ulp ∧ low % 2 = 0) then low * ulp else (low + 1) * ulp

/-- The least number that rounds to no double. -/
def doubleBound : Nat := (1 <<< 1024) - (1 <<< 970)

/-- The greatest power of ten that is a double. -/
def maxPower : Nat := 308

/-- Whether the number is a finite double when the digits that fit in a word are kept, both they and the
power of ten are rounded, and then their product. -/
def isFinite (n : Numeral) : Bool :=
  let (whole, cut) := keepDigits 0 n.whole
  let (digits, dropped) := keepDigits whole (n.fraction.getD [])
  let kept := (n.fraction.getD []).length - dropped.length
  let shift : Int := match n.exponent with
    | none => 0
    | some (true, ds) => -(digitsValue ds : Int)
    | some (false, ds) => digitsValue ds
  let power := shift + cut.length - kept
  if digits = 0 ∨ power ≤ 0 then true
  else if (maxPower : Int) < power then false
  else toDouble digits * toDouble (Nat.pow 10 power.toNat) < doubleBound

end Numeral

/-- The integer of a number literal. -/
def integer? (literal : List Char) : Option Int :=
  (Numeral.ofLiteral? literal).bind Numeral.toInt?

/-- The literal of an integer. -/
def integerLiteral (n : Int) : List Char :=
  match n with
  | .ofNat n => Nat.toDigits 10 n
  | .negSucc n => '-' :: Nat.toDigits 10 (n + 1)

end TapeToJava.Json
