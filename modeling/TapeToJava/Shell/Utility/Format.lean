import TapeToJava.Shell.Utility.Basic

/-! Printing arguments: in a row, or as a format says. -/

namespace TapeToJava.Shell.Utility

/-! ### Escapes -/

def isOctalByte (b : UInt8) : Bool := 0x30 ≤ b && b ≤ 0x37

/-- The byte that up to `n` octal digits spell, and what follows them. -/
def octalByte (n : Nat) (bs : List UInt8) : UInt8 × List UInt8 :=
  let ds := (bs.take n).takeWhile isOctalByte
  (ds.foldl (fun v d => 8 * v + (d - 0x30)) 0, bs.drop ds.length)

/-- The byte of a letter behind a backslash. -/
def letterByte? (b : UInt8) : Option UInt8 :=
  if b = 0x5C then some 0x5C
  else if b = 0x61 then some 0x07
  else if b = 0x62 then some 0x08
  else if b = 0x66 then some 0x0C
  else if b = 0x6E then some 0x0A
  else if b = 0x72 then some 0x0D
  else if b = 0x74 then some 0x09
  else if b = 0x76 then some 0x0B
  else none

/-- The byte that is spelt behind a backslash, and what follows. What is no escape leaves the backslash.
-/
def escapeByte : List UInt8 → UInt8 × List UInt8
  | [] => (0x5C, [])
  | b :: bs =>
    match letterByte? b with
    | some c => (c, bs)
    | none => if isOctalByte b then octalByte 3 (b :: bs) else (0x5C, b :: bs)

/-- Bytes with their escapes replaced, and whether one of them ended the output. Octal digits may have a
zero more in front of them. -/
def unescaped : Nat → List UInt8 → List UInt8 × Bool
  | 0, bs => (bs, false)
  | _ + 1, [] => ([], false)
  | fuel + 1, b :: bs =>
    if b ≠ 0x5C then
      let (rest, ended) := unescaped fuel bs
      (b :: rest, ended)
    else match bs with
      | 0x63 :: _ => ([], true)
      | 0x30 :: d :: more =>
        let (c, rest) := if isOctalByte d then octalByte 3 (d :: more) else (0, d :: more)
        let (rest, ended) := unescaped fuel rest
        (c :: rest, ended)
      | _ =>
        let (c, rest) := escapeByte bs
        let (rest, ended) := unescaped fuel rest
        (c :: rest, ended)

/-- Bytes with their escapes replaced, and whether one of them ended the output. -/
def unescape (bs : List UInt8) : List UInt8 × Bool :=
  unescaped (bs.length + 1) bs

/-! ### Arguments in a row -/

/-- The bytes of a line of arguments in which escapes are replaced; nothing is printed behind an escape
that ends the output. -/
def escapedRow (feed : Bool) (args : List String) : List UInt8 :=
  let (bytes, ended) := unescape (Text.Utf8.encode (String.intercalate " " args))
  if ended || !feed then bytes else bytes ++ [0x0A]

/-- The bytes of a line of arguments. -/
def plainRow (feed : Bool) (args : List String) : List UInt8 :=
  Text.Utf8.encode (String.intercalate " " args) ++ (if feed then [0x0A] else [])

/-- What the shell's own command prints: escapes are always replaced. -/
def echoEscaped : List String → List UInt8
  | "-n" :: args => escapedRow false args
  | args => escapedRow true args

/-- Whether an argument is an option of the program. -/
def isEchoOption (arg : String) : Bool :=
  match arg.toList with
  | '-' :: c :: cs => (c :: cs).all fun c => c == 'n' || c == 'e' || c == 'E'
  | _ => false

/-- What the program prints: escapes are replaced only on request. -/
def echoPlain (args : List String) : List UInt8 :=
  let letters := (args.takeWhile isEchoOption).flatMap (·.toList)
  let rest := args.dropWhile isEchoOption
  let escapes := (letters.filter fun c => c == 'e' || c == 'E').getLast? = some 'e'
  if escapes then escapedRow (!letters.contains 'n') rest else plainRow (!letters.contains 'n') rest

def echo (g : Given) : Outcome :=
  g.prints (echoPlain g.args) 0

/-! ### Formats -/

/-- How a value is laid out. -/
structure Layout where
  flags : List Char
  width : Nat
  precision : Option Nat
  deriving DecidableEq, Repr

namespace Layout

def has (l : Layout) (c : Char) : Bool := l.flags.contains c

/-- Some bytes, brought to the width with blanks. -/
def fill (l : Layout) (bs : List UInt8) : List UInt8 :=
  let blanks := List.replicate (l.width - bs.length) 0x20
  if l.has '-' then bs ++ blanks else blanks ++ bs

/-- A number with its sign, brought to the width with blanks or zeros. -/
def number (l : Layout) (sign : String) (digits : List Char) : List UInt8 :=
  let digits := match l.precision with
    | some p => if p = 0 ∧ digits = ['0'] then [] else List.replicate (p - digits.length) '0' ++ digits
    | none =>
      if l.has '0' && !l.has '-' then List.replicate (l.width - digits.length - sign.length) '0' ++ digits
      else digits
  l.fill (Text.Utf8.encode (sign ++ String.ofList digits))

end Layout

/-- The digits of a number in capitals. -/
def capitals (ds : List Char) : List Char := ds.map Char.toUpper

/-- The number that an argument spells, in decimal, octal or hexadecimal digits or as a quoted
character, and whether all of it was used. -/
def argumentNumber (s : String) : Int × Bool :=
  match s.toList with
  | [] => (0, true)
  | '\'' :: c :: _ | '"' :: c :: _ => (c.toNat, true)
  | cs =>
    let cs := cs.dropWhile fun c => c == ' ' || c == '\t' || c == '\n'
    let (negative, cs) := match cs with
      | '-' :: cs => (true, cs)
      | '+' :: cs => (false, cs)
      | cs => (false, cs)
    let (base, cs) := match cs with
      | '0' :: 'x' :: cs | '0' :: 'X' :: cs => (16, cs)
      | '0' :: cs => (8, '0' :: cs)
      | cs => (10, cs)
    let value (c : Char) : Nat :=
      if c.isDigit then c.toNat - 48
      else if 'a' ≤ c ∧ c ≤ 'f' then c.toNat - 87
      else if 'A' ≤ c ∧ c ≤ 'F' then c.toNat - 55
      else 99
    let ds := cs.takeWhile fun c => value c < base
    let n : Nat := ds.foldl (fun n d => base * n + value d) 0
    (if negative then -(n : Int) else n, ds ≠ [] ∧ cs.length = ds.length)

/-- What is printed so far, whether all numbers were good, and the arguments that are left. -/
structure Printing where
  printed : List UInt8
  good : Bool
  args : List String
  /-- Whether an escape has ended the output. -/
  ended : Bool

namespace Printing

def emit (p : Printing) (bs : List UInt8) : Printing :=
  { p with printed := p.printed ++ bs }

/-- The next argument, empty when there is none. -/
def next (p : Printing) : String × Printing :=
  (p.args.headD "", { p with args := p.args.tail })

/-- The next argument as a number. -/
def nextNumber (p : Printing) : Int × Printing :=
  let (s, p) := p.next
  let (n, good) := argumentNumber s
  (n, { p with good := p.good && good })

/-- Prints one value as its letter says; `none` when there is no such letter. -/
def value? (p : Printing) (l : Layout) (letter : Char) : Option Printing :=
  let cutTo (bs : List UInt8) := match l.precision with
    | some n => bs.take n
    | none => bs
  if letter = 's' then
    let (s, p) := p.next
    some (p.emit (l.fill (cutTo (Text.Utf8.encode s))))
  else if letter = 'b' then
    let (s, p) := p.next
    let (bs, ended) := unescape (Text.Utf8.encode s)
    some { p.emit (l.fill (cutTo bs)) with ended := ended }
  else if letter = 'c' then
    let (s, p) := p.next
    some (p.emit (l.fill ((Text.Utf8.encode s).take 1)))
  else if letter = 'd' ∨ letter = 'i' then
    let (n, p) := p.nextNumber
    let sign := if n < 0 then "-" else if l.has '+' then "+" else if l.has ' ' then " " else ""
    some (p.emit (l.number sign (Nat.toDigits 10 n.natAbs)))
  else if letter = 'u' ∨ letter = 'o' ∨ letter = 'x' ∨ letter = 'X' then
    let (n, p) := p.nextNumber
    let n := (n % (UInt64.size : Int)).toNat
    let ds := if letter = 'u' then Nat.toDigits 10 n
      else if letter = 'o' then (if l.has '#' then ['0'] else []) ++ Nat.toDigits 8 n
      else if letter = 'x' then Nat.toDigits 16 n
      else capitals (Nat.toDigits 16 n)
    let sign :=
      if !l.has '#' ∨ n = 0 then "" else if letter = 'x' then "0x" else if letter = 'X' then "0X" else ""
    some (p.emit (l.number sign ds))
  else none

end Printing

/-- A number in a format, or the next argument for a star, and what follows it. -/
def layoutNumber (p : Printing) (cs : List Char) : Option Nat × Printing × List Char :=
  match cs with
  | '*' :: rest =>
    let (n, p) := p.nextNumber
    (some n.toNat, p, rest)
  | cs =>
    let ds := cs.takeWhile Char.isDigit
    (decimal? (String.ofList ds), p, cs.drop ds.length)

/-- Prints along a format, once; `none` when the format is bad. -/
def formatOnce? : Nat → Printing → List Char → Option Printing
  | 0, p, _ | _, p, [] => some p
  | fuel + 1, p, '\\' :: cs =>
    let (b, rest) := escapeByte (Text.Utf8.encode (String.ofList cs))
    formatOnce? fuel (p.emit [b]) (Text.Utf8.decode rest).toList
  | fuel + 1, p, '%' :: '%' :: cs => formatOnce? fuel (p.emit [0x25]) cs
  | fuel + 1, p, '%' :: cs =>
    let flags := cs.takeWhile "#-+ 0".toList.contains
    let (width, p, cs) := layoutNumber p (cs.drop flags.length)
    let (precision, p, cs) := match cs with
      | '.' :: rest =>
        let (n, p, rest) := layoutNumber p rest
        (some (n.getD 0), p, rest)
      | cs => (none, p, cs)
    match cs with
    | [] => none
    | letter :: rest =>
      match p.value? ⟨flags, width.getD 0, precision⟩ letter with
      | none => none
      | some p => if p.ended then some p else formatOnce? fuel p rest
  | fuel + 1, p, c :: cs => formatOnce? fuel (p.emit (Text.Utf8.encode c.toString)) cs

/-- Prints along a format as often as there are arguments left that it takes. -/
def formatAll? (format : List Char) : Nat → Printing → Option Printing
  | 0, p => some p
  | fuel + 1, p =>
    match formatOnce? (format.length + 1) p format with
    | none => none
    | some q =>
      if q.ended ∨ q.args.isEmpty ∨ q.args.length = p.args.length then some q else formatAll? format fuel q

/-- What a format makes of arguments, and whether all numbers were good; `none` for a bad format. -/
def format? (format : String) (args : List String) : Option (List UInt8 × Bool) :=
  (formatAll? format.toList (args.length + 1) ⟨[], true, args, false⟩).map fun p => (p.printed, p.good)

def printf (g : Given) : Outcome :=
  match (if g.args.head? = some "--" then g.args.tail else g.args) with
  | [] => g.fails "printf: missing operand" 1
  | format :: args =>
    match format? format args with
    | none => g.fails "printf: invalid conversion specification" 1
    | some (bytes, good) => g.prints bytes (if good then 0 else 1)

end TapeToJava.Shell.Utility
