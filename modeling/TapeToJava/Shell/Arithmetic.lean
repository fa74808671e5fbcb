import TapeToJava.Shell.Reading

/-! Arithmetic expressions of a shell, over 64-bit words. Variables may be read and given values. -/

namespace TapeToJava.Shell.Arithmetic

/-- An operator between two operands. -/
inductive Operator where
  | times | quotient | rest | plus | minus | left | right | less | atMost | more | atLeast | equal | unequal
  | bitAnd | bitXor | bitOr | both | either
  deriving DecidableEq, Repr

/-- An expression. -/
inductive Expr where
  | number (n : Int)
  | variable_ (name : String)
  | negate (e : Expr)
  | invert (e : Expr)
  | complement (e : Expr)
  | binary (op : Operator) (a b : Expr)
  | choose (condition accepted rejected : Expr)
  /-- Gives a variable a value, which an operator may combine with the one that it has. -/
  | assign (name : String) (op : Option Operator) (e : Expr)
  deriving DecidableEq, Repr

/-! ### Reading -/

/-- The operators, longer spellings first, with how closely they bind. -/
def operators : List (String × Operator × Nat) := [
  ("||", .either, 1), ("&&", .both, 2), ("<<", .left, 8), (">>", .right, 8), ("<=", .atMost, 7),
  (">=", .atLeast, 7), ("==", .equal, 6), ("!=", .unequal, 6), ("|", .bitOr, 3), ("^", .bitXor, 4),
  ("&", .bitAnd, 5), ("<", .less, 7), (">", .more, 7), ("+", .plus, 9), ("-", .minus, 9), ("*", .times, 10),
  ("/", .quotient, 10), ("%", .rest, 10)]

/-- The assignments, longer spellings first. -/
def assignments : List (String × Option Operator) := [
  ("<<=", some .left), (">>=", some .right), ("+=", some .plus), ("-=", some .minus), ("*=", some .times),
  ("/=", some .quotient), ("%=", some .rest), ("&=", some .bitAnd), ("^=", some .bitXor), ("|=", some .bitOr),
  ("=", none)]

def skipBlanks (cs : List Char) : List Char :=
  cs.dropWhile fun c => c == ' ' || c == '\t' || c == '\n'

/-- The operator that a text begins with, and what follows it. -/
def operator? (cs : List Char) : Option (Operator × Nat × List Char) :=
  if assignments.any fun (s, _) => s != "=" && s.toList.isPrefixOf cs then none
  else (operators.find? fun (s, _) => s.toList.isPrefixOf cs).map fun (s, op, level) =>
    (op, level, cs.drop s.length)

/-- The assignment that a text begins with, and what follows it. -/
def assignment? (cs : List Char) : Option (Option Operator × List Char) :=
  if "==".toList.isPrefixOf cs then none
  else (assignments.find? fun (s, _) => s.toList.isPrefixOf cs).map fun (s, op) => (op, cs.drop s.length)

/-- The value of a digit. -/
def digitValue (c : Char) : Nat :=
  if c.isDigit then c.toNat - 48
  else if 'a' ≤ c ∧ c ≤ 'f' then c.toNat - 87
  else if 'A' ≤ c ∧ c ≤ 'F' then c.toNat - 55
  else 99

/-- The number that a constant spells: decimal, octal behind a zero, hexadecimal behind `0x`. -/
def constant? (cs : List Char) : Option Int :=
  let (base, ds) := match cs with
    | '0' :: 'x' :: ds | '0' :: 'X' :: ds => (16, ds)
    | '0' :: ds => (8, '0' :: ds)
    | ds => (10, ds)
  if ds ≠ [] ∧ ds.all (digitValue · < base) then
    some (ds.foldl (fun n d => base * n + digitValue d) 0 : Nat)
  else none

mutual

/-- Reads an expression with assignments and choices. -/
def whole : Nat → List Char → Option (Expr × List Char)
  | 0, _ => none
  | fuel + 1, cs =>
    let cs := skipBlanks cs
    let name := if cs.head?.any Reading.isNameStart then cs.takeWhile Reading.isNameChar else []
    match if name = [] then none else assignment? (skipBlanks (cs.drop name.length)) with
    | some (op, rest) => (whole fuel rest).map fun (e, rest) => (.assign (String.ofList name) op e, rest)
    | none =>
      match levels fuel 1 cs with
      | none => none
      | some (c, rest) =>
        match skipBlanks rest with
        | '?' :: rest =>
          match whole fuel rest with
          | none => none
          | some (a, rest) =>
            match skipBlanks rest with
            | ':' :: rest => (whole fuel rest).map fun (b, rest) => (.choose c a b, rest)
            | _ => none
        | rest => some (c, rest)

/-- Reads operands with the operators between them that bind at least as closely as some level. -/
def levels : Nat → Nat → List Char → Option (Expr × List Char)
  | 0, _, _ => none
  | fuel + 1, least, cs =>
    match operand fuel cs with
    | some (e, rest) => behind fuel least e rest
    | none => none

/-- Reads what follows an operand. -/
def behind : Nat → Nat → Expr → List Char → Option (Expr × List Char)
  | 0, _, _, _ => none
  | fuel + 1, least, e, cs =>
    let cs := skipBlanks cs
    match operator? cs with
    | none => some (e, cs)
    | some (op, level, rest) =>
      if level < least then some (e, cs)
      else match levels fuel (level + 1) rest with
        | some (f, rest) => behind fuel least (.binary op e f) rest
        | none => none

/-- Reads an operand. -/
def operand : Nat → List Char → Option (Expr × List Char)
  | 0, _ => none
  | fuel + 1, cs =>
    match skipBlanks cs with
    | [] => none
    | '(' :: rest =>
      match whole fuel rest with
      | none => none
      | some (e, rest) =>
        match skipBlanks rest with
        | ')' :: rest => some (e, rest)
        | _ => none
    | '-' :: rest => (operand fuel rest).map fun (e, rest) => (.negate e, rest)
    | '+' :: rest => operand fuel rest
    | '!' :: rest => (operand fuel rest).map fun (e, rest) => (.invert e, rest)
    | '~' :: rest => (operand fuel rest).map fun (e, rest) => (.complement e, rest)
    | c :: rest =>
      if c.isDigit then
        let ds := (c :: rest).takeWhile Char.isAlphanum
        (constant? ds).map fun n => (.number n, (c :: rest).drop ds.length)
      else if Reading.isNameStart c then
        let name := (c :: rest).takeWhile Reading.isNameChar
        some (.variable_ (String.ofList name), (c :: rest).drop name.length)
      else none

end

/-- Reads an expression; an empty one is zero. -/
def read? (cs : List Char) : Option Expr :=
  if skipBlanks cs = [] then some (.number 0)
  else match whole (8 * cs.length + 16) cs with
    | some (e, rest) => if skipBlanks rest = [] then some e else none
    | none => none

/-! ### Values -/

/-- A number brought into the range of a word. -/
def wrap (n : Int) : Int := Int.bmod n UInt64.size

/-- What an operator makes of two words; `none` for a division by zero. -/
def Operator.result? (op : Operator) (a b : Int) : Option Int :=
  let truth (x : Bool) : Option Int := some (if x then 1 else 0)
  let word (f : UInt64 → UInt64 → UInt64) : Option Int :=
    some (wrap (f (UInt64.ofInt a) (UInt64.ofInt b)).toNat)
  match op with
  | times => some (wrap (a * b))
  | quotient => if b = 0 then none else some (wrap (Int.tdiv a b))
  | rest => if b = 0 then none else some (wrap (Int.tmod a b))
  | plus => some (wrap (a + b))
  | minus => some (wrap (a - b))
  | left => word (· <<< ·)
  | right => some (a >>> (b.toNat % 64))
  | less => truth (a < b)
  | atMost => truth (a ≤ b)
  | more => truth (b < a)
  | atLeast => truth (b ≤ a)
  | equal => truth (a = b)
  | unequal => truth (a ≠ b)
  | bitAnd => word (· &&& ·)
  | bitXor => word (· ^^^ ·)
  | bitOr => word (· ||| ·)
  | both => truth (a ≠ 0 && b ≠ 0)
  | either => truth (a ≠ 0 || b ≠ 0)

/-- The variables that an expression reads and changes. -/
abbrev Values := List (String × String)

/-- The number that a variable holds; `none` when it holds something else. -/
def valueOf? (vs : Values) (name : String) : Option Int :=
  match vs.lookup name with
  | none => some 0
  | some s =>
    match skipBlanks s.toList with
    | [] => some 0
    | '-' :: ds => (constant? ds).map fun n => -n
    | '+' :: ds => constant? ds
    | ds => constant? ds

/-- The value of an expression and the variables behind it; `none` for a fault. -/
def Expr.value? : Expr → Values → Option (Int × Values)
  | .number n, vs => some (wrap n, vs)
  | .variable_ name, vs => (valueOf? vs name).map fun n => (n, vs)
  | .negate e, vs => (e.value? vs).map fun (n, vs) => (wrap (-n), vs)
  | .invert e, vs => (e.value? vs).map fun (n, vs) => (if n = 0 then 1 else 0, vs)
  | .complement e, vs => (e.value? vs).map fun (n, vs) => (-n - 1, vs)
  | .binary op a b, vs =>
    match a.value? vs with
    | none => none
    | some (x, vs) =>
      if op = .both ∧ x = 0 then some (0, vs)
      else if op = .either ∧ x ≠ 0 then some (1, vs)
      else match b.value? vs with
        | none => none
        | some (y, vs) => (op.result? x y).map fun n => (n, vs)
  | .choose c a b, vs =>
    match c.value? vs with
    | none => none
    | some (x, vs) => if x ≠ 0 then a.value? vs else b.value? vs
  | .assign name op e, vs =>
    match e.value? vs with
    | none => none
    | some (y, vs) =>
      let result := match op with
        | none => some y
        | some op => (valueOf? vs name).bind fun x => op.result? x y
      result.map fun n => (n, (name, toString n) :: vs)

end TapeToJava.Shell.Arithmetic
