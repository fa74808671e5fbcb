import TapeToJava.Shell.Utility.Entries

/-! Conditions on files, texts and numbers, written as arguments. -/

namespace TapeToJava.Shell.Condition

/-- Whether a text is an operator between two operands. -/
def isBinary (s : String) : Bool :=
  ["=", "==", "!=", "<", ">", "-eq", "-ne", "-lt", "-le", "-gt", "-ge", "-nt", "-ot", "-ef"].contains s

/-- Whether a text is an operator in front of an operand. -/
def isUnary (s : String) : Bool :=
  match s.toList with
  | ['-', c] => "bcdefgGhkLnOprsStuwxz".toList.contains c
  | _ => false

/-- What an operator says of an operand. -/
def unary (v : Volume) (operator operand : String) : Bool :=
  match operator with
  | "-n" => operand ≠ ""
  | "-z" => operand = ""
  | "-t" => false
  | _ =>
    match v.stat operand with
    | .error _ => false
    | .ok (.directory mode) =>
      match operator with
      | "-f" | "-h" | "-L" | "-p" | "-S" | "-b" | "-c" => false
      | "-g" => mode &&& 0o2000 ≠ 0
      | "-u" => mode &&& 0o4000 ≠ 0
      | "-k" => mode &&& 0o1000 ≠ 0
      | _ => true
    | .ok (.file mode bytes) =>
      match operator with
      | "-d" | "-h" | "-L" | "-p" | "-S" | "-b" | "-c" => false
      | "-s" => bytes ≠ []
      | "-x" => mode &&& 0o111 ≠ 0
      | "-g" => mode &&& 0o2000 ≠ 0
      | "-u" => mode &&& 0o4000 ≠ 0
      | "-k" => mode &&& 0o1000 ≠ 0
      | _ => true

/-- Whether a character is a blank or ends a line or a page. -/
def isBlank (c : Char) : Bool := c == ' ' || ('\t' ≤ c && c ≤ '\r')

/-- A number with blanks around it. -/
def number? (s : String) : Option Int :=
  let cs := s.toList.dropWhile isBlank
  signed? (String.ofList (cs.reverse.dropWhile isBlank).reverse)

/-- What an operator says of two operands; `none` when they have to be numbers and are not. -/
def binary? (v : Volume) (operator a b : String) : Option Bool :=
  let numbers (holds : Int → Int → Bool) : Option Bool :=
    match number? a, number? b with
    | some x, some y => some (holds x y)
    | _, _ => none
  match operator with
  | "=" | "==" => some (a = b)
  | "!=" => some (a ≠ b)
  | "<" => some (decide (a < b))
  | ">" => some (decide (b < a))
  | "-eq" => numbers fun x y => x == y
  | "-ne" => numbers fun x y => x != y
  | "-lt" => numbers fun x y => x < y
  | "-le" => numbers fun x y => x ≤ y
  | "-gt" => numbers fun x y => y < x
  | "-ge" => numbers fun x y => y ≤ x
  | "-nt" => some (v.isThere a && !v.isThere b)
  | "-ot" => some (v.isThere b && !v.isThere a)
  | "-ef" => match v.find a, v.find b with
    | .ok (x, _), .ok (y, _) => some (x = y)
    | _, _ => some false
  | _ => none

/-- Whether the first of some arguments is an operand rather than an operator in front of one. -/
def standsAlone : List String → Bool
  | [_] => true
  | [_, _] => false
  | _ :: b :: _ => isBinary b
  | [] => true

mutual

/-- Alternatives, and the arguments behind them. -/
def either? : Nat → Volume → List String → Option (Bool × List String)
  | 0, _, _ => none
  | fuel + 1, v, args =>
    match both? fuel v args with
    | some (a, "-o" :: rest) => (either? fuel v rest).map fun (b, rest) => (a || b, rest)
    | r => r

/-- Conditions that must all hold, and the arguments behind them. -/
def both? : Nat → Volume → List String → Option (Bool × List String)
  | 0, _, _ => none
  | fuel + 1, v, args =>
    match one? fuel v args with
    | some (a, "-a" :: rest) => (both? fuel v rest).map fun (b, rest) => (a && b, rest)
    | r => r

/-- A condition, and the arguments behind it. -/
def one? : Nat → Volume → List String → Option (Bool × List String)
  | 0, _, _ => none
  | _ + 1, _, [] => some (false, [])
  | fuel + 1, v, a :: rest =>
    match rest with
    | operator :: b :: behind =>
      if isBinary operator ∧ !(a = "!" ∧ isUnary operator) then
        (binary? v operator a b).map fun r => (r, behind)
      else if a = "!" then (one? fuel v rest).map fun (r, rest) => (!r, rest)
      else if a = "(" then
        match either? fuel v rest with
        | some (r, ")" :: rest) => some (r, rest)
        | _ => none
      else if isUnary a && !standsAlone (a :: rest) then some (unary v a operator, b :: behind)
      else some (a ≠ "", rest)
    | [b] =>
      if a = "!" then some (b = "", [])
      else if isUnary a then some (unary v a b, [])
      else some (a ≠ "", rest)
    | [] => some (a ≠ "", [])

end

/-- Whether a condition holds; `none` when it is malformed. -/
def holds? (v : Volume) (args : List String) : Option Bool :=
  match either? (4 * args.length + 8) v args with
  | some (r, []) => some r
  | _ => none

end Condition

namespace Utility

/-- The code that a condition ends with: success when it holds. -/
def conditionCode (v : Volume) (args : List String) : Nat :=
  if args.isEmpty then 1
  else match Condition.holds? v args with
    | some true => 0
    | some false => 1
    | none => 2

def test (g : Given) : Outcome :=
  g.quits (conditionCode g.volume g.args)

/-- A condition in brackets. -/
def bracket (g : Given) : Outcome :=
  if g.args.getLast? = some "]" then g.quits (conditionCode g.volume g.args.dropLast)
  else g.fails "[: missing ']'" 2

end Utility

end TapeToJava.Shell
