import TapeToJava.Shell.Regex
import TapeToJava.Shell.Utility.Entries

/-! Programs that work on names and numbers alone. -/

namespace TapeToJava.Shell.Utility

/-- The last name of a path; only a path of slashes keeps one. -/
def baseName (path : String) : String :=
  let cs := (path.toList.reverse.dropWhile (· == '/')).reverse
  if cs = [] then (if path = "" then "" else "/")
  else String.ofList ((Text.pieces '/' cs).getLast?.getD [])

/-- A name without a suffix, unless that is all of it. -/
def withoutSuffix (suffix name : String) : String :=
  if suffix ≠ "" ∧ name ≠ suffix ∧ name.endsWith suffix then
    String.ofList (name.toList.take (name.length - suffix.length))
  else name

def basename (g : Given) : Outcome :=
  let known : Known := ⟨['a', 'z'], ['s'], [("multiple", 'a'), ("suffix", 's')], false⟩
  match Chosen.ofArgs? known (g.args.length + 1) g.args with
  | none => g.fails "basename: invalid option" 1
  | some c =>
    if c.has 'a' ∨ c.has 's' then
      if c.operands.isEmpty then g.fails "basename: missing operand" 1
      else
        let suffix := (c.value? 's').getD ""
        g.tells (String.join (c.operands.map fun p => withoutSuffix suffix (baseName p) ++ "\n")) 0
    else match c.operands with
      | [p] => g.tells (baseName p ++ "\n") 0
      | [p, suffix] => g.tells (withoutSuffix suffix (baseName p) ++ "\n") 0
      | _ => g.fails "basename: missing or extra operand" 1

/-- The path in front of the last name. -/
def directoryName (path : String) : String :=
  let cs := (path.toList.reverse.dropWhile (· == '/')).reverse
  if cs = [] then (if path = "" then "." else "/")
  else
    let front := cs.take (cs.length - ((Text.pieces '/' cs).getLast?.getD []).length)
    if front = [] then "."
    else
      let front := (front.reverse.dropWhile (· == '/')).reverse
      if front = [] then "/" else String.ofList front

def dirname (g : Given) : Outcome :=
  match g.chosen? "z" "" [] with
  | none => g.fails "dirname: invalid option" 1
  | some c =>
    if c.operands.isEmpty then g.fails "dirname: missing operand" 1
    else g.tells (String.join (c.operands.map fun p => directoryName p ++ "\n")) 0

/-- The numbers from one to another in steps. -/
def numbersFrom (first step last : Int) : List Int :=
  if step = 0 then []
  else if 0 < step then
    (List.range ((last - first) / step + 1).toNat).map fun (i : Nat) => first + step * (i : Int)
  else (List.range ((first - last) / (-step) + 1).toNat).map fun (i : Nat) => first + step * (i : Int)

/-- Numbers written one behind another, with a text between them; in one width if that is wanted. -/
def numberRow (between : String) (sameWidth : Bool) (ns : List Int) : String :=
  let width := (ns.map fun n => (toString n).length).foldl max 0
  let padded (n : Int) : String :=
    let ds := Nat.toDigits 10 n.natAbs
    let sign := if n < 0 then ['-'] else []
    String.ofList (sign ++ List.replicate (width - sign.length - ds.length) '0' ++ ds)
  if ns.isEmpty then ""
  else String.intercalate between (ns.map fun n => if sameWidth then padded n else toString n) ++ "\n"

/-- The options of a row of numbers: the text between them, and whether they get one width; and the
numbers themselves, which may have signs. -/
def rowOptions : Nat → List String → String × Bool × List String
  | 0, args => ("\n", false, args)
  | fuel + 1, args =>
    match args with
    | "-w" :: rest => ((rowOptions fuel rest).1, true, (rowOptions fuel rest).2.2)
    | "-s" :: between :: rest => (between, (rowOptions fuel rest).2.1, (rowOptions fuel rest).2.2)
    | "--" :: rest => ("\n", false, rest)
    | arg :: rest =>
      match arg.toList with
      | '-' :: 's' :: between =>
        (String.ofList between, (rowOptions fuel rest).2.1, (rowOptions fuel rest).2.2)
      | _ => ("\n", false, args)
    | [] => ("\n", false, [])

def seq (g : Given) : Outcome :=
  let (between, sameWidth, numbers) := rowOptions g.args.length g.args
  let print (first step last : Int) : Outcome :=
    g.tells (numberRow between sameWidth (numbersFrom first step last)) 0
  match numbers.mapM signed? with
  | some [last] => print 1 1 last
  | some [first, last] => print first 1 last
  | some [first, step, last] =>
    if step = 0 then g.fails "seq: invalid Zero increment value" 1 else print first step last
  | _ => g.fails "seq: invalid or missing operand" 1

/-- Whether a text is a time: a number, maybe with a fraction and a unit. -/
def isTime (s : String) : Bool :=
  let cs := match s.toList.reverse with
    | c :: cs => if c = 's' ∨ c = 'm' ∨ c = 'h' ∨ c = 'd' then cs.reverse else s.toList
    | [] => []
  match Text.pieces '.' cs with
  | [a] => a ≠ [] && a.all Char.isDigit
  | [a, b] => (a ≠ [] || b ≠ []) && a.all Char.isDigit && b.all Char.isDigit
  | _ => false

/-- Waits, which takes no time here. -/
def sleep (g : Given) : Outcome :=
  if g.args.isEmpty then g.fails "sleep: missing operand" 1
  else if (if g.args.head? = some "--" then g.args.tail else g.args).all isTime then g.quits 0
  else g.fails "sleep: invalid time interval" 1

/-- Has files written down, which they are here from the start; they have to be there. -/
def sync (g : Given) : Outcome :=
  match g.chosen? "df" "" [] with
  | none => g.fails "sync: invalid option" 1
  | some c => eachOperand g c.operands fun v path =>
      match v.stat path with
      | .ok _ => changed v
      | .error fault => complain v ("sync: error opening '" ++ path ++ "': " ++ fault.reason) 1

def uname (g : Given) : Outcome :=
  match g.args with
  | [] | ["-s"] => g.tells "Linux\n" 0
  | _ => g.quits 1

def whoami (g : Given) : Outcome :=
  if g.args.isEmpty then g.tells "root\n" 0 else g.fails "whoami: extra operand" 1

def id (g : Given) : Outcome :=
  match g.args with
  | [] => g.tells "uid=0(root) gid=0(root) groups=0(root)\n" 0
  | ["-u"] | ["-g"] => g.tells "0\n" 0
  | ["-un"] | ["-gn"] => g.tells "root\n" 0
  | _ => g.fails "id: no such user" 1

/-! ### Expressions -/

/-- A value of an expression as a number. -/
def value? (s : String) : Option Int :=
  if s.toList.head? = some '+' then none else signed? s

/-- The operators between two values, from the weakest on. -/
def operatorLevels : List (List String) :=
  [["|"], ["&"], ["=", "==", "!=", "<", "<=", ">", ">="], ["+", "-"], ["*", "/", "%"], [":"]]

def isNull (s : String) : Bool := s = "" || value? s = some 0

/-- What an operator makes of two values; `none` for values that it does not take. -/
def combined? (operator a b : String) : Option String :=
  let truth (x : Bool) := if x then "1" else "0"
  let compare (byNumber : Int → Int → Bool) (byText : String → String → Bool) : Option String :=
    match value? a, value? b with
    | some x, some y => some (truth (byNumber x y))
    | _, _ => some (truth (byText a b))
  let arithmetic (f : Int → Int → Option Int) : Option String :=
    match value? a, value? b with
    | some x, some y => (f x y).map toString
    | _, _ => none
  match operator with
  | "|" => some (if isNull a then (if isNull b then "0" else b) else a)
  | "&" => some (if isNull a || isNull b then "0" else a)
  | "=" | "==" => compare (fun x y => x == y) (fun x y => x == y)
  | "!=" => compare (fun x y => x != y) (fun x y => x != y)
  | "<" => compare (fun x y => x < y) (fun x y => decide (x < y))
  | "<=" => compare (fun x y => x ≤ y) (fun x y => !(decide (y < x)))
  | ">" => compare (fun x y => y < x) (fun x y => decide (y < x))
  | ">=" => compare (fun x y => y ≤ x) (fun x y => !(decide (x < y)))
  | "+" => arithmetic fun x y => some (x + y)
  | "-" => arithmetic fun x y => some (x - y)
  | "*" => arithmetic fun x y => some (x * y)
  | "/" => arithmetic fun x y => if y = 0 then none else some (Int.tdiv x y)
  | "%" => arithmetic fun x y => if y = 0 then none else some (Int.tmod x y)
  | ":" =>
    match Regex.ofText? false b.toList with
    | none => none
    | some r =>
      let stop := Regex.matchAt? false r ⟨[], a.toList, []⟩
      let grouped := (b.splitOn "\\(").length != 1
      match stop with
      | none => some (if grouped then "" else "0")
      | some stop =>
        if grouped then some (String.ofList ((stop.kept.lookup 1).getD []))
        else some (toString (a.length - stop.after.length))
  | _ => none

/-- A value with the operators of one level behind it; `operand?` reads the values between them. -/
def operatorsBehind? (operand? : List String → Option (String × List String)) (level : List String) :
    Nat → String → List String → Option (String × List String)
  | 0, v, rest => some (v, rest)
  | _ + 1, v, [] => some (v, [])
  | fuel + 1, v, operator :: rest =>
    if level.contains operator then
      match operand? rest with
      | some (w, rest) => (combined? operator v w).bind fun v => operatorsBehind? operand? level fuel v rest
      | none => none
    else some (v, operator :: rest)

/-- The value of some arguments under operators of certain levels, and the arguments behind it. -/
def expression? : Nat → List (List String) → List String → Option (String × List String)
  | 0, _, _ => none
  | _ + 1, [], [] => none
  | fuel + 1, [], a :: rest =>
    match a, rest with
    | "(", rest =>
      match expression? fuel operatorLevels rest with
      | some (v, ")" :: rest) => some (v, rest)
      | _ => none
    | "length", s :: rest => some (toString s.utf8ByteSize, rest)
    | "index", s :: chars :: rest =>
      let n := (s.toList.takeWhile fun c => !chars.contains c).length
      some (toString (if n = s.length then 0 else n + 1), rest)
    | "substr", s :: start :: count :: rest =>
      let text := match value? start, value? count with
        | some (.ofNat (i + 1)), some (.ofNat n) => String.ofList ((s.toList.drop i).take n)
        | _, _ => ""
      some (text, rest)
    | "match", s :: pattern :: rest => (combined? ":" s pattern).map fun v => (v, rest)
    | a, rest => some (a, rest)
  | fuel + 1, level :: levels, args =>
    match expression? fuel levels args with
    | some (v, rest) => operatorsBehind? (expression? fuel levels) level args.length v rest
    | none => none

def expr (g : Given) : Outcome :=
  let args := if g.args.head? = some "--" then g.args.tail else g.args
  match expression? (8 * args.length + 8) operatorLevels args with
  | some (v, []) => g.tells (v ++ "\n") (if isNull v then 1 else 0)
  | _ => g.fails "expr: syntax error" 2

end TapeToJava.Shell.Utility
