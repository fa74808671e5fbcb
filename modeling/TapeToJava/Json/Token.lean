import TapeToJava.Json.Numeral
import TapeToJava.Json.Literal

/-! JSON text cut into tokens. Blanks between tokens leave no trace. The scanner looks at one character
at a time and keeps what it has of the current token. -/

namespace TapeToJava.Json

/-- A token of JSON text; strings and numbers keep their literals. -/
inductive Token where
  | arrayOpen
  | arrayClose
  | objectOpen
  | objectClose
  | colon
  | comma
  | null
  | bool (value : Bool)
  | number (literal : List Char)
  | string (literal : List Char)
  deriving DecidableEq, Repr

namespace Token

/-- What has been read of the current token. Literals are kept with their last character first. -/
inductive Pending where
  | none
  /-- A word or a number. -/
  | bare (read : List Char)
  | string (read : List Char)
  /-- A string behind a backslash. -/
  | escape (read : List Char)
  /-- A string in which `more` hexadecimal digits must follow. -/
  | unicode (read : List Char) (more : Nat)
  deriving DecidableEq, Repr

/-- The characters that may stand between tokens. -/
def isBlank (c : Char) : Bool :=
  c == ' ' || c == '\t' || c == '\n' || c == '\r'

/-- The characters that words and numbers are made of. -/
def isBare (c : Char) : Bool :=
  c.isAlphanum || c == '-' || c == '+' || c == '.'

/-- The token of a word or a number. -/
def ofBare? (literal : List Char) : Option Token :=
  if literal = ['n', 'u', 'l', 'l'] then some .null
  else if literal = ['t', 'r', 'u', 'e'] then some (.bool true)
  else if literal = ['f', 'a', 'l', 's', 'e'] then some (.bool false)
  else if (Numeral.ofLiteral? literal).isSome then some (.number literal)
  else none

/-- The token of a single character. -/
def ofMark? : Char → Option Token
  | '[' => some .arrayOpen
  | ']' => some .arrayClose
  | '\x7b' => some .objectOpen
  | '\x7d' => some .objectClose
  | ':' => some .colon
  | ',' => some .comma
  | _ => none

/-- Reads a character that stands between tokens. -/
def start (c : Char) : Option (List Token × Pending) :=
  if isBlank c then some ([], .none)
  else if c = '"' then some ([], .string [])
  else if isBare c then some ([], .bare [c])
  else (ofMark? c).map fun t => ([t], .none)

/-- Reads a character. Control characters are refused in strings, and an escape must be one of those
defined, but surrogates need not pair up. -/
def step : Pending → Char → Option (List Token × Pending)
  | .none, c => start c
  | .bare read, c =>
    if isBare c then some ([], .bare (c :: read))
    else do
      let t ← ofBare? read.reverse
      let (ts, next) ← start c
      some (t :: ts, next)
  | .string read, c =>
    if c = '"' then some ([.string read.reverse], .none)
    else if c = '\\' then some ([], .escape (c :: read))
    else if c.toNat < 0x20 then none
    else some ([], .string (c :: read))
  | .escape read, c =>
    if c = 'u' then some ([], .unicode (c :: read) 3)
    else if (simpleEscape? c).isSome then some ([], .string (c :: read))
    else none
  | .unicode read more, c =>
    if (hexValue? c).isSome then
      match more with
      | 0 => some ([], .string (c :: read))
      | n + 1 => some ([], .unicode (c :: read) n)
    else none

/-- The token that the end of the text completes. -/
def finish : Pending → Option (List Token)
  | .none => some []
  | .bare read => (ofBare? read.reverse).map ([·])
  | _ => none

/-- The tokens of the rest of a text. -/
def scanFrom : Pending → List Char → Option (List Token)
  | p, [] => finish p
  | p, c :: cs =>
    match step p c with
    | none => none
    | some (ts, next) => (scanFrom next cs).map (ts ++ ·)

/-- The tokens of a text; `none` when it cannot be cut into tokens. -/
def scan (text : List Char) : Option (List Token) :=
  scanFrom .none text

end Token

end TapeToJava.Json
