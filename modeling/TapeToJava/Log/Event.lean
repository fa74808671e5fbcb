import TapeToJava.Text.Blank
import TapeToJava.Text.Lines

/-! Log events, and the lines they are written on. -/

namespace TapeToJava.Log

/-- How urgent an event is. -/
inductive Level where
  | error
  | warn
  | info
  | debug
  | trace
  deriving DecidableEq, Repr

/-- The place of a level among the levels: the more urgent, the lower. -/
def Level.rank : Level → Nat
  | error => 1
  | warn => 2
  | info => 3
  | debug => 4
  | trace => 5

def Level.name : Level → String
  | error => "ERROR"
  | warn => "WARN"
  | info => "INFO"
  | debug => "DEBUG"
  | trace => "TRACE"

/-- The part of the program in which an event happens. -/
inductive Area where
  | build
  | commandLine
  deriving DecidableEq, Repr

/-- Something that happened, with named values; the values are texts already. -/
structure Event where
  level : Level
  area : Area
  message : String
  fields : List (String × String)
  deriving DecidableEq, Repr

/-- How a character of a message is shown. The controls that a terminal obeys become escapes. -/
def messageChar (c : Char) : List Char :=
  if c = '\x07' ∨ c = '\x08' ∨ c = '\x0c' then ['\\', 'x', '0'] ++ Nat.toDigits 16 c.toNat
  else if c = '\x1b' ∨ c = '\x7f' then ['\\', 'x'] ++ Nat.toDigits 16 c.toNat
  else if 0x80 ≤ c.toNat ∧ c.toNat ≤ 0x9F then ['\\', 'u', '\x7b'] ++ Nat.toDigits 16 c.toNat ++ ['\x7d']
  else [c]

namespace Event

/-- The names of what an event carries. -/
def names (e : Event) : List String :=
  "message" :: e.fields.map (·.1)

/-- The text of an event: level, message, and the values behind their names. -/
def text (e : Event) : String :=
  e.level.name ++ " " ++ String.ofList (e.message.toList.flatMap messageChar) ++
    String.join (e.fields.map fun (name, value) => " " ++ name ++ "=" ++ value)

/-- The lines of an event, without blanks at their start. -/
def lines (e : Event) : List String :=
  (Text.lines e.text.toList).map fun l => String.ofList (Text.trimStart l)

end Event

end TapeToJava.Log
