/-! The eight operators of a tape program, with their characters and their long names. -/

namespace TapeToJava

/-- An operator of a tape program. -/
inductive Operator where
  | moveRight
  | moveLeft
  | increment
  | decrement
  | print
  | read
  | loopOpen
  | loopClose
  deriving DecidableEq, Repr

namespace Operator

/-- All operators, in the order in which they are usually listed. -/
def all : List Operator :=
  [moveRight, moveLeft, increment, decrement, print, read, loopOpen, loopClose]

/-- The character that stands for an operator. -/
def char : Operator → Char
  | moveRight => '>'
  | moveLeft => '<'
  | increment => '+'
  | decrement => '-'
  | print => '.'
  | read => ','
  | loopOpen => '['
  | loopClose => ']'

/-- The operator that a character stands for; every other character is a comment. -/
def ofChar? : Char → Option Operator
  | '>' => some moveRight
  | '<' => some moveLeft
  | '+' => some increment
  | '-' => some decrement
  | '.' => some print
  | ',' => some read
  | '[' => some loopOpen
  | ']' => some loopClose
  | _ => none

/-- The operator that a byte stands for; no byte beyond ASCII is one. -/
def ofByte? (b : UInt8) : Option Operator :=
  if b.toNat < 0x80 then ofChar? (Char.ofNat b.toNat) else none

/-- The long name of an operator, as it is written in the line map. -/
def name : Operator → String
  | moveRight => "ptr_inc"
  | moveLeft => "ptr_dec"
  | increment => "cell_inc"
  | decrement => "cell_dec"
  | print => "output"
  | read => "input"
  | loopOpen => "loop_open"
  | loopClose => "loop_close"

/-- The operator of a long name. -/
def ofName? (s : String) : Option Operator :=
  all.find? (·.name == s)

@[simp] theorem ofChar?_char (op : Operator) : ofChar? op.char = some op := by
  cases op <;> rfl

theorem ofChar?_eq_some_iff {c : Char} {op : Operator} : ofChar? c = some op ↔ c = op.char := by
  constructor
  · intro h
    unfold ofChar? at h
    split at h <;> first | (cases h; rfl) | cases h
  · rintro rfl
    exact ofChar?_char op

theorem char_injective {a b : Operator} (h : a.char = b.char) : a = b := by
  have := congrArg ofChar? h
  simpa using this

@[simp] theorem ofName?_name (op : Operator) : ofName? op.name = some op := by
  cases op <;> decide

end Operator

end TapeToJava
