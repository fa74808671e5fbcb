import TapeToJava.Operator

/-! The Java line of each operator. A loop's opening line and closing line are separate, so that every
operator has exactly one line. -/

namespace TapeToJava.Java

/-- The Java line that carries out an operator. -/
def statement : Operator → String
  | .moveRight => "ptr++;"
  | .moveLeft => "ptr--;"
  | .increment => "mem[ptr]++;"
  | .decrement => "mem[ptr]--;"
  | .print => "System.out.print(mem[ptr]);"
  | .read => "mem[ptr] = iostream.nextByte();"
  | .loopOpen => "while(mem[ptr] != 0) \x7b"
  | .loopClose => "\x7d"

theorem statement_injective {a b : Operator} (h : statement a = statement b) : a = b := by
  cases a <;> cases b <;> first | rfl | (exact absurd h (by decide))

theorem newline_not_mem_statement (op : Operator) : '\n' ∉ (statement op).toList := by
  cases op <;> decide

end TapeToJava.Java
