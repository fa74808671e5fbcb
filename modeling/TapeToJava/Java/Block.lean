import TapeToJava.Machine.State
import TapeToJava.Text.Lines

/-! Java lines read as nested blocks: a line that ends in an opening brace begins a loop, a lone closing
brace ends the innermost loop, and the other lines are statements of their own. -/

namespace TapeToJava.Java

/-- A statement with what is nested in it. -/
inductive Item where
  | action (a : Machine.Action)
  | loop (body : List Item)
  deriving Repr

/-- What a line does in a block. -/
inductive Line where
  | simple (a : Machine.Action)
  | opening
  | closing
  deriving DecidableEq, Repr

/-- The meaning of a line, for the eight lines that have one. -/
def Line.ofText? : String → Option Line
  | "ptr++;" => some (.simple .moveRight)
  | "ptr--;" => some (.simple .moveLeft)
  | "mem[ptr]++;" => some (.simple .increment)
  | "mem[ptr]--;" => some (.simple .decrement)
  | "System.out.print(mem[ptr]);" => some (.simple .print)
  | "mem[ptr] = iostream.nextByte();" => some (.simple .read)
  | "while(mem[ptr] != 0) \x7b" => some .opening
  | "\x7d" => some .closing
  | _ => none

/-- A block that is being read: the items so far, the last one first, and around it the blocks that are
still open. -/
structure OpenBlocks where
  items : List Item
  around : List (List Item)

namespace OpenBlocks

def start : OpenBlocks := ⟨[], []⟩

/-- Reads a line. A closing line where no block is open is refused. -/
def step (b : OpenBlocks) : Line → Option OpenBlocks
  | .simple a => some { b with items := .action a :: b.items }
  | .opening => some ⟨[], b.items :: b.around⟩
  | .closing =>
    match b.around with
    | [] => none
    | outer :: around => some ⟨.loop b.items.reverse :: outer, around⟩

/-- Reads lines; a line without a meaning is refused. -/
def run (b : OpenBlocks) : List (List Char) → Option OpenBlocks
  | [] => some b
  | text :: rest =>
    match Line.ofText? (String.ofList text) with
    | none => none
    | some line =>
      match b.step line with
      | none => none
      | some next => next.run rest

end OpenBlocks

/-- The block that a text spells when every line of it ends in a line feed. -/
def block? (text : List Char) : Option (List Item) :=
  match (Text.lines text).reverse with
  | [] :: before =>
    match OpenBlocks.start.run before.reverse with
    | some ⟨items, []⟩ => some items.reverse
    | _ => none
  | _ => none

end TapeToJava.Java
