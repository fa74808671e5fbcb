import TapeToJava.Operator
import TapeToJava.Source.File
import TapeToJava.Source.Span

/-! Tokens: the operators of a source text with the places they were read from. Everything else is a
comment. -/

namespace TapeToJava

/-- An operator and the place it was read from. -/
structure Token where
  operator : Operator
  span : Span
  deriving DecidableEq, Repr

namespace Token

/-- A token is shown by its character and its place. -/
def text (t : Token) : String :=
  "'" ++ t.operator.char.toString ++ "' at " ++ t.span.text

/-- The tokens of a text without comments: its operators stand on line one, in consecutive columns. -/
def ofNormalized (s : String) : List Token :=
  (s.toList.filterMap Operator.ofChar?).mapIdx fun i op => ⟨op, .point 1 (UInt32.ofNat (i + 1))⟩

end Token

/-- The characters of a text that are operators. -/
def normalize (s : String) : String :=
  String.ofList (s.toList.filter fun c => (Operator.ofChar? c).isSome)

/-- A place in a text, by line and column, both counted from one. -/
structure Cursor where
  line : Nat
  column : Nat
  deriving DecidableEq, Repr

namespace Cursor

/-- The place of the first character. -/
def first : Cursor := ⟨1, 1⟩

/-- The place behind a character. -/
def advance (p : Cursor) (c : Char) : Cursor :=
  if c = '\n' then ⟨p.line + 1, 1⟩ else ⟨p.line, p.column + 1⟩

/-- The span of the character at a place. -/
def span (p : Cursor) : Span :=
  .point (UInt32.ofNat p.line) (UInt32.ofNat p.column)

end Cursor

/-- The outcome of reading a text: its tokens, and how many characters were comments. -/
structure Lexed where
  tokens : List Token
  discarded : Nat
  deriving DecidableEq, Repr

namespace Lexed

/-- The tokens of a text that starts at a given place. -/
def tokensFrom : Cursor → List Char → List Token
  | _, [] => []
  | p, c :: cs =>
    match Operator.ofChar? c with
    | some op => ⟨op, p.span⟩ :: tokensFrom (p.advance c) cs
    | none => tokensFrom (p.advance c) cs

/-- Reads a text; this never fails. -/
def ofText (s : String) : Lexed where
  tokens := tokensFrom .first s.toList
  discarded := s.toList.countP fun c => (Operator.ofChar? c).isNone

/-- The operators read, as a text without comments. -/
def normalized (l : Lexed) : String :=
  String.ofList (l.tokens.map (·.operator.char))

end Lexed

end TapeToJava
