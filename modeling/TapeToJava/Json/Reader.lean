import TapeToJava.Json.Token
import TapeToJava.Json.Tree

/-! JSON values read from their tokens, one token at a time. What is open around the current place is
kept as a stack of containers that wait for a value. -/

namespace TapeToJava.Json.Reader

/-- A container that waits for a value; what it holds already is kept with the last one first. -/
inductive Frame where
  | array (items : List Tree)
  | object (members : List (List Char × Tree)) (key : List Char)

/-- What may come next. -/
inductive Phase where
  | value
  /-- The first item of an array, or its end. -/
  | firstItem
  /-- The first key of an object, or its end. -/
  | firstKey
  | key (members : List (List Char × Tree))
  | colon (members : List (List Char × Tree)) (key : List Char)
  /-- A value has just ended. -/
  | after (value : Tree)

/-- Where the reader stands. -/
structure State where
  stack : List Frame
  phase : Phase

/-- A value starts, or is complete with one token. -/
def State.begin (stack : List Frame) : Token → Option State
  | .null => some ⟨stack, .after .null⟩
  | .bool value => some ⟨stack, .after (.bool value)⟩
  | .number literal => some ⟨stack, .after (.number literal)⟩
  | .string literal => some ⟨stack, .after (.string literal)⟩
  | .arrayOpen => some ⟨.array [] :: stack, .firstItem⟩
  | .objectOpen => some ⟨stack, .firstKey⟩
  | _ => none

/-- Reads a token. -/
def State.step (s : State) (t : Token) : Option State :=
  match s.phase, s.stack, t with
  | .value, stack, t => begin stack t
  | .firstItem, .array _ :: stack, .arrayClose => some ⟨stack, .after (.array [])⟩
  | .firstItem, stack, t => begin stack t
  | .firstKey, stack, .objectClose => some ⟨stack, .after (.object [])⟩
  | .firstKey, stack, .string key => some ⟨stack, .colon [] key⟩
  | .key members, stack, .string key => some ⟨stack, .colon members key⟩
  | .colon members key, stack, .colon => some ⟨.object members key :: stack, .value⟩
  | .after v, .array items :: stack, .comma => some ⟨.array (v :: items) :: stack, .value⟩
  | .after v, .array items :: stack, .arrayClose => some ⟨stack, .after (.array (v :: items).reverse)⟩
  | .after v, .object members key :: stack, .comma => some ⟨stack, .key ((key, v) :: members)⟩
  | .after v, .object members key :: stack, .objectClose =>
    some ⟨stack, .after (.object ((key, v) :: members).reverse)⟩
  | _, _, _ => none

/-- Reads tokens. -/
def State.run (s : State) : List Token → Option State
  | [] => some s
  | t :: ts => (s.step t).bind fun next => next.run ts

/-- The value that tokens spell. -/
def value? (tokens : List Token) : Option Tree :=
  match (State.mk [] .value).run tokens with
  | some ⟨[], .after v⟩ => some v
  | _ => none

end TapeToJava.Json.Reader

namespace TapeToJava.Json

/-- The value of a JSON text. -/
def Tree.ofText? (text : String) : Option Tree :=
  (Token.scan text.toList).bind Reader.value?

end TapeToJava.Json
