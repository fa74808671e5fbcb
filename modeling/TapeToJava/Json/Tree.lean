/-! JSON values as they are written. Strings, keys and numbers are kept as literals, so that a value can
be passed over without a question whether its literals stand for anything. -/

namespace TapeToJava.Json

/-- A JSON value. -/
inductive Tree where
  | null
  | bool (value : Bool)
  | number (literal : List Char)
  | string (literal : List Char)
  | array (items : List Tree)
  | object (members : List (List Char × Tree))
  deriving Repr

end TapeToJava.Json
