import TapeToJava.Json.Tree

/-! JSON values written as text: on one line without blanks, or with one item on a line. -/

namespace TapeToJava.Json.Tree

/-- A string literal in its quotes. -/
def inQuotes (literal : List Char) : List Char :=
  '"' :: literal ++ ['"']

/-- The text of a boolean. -/
def boolText : Bool → List Char
  | true => ['t', 'r', 'u', 'e']
  | false => ['f', 'a', 'l', 's', 'e']

mutual

/-- A value without blanks. -/
def compact : Tree → List Char
  | null => ['n', 'u', 'l', 'l']
  | bool value => boolText value
  | number literal => literal
  | string literal => inQuotes literal
  | array [] => ['[', ']']
  | array (v :: vs) => '[' :: compact v ++ compactItems vs
  | object [] => ['\x7b', '\x7d']
  | object ((k, v) :: ms) => '\x7b' :: inQuotes k ++ ':' :: compact v ++ compactMembers ms

/-- The items behind the first one, and the end of the array. -/
def compactItems : List Tree → List Char
  | [] => [']']
  | v :: vs => ',' :: compact v ++ compactItems vs

/-- The members behind the first one, and the end of the object. -/
def compactMembers : List (List Char × Tree) → List Char
  | [] => ['\x7d']
  | (k, v) :: ms => ',' :: inQuotes k ++ ':' :: compact v ++ compactMembers ms

end

/-- A new line, indented by two blanks for each open container. -/
def newLine (depth : Nat) : List Char :=
  '\n' :: List.replicate (2 * depth) ' '

mutual

/-- A value inside `depth` open containers, with one item on a line. -/
def pretty (depth : Nat) : Tree → List Char
  | null => ['n', 'u', 'l', 'l']
  | bool value => boolText value
  | number literal => literal
  | string literal => inQuotes literal
  | array [] => ['[', ']']
  | array (v :: vs) => '[' :: newLine (depth + 1) ++ pretty (depth + 1) v ++ prettyItems depth vs
  | object [] => ['\x7b', '\x7d']
  | object ((k, v) :: ms) =>
    '\x7b' :: newLine (depth + 1) ++ inQuotes k ++ ':' :: ' ' :: pretty (depth + 1) v ++
      prettyMembers depth ms

/-- The items behind the first one, and the end of the array. -/
def prettyItems (depth : Nat) : List Tree → List Char
  | [] => newLine depth ++ [']']
  | v :: vs => ',' :: newLine (depth + 1) ++ pretty (depth + 1) v ++ prettyItems depth vs

/-- The members behind the first one, and the end of the object. -/
def prettyMembers (depth : Nat) : List (List Char × Tree) → List Char
  | [] => newLine depth ++ ['\x7d']
  | (k, v) :: ms =>
    ',' :: newLine (depth + 1) ++ inQuotes k ++ ':' :: ' ' :: pretty (depth + 1) v ++ prettyMembers depth ms

end

/-- The text of a value, without blanks. -/
def compactText (t : Tree) : String :=
  String.ofList t.compact

/-- The text of a value, with one item on a line. -/
def prettyText (t : Tree) : String :=
  String.ofList (t.pretty 0)

end TapeToJava.Json.Tree
