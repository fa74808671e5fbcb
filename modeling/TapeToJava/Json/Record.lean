import TapeToJava.Json.Literal
import TapeToJava.Json.Numeral
import TapeToJava.Json.Tree

/-! Records in JSON. A record is an object whose members may stand in any order, among members of other
names; some records may also be an array of their fields. A field stands exactly once, or at most once
if it is optional. -/

namespace TapeToJava.Json

/-- The members of a record, with their keys spelled out. -/
abbrev Members := List (List Char × Tree)

namespace Tree

/-- The value of a text. -/
def ofText (s : String) : Tree :=
  .string (escape s.toList)

/-- The value of an integer. -/
def ofInt (n : Int) : Tree :=
  .number (integerLiteral n)

/-- The value of an optional text; null when there is none. -/
def ofOption {α : Type} (encode : α → Tree) : Option α → Tree
  | none => .null
  | some a => encode a

/-- An object whose keys are given as plain names. -/
def record (fields : List (String × Tree)) : Tree :=
  .object (fields.map fun (name, v) => (escape name.toList, v))

/-- The text of a string. -/
def text? : Tree → Option String
  | .string literal => (unescape literal).map String.ofList
  | _ => none

/-- The truth value of a boolean. -/
def bool? : Tree → Option Bool
  | .bool value => some value
  | _ => none

/-- The integer of a number that is written as one and lies within bounds. -/
def int? (low high : Int) : Tree → Option Int
  | .number literal => (integer? literal).filter fun n => decide (low ≤ n ∧ n ≤ high)
  | _ => none

def uint16? (t : Tree) : Option UInt16 :=
  (t.int? 0 0xFFFF).map fun n => UInt16.ofNat n.toNat

def uint32? (t : Tree) : Option UInt32 :=
  (t.int? 0 0xFFFFFFFF).map fun n => UInt32.ofNat n.toNat

def uint64? (t : Tree) : Option UInt64 :=
  (t.int? 0 0xFFFFFFFFFFFFFFFF).map fun n => UInt64.ofNat n.toNat

def int32? (t : Tree) : Option Int32 :=
  (t.int? (-0x80000000) 0x7FFFFFFF).map Int32.ofInt

/-- The items of an array, each of them read. -/
def list? {α : Type} (decode : Tree → Option α) : Tree → Option (List α)
  | .array items => items.mapM decode
  | _ => none

/-- One of several named values: its name as a string, or an object with that one key and null. -/
def choice? {α : Type} (name : α → String) (all : List α) : Tree → Option α
  | .string literal => do
    let cs ← unescape literal
    all.find? fun a => name a == String.ofList cs
  | .object [(key, .null)] => do
    let cs ← unescape key
    all.find? fun a => name a == String.ofList cs
  | _ => none

/-- The members of an object; none when some key does not stand for a text. -/
def members? : Tree → Option Members
  | .object ms => ms.mapM fun (key, v) => (unescape key).map (·, v)
  | _ => none

/-- The fields of a record that is an object or an array of exactly its fields. -/
def fields? (names : List String) : Tree → Option Members
  | .array items =>
    if items.length = names.length then some ((names.map String.toList).zip items) else none
  | t => t.members?

end Tree

namespace Members

/-- The values of the members of a name. -/
def named (ms : Members) (name : String) : List Tree :=
  (ms.filter fun m => m.1 == name.toList).map (·.2)

/-- A field that stands exactly once. -/
def required {α : Type} (ms : Members) (name : String) (decode : Tree → Option α) : Option α :=
  match ms.named name with
  | [v] => decode v
  | _ => none

/-- A field that stands at most once; null is the same as no value. -/
def optional {α : Type} (ms : Members) (name : String) (decode : Tree → Option α) : Option (Option α) :=
  match ms.named name with
  | [] => some none
  | [.null] => some none
  | [v] => (decode v).map some
  | _ => none

end Members

end TapeToJava.Json
