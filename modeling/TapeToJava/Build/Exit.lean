import TapeToJava.Json.Record

/-! How a command ended, with its JSON form. -/

namespace TapeToJava

/-- How a command ended. -/
structure Exit where
  success : Bool
  /-- The exit code; none when a signal ended the command. -/
  code : Option Int32
  deriving DecidableEq, Repr

namespace Exit

/-- The end with an exit code; only zero is a success. -/
def ofCode (code : Int32) : Exit := ⟨code == 0, some code⟩

/-- The end by a signal. -/
def killed : Exit := ⟨false, none⟩

def text (e : Exit) : String :=
  match e.code with
  | some code => "exit code " ++ toString code.toInt
  | none => "terminated by signal"

def fieldNames : List String := ["success", "code"]

def toJson (e : Exit) : Json.Tree :=
  .record [("success", .bool e.success), ("code", .ofOption (fun c => .ofInt c.toInt) e.code)]

def ofJson? (t : Json.Tree) : Option Exit := do
  let ms ← t.fields? fieldNames
  let success ← ms.required "success" Json.Tree.bool?
  let code ← ms.optional "code" Json.Tree.int32?
  some ⟨success, code⟩

end Exit

end TapeToJava
