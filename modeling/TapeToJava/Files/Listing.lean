import TapeToJava.Files.Volume
import TapeToJava.Text.Utf8

/-! The working directory of a volume as a table: one row for each entry below it, sorted. -/

namespace TapeToJava.Volume

/-- How a name is shown; all temporary files look alike. -/
def nameText : Name → List Char
  | .text cs => cs
  | .temporary _ => ['<', 't', 'm', 'p', '>']

/-- The text of the names that lead to a place. -/
def pathText (loc : Location) : String :=
  String.ofList (Text.joined '/' (loc.reverse.map nameText))

/-- The names that lead from a directory to a place below it. -/
def below? (directory loc : Location) : Option Location :=
  if directory.isSuffixOf loc ∧ loc ≠ directory then some (loc.take (loc.length - directory.length))
  else none

/-- The row of an entry: its path, and for a file its mode in octal digits and its text. A directory is
looked into only where it lies in the working directory itself. -/
def row? (loc : Location) : Entry → Except Fault (List String)
  | .directory _ => if 1 < loc.length then .error .notFound else .ok [pathText loc ++ "/"]
  | .file mode bytes => .ok [pathText loc, String.ofList (Nat.toDigits 8 mode), Text.Utf8.decode bytes]

/-- Rows are compared text by text, from the left. -/
def rowLe : List String → List String → Bool
  | [], _ => true
  | _ :: _, [] => false
  | a :: as, b :: bs => if a = b then rowLe as bs else a < b

/-- The rows of the entries that lie below a directory. -/
def rowsBelow (directory : Location) : List (Location × Entry) → Except Fault (List (List String))
  | [] => .ok []
  | (loc, e) :: es =>
    match below? directory loc with
    | none => rowsBelow directory es
    | some names =>
      match row? names e, rowsBelow directory es with
      | .error fault, _ | _, .error fault => .error fault
      | .ok row, .ok rows => .ok (row :: rows)

/-- All rows in ascending order. -/
def listing (v : Volume) : Except Fault (List (List String)) :=
  match rowsBelow v.workingDirectory v.entries with
  | .error fault => .error fault
  | .ok rows => .ok (rows.mergeSort rowLe)

/-! ### Given files -/

/-- The place that a piece leads to, where a directory is made if there is nothing. -/
def makeNext (loc : Location) (v : Volume) (piece : List Char) : Location × Volume :=
  if piece = [] ∨ piece = ['.'] then (loc, v)
  else if piece = ['.', '.'] then (loc.tail, v)
  else if (v.get? (.text piece :: loc)).isSome then (.text piece :: loc, v)
  else (.text piece :: loc, v.insert (.text piece :: loc) (.directory directoryMode))

/-- The place of a directory, and the volume in which it and those that lead to it are there. -/
def makeDirectories (v : Volume) (path : List Char) : Location × Volume :=
  (Text.pieces '/' path).foldl (fun (loc, v) piece => makeNext loc v piece) (v.origin path, v)

/-- The volume with a file at a path, and with the directories that lead to it. -/
def putFile (v : Volume) (path : String) (mode : Nat) (bytes : List UInt8) : Volume :=
  let (loc, v) := v.makeDirectories (Path.directory path.toList)
  v.insert (.text ((Path.fileName? path.toList).getD []) :: loc) (.file mode bytes)

/-- The volume with a directory at a path, and with those that lead to it. -/
def putDirectory (v : Volume) (path : String) : Volume :=
  (v.makeDirectories path.toList).2

end TapeToJava.Volume
