import TapeToJava.Files.Volume

/-! Requests of programs that work on files in place: they create, list, move and remove. -/

namespace TapeToJava.Volume

/-- The volume in which the file at a place holds certain bytes. -/
def setBytes (v : Volume) (loc : Location) (bytes : List UInt8) : Volume :=
  match v.get? loc with
  | some (.file mode _) => v.insert loc (.file mode bytes)
  | _ => v

/-- The bytes of the file at a place. -/
def bytesAt (v : Volume) (loc : Location) : List UInt8 :=
  match v.get? loc with
  | some (.file _ bytes) => bytes
  | _ => []

/-- The entry that a path leads to, with its place. -/
def find (v : Volume) (path : String) : Except Fault (Location × Entry) :=
  match v.locate path.toList with
  | .error fault => .error fault
  | .ok loc =>
    match v.get? loc with
    | none => .error .notFound
    | some e => .ok (loc, e)

/-- Whether a path leads to something. -/
def isThere (v : Volume) (path : String) : Bool :=
  (v.stat path).toOption.isSome

/-- Whether a path leads to a directory. -/
def isDirectoryAt (v : Volume) (path : String) : Bool :=
  (v.stat path).toOption.any Entry.isDirectory

/-- The place of a file to write to, which is created empty with a mode if it is not there. -/
def openForWriting (v : Volume) (path : String) (mode : Nat) : Except Fault (Location × Volume) :=
  match v.target path.toList with
  | .error fault => .error fault
  | .ok t =>
    if !isName t.piece then .error .isADirectory
    else if maxName < Text.byteLength t.piece then .error .nameTooLong
    else
      let loc := Name.text t.piece :: t.directory
      match v.get? loc with
      | some (.directory _) => .error .isADirectory
      | some (.file _ _) => if t.slash then .error .notADirectory else .ok (loc, v)
      | none => if t.slash then .error .isADirectory else .ok (loc, v.insert loc (.file mode []))

/-- Creates a directory. -/
def createDirectory (v : Volume) (path : String) (mode : Nat) : Except Fault Volume :=
  match v.target path.toList with
  | .error fault => .error fault
  | .ok t =>
    if !isName t.piece then .error .alreadyThere
    else if maxName < Text.byteLength t.piece then .error .nameTooLong
    else
      let loc := Name.text t.piece :: t.directory
      if (v.get? loc).isSome then .error .alreadyThere else .ok (v.insert loc (.directory mode))

/-- The names in a directory, with what they name. -/
def namesIn (v : Volume) (loc : Location) : List (List Char × Entry) :=
  v.entries.filterMap fun
    | (.text name :: directory, e) => if directory = loc then some (name, e) else none
    | _ => none

/-- Whether there is nothing in a directory. -/
def isEmptyAt (v : Volume) (loc : Location) : Bool :=
  !v.entries.any fun (l, _) => l.tail == loc && l != []

/-- Removes an empty directory. -/
def removeDirectory (v : Volume) (path : String) : Except Fault Volume :=
  match v.target path.toList with
  | .error fault => .error fault
  | .ok t =>
    if t.piece = ['.'] then .error .invalid
    else if t.piece = ['.', '.'] then .error .notEmpty
    else if t.piece = [] then .error .busy
    else
      let loc := Name.text t.piece :: t.directory
      match v.get? loc with
      | none => .error .notFound
      | some (.file _ _) => .error .notADirectory
      | some (.directory _) => if v.isEmptyAt loc then .ok (v.erase loc) else .error .notEmpty

/-- Removes what is at a place and everything below it. -/
def removeAll (v : Volume) (loc : Location) : Volume :=
  { v with entries := v.entries.filter fun (l, _) => !loc.isSuffixOf l }

/-- Moves what is at a place, with everything below it, to a place that is free or holds a file. -/
def moveAll (v : Volume) (loc dest : Location) : Volume :=
  let cleared := v.erase dest
  { cleared with entries := cleared.entries.map fun (l, e) =>
      if loc.isSuffixOf l then (l.take (l.length - loc.length) ++ dest, e) else (l, e) }

end TapeToJava.Volume
