import TapeToJava.Shell.Utility.Table

/-! What executable files hold: a program of the system, or a script whose first line names the program
that reads it. -/

namespace TapeToJava.Shell

/-- The bytes that a program of the system begins with. -/
def programMark : List UInt8 := [0x7F, 0x45, 0x4C, 0x46]

/-- The bytes of a program of the system. -/
def programBytes (name : String) : List UInt8 :=
  programMark ++ Text.Utf8.encode name

/-- The program of the system that a file holds. -/
def programName? (bytes : List UInt8) : Option String :=
  if programMark.isPrefixOf bytes then some (Text.Utf8.decode (bytes.drop programMark.length)) else none

/-! ### First lines -/

/-- The number of bytes in which a first line has to end. -/
def firstLineBytes : Nat := 256

def isSpaceOrTab (b : UInt8) : Bool := b == 0x20 || b == 0x09

def dropSpaces (bs : List UInt8) : List UInt8 := bs.dropWhile isSpaceOrTab

/-- An interpreter and its argument. -/
structure Interpreter where
  path : String
  argument : Option String
  deriving DecidableEq, Repr

/-- The interpreter that a line names. Its name ends at a blank; what follows is one argument. -/
def Interpreter.ofLine? (line : List UInt8) : Option Interpreter :=
  match dropSpaces line with
  | [] => none
  | line =>
    let name := line.takeWhile fun b => !isSpaceOrTab b && b != 0
    match line.drop name.length with
    | 0 :: _ | [] => some ⟨Text.Utf8.decode name, none⟩
    | rest => some ⟨Text.Utf8.decode name, some (Text.Utf8.decode ((dropSpaces rest).takeWhile (· != 0)))⟩

/-- Bytes without the blanks at their end. -/
def trimEnd (bs : List UInt8) : List UInt8 := (bs.reverse.dropWhile isSpaceOrTab).reverse

/-- The interpreter of a script; `none` for what is no script, or names none. Only the first bytes are
looked at, and behind the end of a shorter file there are zeros: where no line ends in them, the last
one does not count, and the name has to end before it. -/
def interpreter? (bytes : List UInt8) : Option Interpreter :=
  match bytes.take firstLineBytes ++ List.replicate (firstLineBytes - bytes.length) 0 with
  | 0x23 :: 0x21 :: start =>
    if start.contains 0x0A then Interpreter.ofLine? (trimEnd (start.takeWhile (· != 0x0A)))
    else if (dropSpaces start).any (fun b => isSpaceOrTab b || b == 0) then
      Interpreter.ofLine? (trimEnd start.dropLast)
    else none
  | _ => none

/-- A program of the system with its arguments, its own name first. -/
structure Image where
  program : String
  args : List String
  deriving DecidableEq, Repr

/-- Whether a mode lets anyone execute a file. -/
def isExecutable (mode : Nat) : Bool :=
  mode &&& 0o111 ≠ 0

/-- How many scripts may be read by scripts. -/
def interpreterLevels : Nat := 6

/-- What is run when a path is executed with arguments. -/
def imageAt? (v : Volume) : Nat → String → List String → Except Fault Image
  | 0, _, _ => .error .tooManyLevels
  | levels + 1, path, args =>
    match v.stat path with
    | .error fault => .error fault
    | .ok (.directory _) => .error .permissionDenied
    | .ok (.file mode bytes) =>
      if !isExecutable mode then .error .permissionDenied
      else match programName? bytes, interpreter? bytes with
        | some name, _ => .ok ⟨name, args⟩
        | none, none => .error .execFormat
        | none, some i =>
          -- an empty name leads to the working directory
          if i.path = "" then .error .permissionDenied
          else imageAt? v levels i.path (i.path :: i.argument.toList ++ path :: args.tail)

/-- What is run when a path is executed with arguments. -/
def image? (v : Volume) (path : String) (args : List String) : Except Fault Image :=
  imageAt? v interpreterLevels path args

/-! ### Looking for programs -/

/-- The directories in which programs are looked for. -/
def usualPath : String := "/usr/local/sbin:/usr/local/bin:/usr/sbin:/usr/bin:/sbin:/bin"

/-- The paths at which a program may be found. -/
def candidates (path name : String) : List String :=
  (Text.pieces ':' path.toList).map fun d => if d = [] then name else String.ofList d ++ "/" ++ name

/-- The first of some paths that can be executed. One at which that is not allowed counts only if there
is no other. -/
def findExecutable (v : Volume) (args : List String) : List String → Except Fault String
  | [] => .error .notFound
  | path :: paths =>
    match image? v path args with
    | .ok _ | .error .execFormat => .ok path
    | .error .permissionDenied =>
      match findExecutable v args paths with
      | .error .notFound => .error .permissionDenied
      | r => r
    | .error .notFound | .error .notADirectory => findExecutable v args paths
    | .error fault => .error fault

/-- The path of the first file of a name that can be executed; another file of the name is better than
none. -/
def search? (v : Volume) (path name : String) : Except Fault String :=
  let found := (candidates path name).filterMap fun p => match v.stat p with
    | .ok (.file mode _) => some (p, isExecutable mode)
    | _ => none
  match found.find? (·.2) with
  | some (p, _) => .ok p
  | none => if found.isEmpty then .error .notFound else .error .permissionDenied

end TapeToJava.Shell
