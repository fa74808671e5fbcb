import TapeToJava.Shell.Builtin
import TapeToJava.Shell.System

/-! What a shell has to run, and how it starts programs. -/

namespace TapeToJava.Shell

/-- Something to run. -/
inductive Job where
  | commands (cs : List Command)
  /-- A text, whose first line has a number in its script. -/
  | text (firstLine : Nat) (cs : List Char)
  | program (image : Image)

/-- How jobs are run. -/
abbrev Runner := Job → Act Ending

namespace Runner

/-- Runs commands of the shell itself. -/
def commands (run : Runner) (cs : List Command) : Act Unit := do
  let _ ← run (.commands cs)

/-- Runs a text as a part of the shell. -/
def text (run : Runner) (cs : List Char) : Act Unit := do
  let _ ← run (.text (← get).line cs)

end Runner

/-! ### Programs -/

/-- Runs a program that only works on what it is given. -/
def runUtility (u : Utility) (args : List String) : Act Ending := do
  let s ← get
  let id := s.handle? 0
  let input := (id.map s.world.unread).getD []
  let fromFile := match id.map s.world.stream with
    | some (.file _ _ _) => true
    | _ => false
  let out := u ⟨args, input, fromFile, s.world.volume⟩
  let world := { s.world with volume := out.volume }
  let world := match id with
    | some id => if out.hasRead then world.read id input.length else world
    | none => world
  set { s with world := world }
  Session.emit 1 out.printed
  Session.emitText 2 out.complaint
  return .code (if (s.handle? 1).isNone ∧ !out.printed.isEmpty then max 1 out.code else out.code)

/-- What a shell says when it cannot start a program. -/
def refusalText : Fault → String
  | .notFound | .notADirectory => "not found"
  | fault => fault.reason

/-- The code that stands for a program that could not be started. -/
def refusalCode : Fault → Nat
  | .notFound | .nameTooLong | .tooManyLevels => 127
  | _ => 126

/-- The name of the shell that runs files without a first line of their own. -/
def usualShell : String := "/bin/sh"

/-- Starts the file at a path with arguments, the first of them its name. -/
def start (run : Runner) (path : String) (args : List String) : Act (Except Fault Ending) := do
  match image? (← get).world.volume path args with
  | .ok image => return .ok (← run (.program image))
  | .error .execFormat => return .ok (← run (.program ⟨"sh", usualShell :: path :: args.tail⟩))
  | .error fault => return .error fault

/-- The path at which a program is found: its name when there is a slash in it. -/
def programPath (s : Session) (name : String) : Except Fault String :=
  if name.contains '/' then .ok name
  else search? s.world.volume ((s.value? "PATH").getD usualPath) name

/-- Starts a program by its name, as a program does that runs others. It complains in its own name. -/
def startFor (run : Runner) (program : String) (args : List String) : Act Ending := do
  let name := args.headD ""
  let refuse (fault : Fault) : Act Ending := do
    Session.emitText 2 (program ++ ": '" ++ name ++ "': " ++ fault.reason ++ "\n")
    return .code (if fault = .notFound then 127 else 126)
  let s ← get
  let found := if name = "" then .error .notFound
    else if name.contains '/' then .ok name
    else findExecutable s.world.volume args (candidates ((s.value? "PATH").getD usualPath) name)
  match found with
  | .error fault => refuse fault
  | .ok path => match ← start run path args with
    | .error fault => refuse fault
    | .ok ending => return ending

/-- Runs a program from the shell; a name that leads to none has a code of its own. -/
def runProgram (run : Runner) (name : String) (args : List String) : Act Ending := do
  match programPath (← get) name with
  | .error fault => do
    Session.complain (name ++ ": " ++ refusalText fault)
    return .code 127
  | .ok path => match ← start run path (name :: args) with
    | .ok ending => return ending
    | .error fault => do
      Session.complain (name ++ ": " ++ refusalText fault)
      return .code (refusalCode fault)

end TapeToJava.Shell
