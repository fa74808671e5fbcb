import TapeToJava.Shell.Job

/-! Shells as programs: what their arguments ask for, and what happens at their end. -/

namespace TapeToJava.Shell

namespace Session

/-- The variables of a new shell; those from its surroundings come first. -/
def firstVariables (s : Session) (environment : List (String × String)) : List (String × Variable) :=
  let given := environment.map fun (name, value) => (name, (⟨some value, true, false⟩ : Variable))
  let own : List (String × String) :=
    [("IFS", " \t\n"), ("OPTIND", "1"), ("PATH", usualPath), ("PPID", toString s.process), ("PS1", "# "),
      ("PS2", "> "), ("PS4", "+ "), ("PWD", Builtin.placeText s.world.volume.workingDirectory)]
  let own := own.filter fun (name, _) => name == "IFS" || name == "OPTIND" || !given.any (·.1 == name)
  (given.filter fun (name, _) => name != "IFS" && name != "OPTIND") ++
    own.map fun (name, value) => (name, ⟨some value, false, false⟩)

/-- The state of a new shell that is started as a program. -/
def ofParent (s : Session) (name : String) (plainEcho : Bool) : Session :=
  { s with
    bindings := s.firstVariables s.environment
    functions := []
    name := name
    arguments := []
    status := 0
    settings := []
    traps := s.traps.filter (·.2 == "")
    process := s.process + 1
    plainEcho := plainEcho
    tested := false
    loops := 0
    scopes := []
    background := none
    captured := none
    line := 0 }

end Session

namespace Interpreter

/-- What the options of a shell ask for. -/
structure Call where
  /-- Whether the script is the first operand itself. -/
  isText : Bool
  /-- Whether the script is the input. -/
  fromInput : Bool
  operands : List String
  deriving DecidableEq, Repr

/-- Reads the letters of an option; whether the name of a setting is to follow, and whether the script
itself is an operand. -/
def letters (on : Bool) : List Char → Act (Bool × Bool)
  | [] => return (false, false)
  | c :: cs => do
    let (named, isText) ← letters on cs
    if c = 'c' then return (named, true)
    else if c = 'o' then return (true, isText)
    else if c = 'l' then return (named, isText)
    else if Builtin.isSetting c then do
      Builtin.turn on c
      return (named, isText)
    else Session.fail ("Illegal option " ++ (if on then "-" else "+") ++ c.toString)

/-- Reads the options of a shell. -/
def options : Nat → List String → Act Call
  | 0, args => return ⟨false, false, args⟩
  | _, [] => return ⟨false, false, []⟩
  | fuel + 1, arg :: rest =>
    match arg.toList with
    | ['-'] | ['-', '-'] => return ⟨false, false, rest⟩
    | sign :: c :: cs => do
      if sign = '-' ∨ sign = '+' then do
        let (named, isText) ← letters (sign = '-') (c :: cs)
        let rest ← match named, rest with
          | true, name :: rest => do
            match Builtin.settingNames.lookup name with
            | some letter => do
              Builtin.turn (sign = '-') letter
              pure rest
            | none => Session.fail ("Illegal option -o " ++ name)
          | _, rest => pure rest
        let call ← options fuel rest
        return { call with isText := call.isText || isText }
      else return ⟨false, false, arg :: rest⟩
    | _ => return ⟨false, false, arg :: rest⟩

/-- The text of a script. -/
def scriptText (bytes : List UInt8) : List Char :=
  (Text.Utf8.decode (bytes.filter (· != 0))).toList

/-- The code of a shell that does not find its script. -/
def missingCode (plainEcho : Bool) : Nat := if plainEcho then 127 else 2

/-- Finds the script of a call, and sets the name and the arguments. -/
def script (call : Call) : Act (List Char) := do
  let s ← get
  if call.isText then
    match call.operands with
    | [] => Session.fail "-c requires an argument"
    | text :: rest => do
      set { s with name := rest.headD s.name, arguments := rest.tail }
      return text.toList
  else match s.has 's', call.operands with
    | false, path :: rest => do
      match s.world.volume.find path with
      | .error fault => do
        Session.complain ("cannot open " ++ path ++ ": " ++
          (if fault = .notFound ∨ fault = .notADirectory then "No such file" else fault.reason))
        Session.setStatus (missingCode s.plainEcho)
        throw .leaveShell
      | .ok (_, .directory _) =>
        if s.plainEcho then do
          Session.setStatus 126
          throw .leaveShell
        else return []
      | .ok (_, .file _ bytes) => do
        set { s with name := path, arguments := rest }
        return scriptText bytes
    | _, operands => do
      let id := (s.handle? 0).getD 0
      let bytes := s.world.unread id
      set { s with arguments := operands, world := s.world.read id bytes.length }
      return scriptText bytes

/-- Runs something as all that a shell does: what is to be done at its end is done, and does not change
how it ends unless it says so. -/
def untilEnd (run : Runner) (act : Act Unit) : Act Unit := fun s =>
  match act s with
  | .error (.killed n) t => .error (.killed n) t
  | .ok () t | .error _ t =>
    match t.traps.lookup "0" with
    | none | some "" => .ok () t
    | some action =>
      match run.text action.toList { t with traps := t.traps.filter (·.1 != "0"), tested := false } with
      | .ok () u => .ok () { u with status := t.status }
      | r => r

/-- Runs a shell as a program. -/
def shell (run : Runner) (plainEcho : Bool) (args : List String) : Act Ending :=
  Session.asProgram (fun s => s.ofParent (args.headD usualShell) plainEcho) do
    untilEnd run do
      let call ← options (args.length + 1) args.tail
      let cs ← script call
      let _ ← run (.text 1 cs)

end Interpreter

end TapeToJava.Shell
