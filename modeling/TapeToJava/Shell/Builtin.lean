import TapeToJava.Shell.Expansion
import TapeToJava.Shell.Image

/-! The commands of the shell itself. -/

namespace TapeToJava.Shell.Builtin

/-! ### Numbers and names -/

/-- The greatest number that a command takes. -/
def maxNumber : Nat := 0x7FFFFFFF

/-- A number that is not negative; blanks around it and a sign are allowed. -/
def number? (s : String) : Option Nat :=
  match Condition.number? s with
  | some (.ofNat n) => if n ≤ maxNumber then some n else none
  | _ => none

/-- A number, or the end of the script. -/
def number (s : String) : Act Nat :=
  match number? s with
  | some n => pure n
  | none => Session.fail ("Illegal number: " ++ s)

/-- A name and the value behind its sign. -/
def nameAndValue (s : String) : String × Option String :=
  let name := s.toList.takeWhile (· != '=')
  match s.toList.drop name.length with
  | [] => (s, none)
  | _ :: value => (String.ofList name, some (String.ofList value))

/-! ### Signals -/

/-- The names of signals, from number one on. -/
def signalNames : List String :=
  ["HUP", "INT", "QUIT", "ILL", "TRAP", "ABRT", "BUS", "FPE", "KILL", "USR1", "SEGV", "USR2", "PIPE", "ALRM", "TERM",
    "STKFLT", "CHLD", "CONT", "STOP", "TSTP", "TTIN", "TTOU", "URG", "XCPU", "XFSZ", "VTALRM", "PROF", "WINCH",
    "IO", "PWR", "SYS"]

/-- The number of a signal, given by its name or its number. -/
def signal? (s : String) : Option Nat :=
  match decimal? s with
  | some n => if n ≤ 64 then some n else none
  | none =>
    let upper := String.ofList (s.toList.map Char.toUpper)
    if upper = "EXIT" then some 0 else (signalNames.idxOf? upper).map (· + 1)

/-- The greatest number of a signal. -/
def lastSignal : Nat := 64

/-- What a signal is called, or else its number. -/
def signalText (n : Nat) : String :=
  let named := if n = 0 then none else signalNames[n - 1]?
  match named with
  | some "STKFLT" => "16"
  | some name => name
  | none =>
    if n = 34 then "RTMIN"
    else if 34 < n ∧ n < 50 then "RTMIN+" ++ toString (n - 34)
    else if 50 ≤ n ∧ n < lastSignal then "RTMAX-" ++ toString (lastSignal - n)
    else if n = lastSignal then "RTMAX"
    else toString n

/-- Prints what signals are called. -/
def listSignals : List String → Act Unit
  | [] => Session.emitText 1 (String.join ((List.range (lastSignal + 1)).map fun n => signalText n ++ "\n"))
  | arg :: _ =>
    let n := (decimal? arg).map fun n => if 128 < n then n - 128 else n
    match n with
    | some n =>
      if 0 < n ∧ n ≤ lastSignal then Session.emitText 1 (signalText n ++ "\n")
      else Session.fail ("kill: invalid signal number or exit status: " ++ arg)
    | none => Session.fail ("kill: invalid signal number or exit status: " ++ arg)

/-- Whether a signal does nothing unless something is to be done on it. -/
def isHarmless (n : Nat) : Bool :=
  n == 0 || n == 17 || n == 18 || n == 19 || n == 20 || n == 21 || n == 22 || n == 23 || n == 28

/-- What a signal does to the shell; `run` runs what is to be done on it. -/
def receive (run : List Char → Act Unit) (n : Nat) : Act Unit := do
  let s ← get
  match s.traps.lookup (toString n) with
  | some action =>
    if action = "" ∨ n = 9 then (if n = 9 then throw (.killed n) else pure ())
    else do
      run action.toList
      Session.setStatus 0
  | none => if isHarmless n then pure () else throw (.killed n)

/-- Sends a signal to processes. Only the shell itself is known by its number. -/
def sendAll (run : List Char → Act Unit) (n : Nat) : List String → Act Unit
  | [] => pure ()
  | target :: rest => do
    let s ← get
    if target = toString s.process then receive run n
    else do
      Session.complain ("kill: " ++ target ++ ": No such process")
      Session.setStatus 1
    sendAll run n rest

def kill (run : List Char → Act Unit) (args : List String) : Act Unit := do
  Session.setStatus 0
  let usage : Act Unit := do
    Session.complain "kill: Usage: kill [-s sigspec | -signum | -sigspec] [pid | job]..."
    Session.setStatus 2
  let send (signal : Option Nat) (targets : List String) : Act Unit :=
    match signal, targets with
    | _, [] => usage
    | none, _ => do
      Session.complain "kill: invalid signal number or name"
      Session.setStatus 2
    | some n, targets => sendAll run n targets
  match args with
  | [] => usage
  | "-s" :: name :: rest => send (signal? name) rest
  | "-l" :: args => listSignals args
  | "--" :: rest => send (some 15) rest
  | first :: rest =>
    match first.toList with
    | '-' :: c :: cs =>
      send (signal? (String.ofList (c :: cs))) (if rest.head? = some "--" then rest.tail else rest)
    | _ => send (some 15) args

/-- Sets what is to be done on signals. -/
def trap (args : List String) : Act Unit := do
  Session.setStatus 0
  let args := if args.head? = some "--" then args.tail else args
  let set_ (action : Option String) (signals : List String) : Act Unit :=
    signals.forM fun name =>
      match signal? name with
      | none => do
        Session.complain ("trap: " ++ name ++ ": bad trap")
        Session.setStatus 1
      | some n => Session.update fun s =>
          let others := s.traps.filter (·.1 != toString n)
          { s with traps := match action with
              | some a => (toString n, a) :: others
              | none => others }
  match args with
  | [] => pure ()
  | [one] => set_ none [one]
  | action :: signals =>
    if action = "-" then set_ none signals
    else if (decimal? action).isSome then set_ none args
    else set_ (some action) signals

/-! ### Settings and variables -/

/-- The letters of settings by their long names. -/
def settingNames : List (String × Char) :=
  [("errexit", 'e'), ("noglob", 'f'), ("ignoreeof", 'I'), ("interactive", 'i'), ("monitor", 'm'), ("noexec", 'n'),
    ("stdin", 's'), ("xtrace", 'x'), ("verbose", 'v'), ("vi", 'V'), ("emacs", 'E'), ("noclobber", 'C'),
    ("allexport", 'a'), ("notify", 'b'), ("nounset", 'u')]

def isSetting (c : Char) : Bool := settingNames.any (·.2 == c)

/-- Turns a setting on or off. -/
def turn (on : Bool) (c : Char) : Act Unit :=
  Session.update fun s =>
    let others := s.settings.filter (· != c)
    { s with settings := if on then others ++ [c] else others }

/-- Turns settings on and off; the rest of the arguments, if there is one to be kept. -/
def settings : Nat → List String → Act (Option (List String))
  | 0, _ | _, [] => pure none
  | fuel + 1, arg :: rest =>
    match arg.toList with
    | ['-', '-'] => pure (some rest)
    | ['-'] => pure (if rest.isEmpty then none else some rest)
    | sign :: c :: cs =>
      if sign = '-' ∨ sign = '+' then
        if c :: cs = ['o'] then
          match rest with
          | [] => pure none
          | name :: rest =>
            match settingNames.lookup name with
            | some letter => do
              turn (sign = '-') letter
              settings fuel rest
            | none => Session.fail ("set: Illegal option -o " ++ name)
        else if (c :: cs).all isSetting then do
          (c :: cs).forM (turn (sign = '-'))
          settings fuel rest
        else Session.fail ("set: Illegal option " ++ arg)
      else pure (some (arg :: rest))
    | _ => pure (some (arg :: rest))

/-- A text in single quotes. -/
def singleQuoted (s : String) : String :=
  String.ofList ('\'' :: (s.toList.flatMap fun c => if c = '\'' then "'\"'\"'".toList else [c]) ++ ['\''])

/-- The variables with their values, in ascending order. -/
def variableList (s : Session) : String :=
  let shown := s.bindings.filterMap fun (name, v) => v.value.map fun x => name ++ "=" ++ singleQuoted x ++ "\n"
  String.join (shown.mergeSort fun a b => !(b < a))

def setCommand (args : List String) : Act Unit := do
  Session.setStatus 0
  if args.isEmpty then Session.emitText 1 (variableList (← get))
  else match ← settings (args.length + 1) args with
    | some arguments => Session.update fun s => { s with arguments := arguments }
    | none => pure ()

def shift (args : List String) : Act Unit := do
  let n ← match args with
    | [] => pure 1
    | a :: _ => number a
  let s ← get
  if s.arguments.length < n then Session.fail "shift: can't shift that many"
  else set { s with arguments := s.arguments.drop n, status := 0 }

/-- The variables that are marked in some way, as commands that mark them again. -/
def markedList (command : String) (isMarked : Variable → Bool) (s : Session) : String :=
  let shown := (s.bindings.filter fun (_, v) => isMarked v).map fun (name, v) =>
    command ++ " " ++ name ++ ((v.value.map fun x => "=" ++ singleQuoted x).getD "") ++ "\n"
  String.join (shown.mergeSort fun a b => !(b < a))

/-- Marks variables, and gives values to those that have one behind a sign; without any, shows those
that are marked. -/
def mark (command : String) (isMarked : Variable → Bool) (change : Variable → Variable) (args : List String) :
    Act Unit := do
  Session.setStatus 0
  let args := args.filter fun a => a != "-p" && a != "--"
  if args.isEmpty then Session.emitText 1 (markedList command isMarked (← get))
  args.forM fun arg => do
    let (name, value) := nameAndValue arg
    if !Reading.isName name then Session.fail (arg ++ ": bad variable name")
    else do
      match value with
      | some x => Session.assign name x
      | none => pure ()
      Session.update fun s => s.put name (change ((s.bindings.lookup name).getD ⟨none, false, false⟩))

def unset (args : List String) : Act Unit := do
  Session.setStatus 0
  match args with
  | "-f" :: names => Session.update fun s => { s with functions := s.functions.filter fun f => !names.contains f.1 }
  | _ =>
    (args.filter (· != "-v")).forM fun name => do
      let s ← get
      if !Reading.isName name then Session.fail ("unset: " ++ name ++ ": bad variable name")
      else if (s.bindings.lookup name).any (·.fixed) then Session.fail ("unset: " ++ name ++ ": is read only")
      else set { s with bindings := s.bindings.filter (·.1 != name) }

/-- Variables of a function of its own. -/
def local_ (args : List String) : Act Unit := do
  Session.setStatus 0
  let s ← get
  match s.scopes with
  | [] => Session.fail "local: not in a function"
  | _ =>
    args.forM fun arg => do
      let (name, value) := nameAndValue arg
      Session.update fun s =>
        match s.scopes with
        | scope :: scopes =>
          if scope.any (·.1 == name) then s
          else { s with scopes := ((name, s.bindings.lookup name) :: scope) :: scopes }
        | [] => s
      match value with
      | some x => Session.assign name x
      | none => pure ()

/-! ### Input -/

/-- The bytes of a line of input, with its line feed if it has one. -/
def inputLine (bytes : List UInt8) : List UInt8 :=
  (byteLines bytes).headD []

/-- The characters of a line, marked where a backslash stood in front of them; a backslash at the end
joins the next line to it. The second component is the number of bytes that were read, the third whether
the line was complete. -/
def readMarks (raw : Bool) : Nat → List UInt8 → List Mark × Nat × Bool
  | 0, _ => ([], 0, false)
  | fuel + 1, bytes =>
    let line := inputLine bytes
    let complete := line.getLast? = some 0x0A
    let cs := (Text.Utf8.decode (withoutFeed line)).toList
    if raw then (cs.map fun c => (false, c), line.length, complete)
    else
      let rec marks : List Char → List Mark × Bool
        | [] => ([], false)
        | ['\\'] => ([], true)
        | '\\' :: c :: cs => ((true, c) :: (marks cs).1, (marks cs).2)
        | c :: cs => ((false, c) :: (marks cs).1, (marks cs).2)
      let (ms, joined) := marks cs
      if joined ∧ complete then
        let (more, count, complete) := readMarks raw fuel (bytes.drop line.length)
        (ms ++ more, line.length + count, complete)
      else (ms, line.length, complete)

/-- Whether a character is a blank between fields. -/
def isSeparatorBlank (separators : List Char) (m : Mark) : Bool :=
  !m.1 && separators.contains m.2 && (m.2 == ' ' || m.2 == '\t' || m.2 == '\n')

/-- The values of some names: each takes a field, and the last one all that is left. -/
def readFields (separators : List Char) : List String → List Mark → List (String × String)
  | [], _ => []
  | [name], ms =>
    let ms := ms.dropWhile (isSeparatorBlank separators)
    let ms := (ms.reverse.dropWhile (isSeparatorBlank separators)).reverse
    [(name, String.ofList (ms.map (·.2)))]
  | name :: names, ms =>
    let ms := ms.dropWhile (isSeparatorBlank separators)
    let isSeparator (m : Mark) := !m.1 && separators.contains m.2
    let field := ms.takeWhile (!isSeparator ·)
    let rest := (ms.drop field.length).dropWhile (isSeparatorBlank separators)
    let rest := match rest with
      | m :: more => if isSeparator m then more else rest
      | [] => []
    (name, String.ofList (field.map (·.2))) :: readFields separators names rest

def read (args : List String) : Act Unit := do
  let raw := args.head? = some "-r"
  let names := if raw then args.tail else args
  if names.isEmpty then do
    Session.complain "read: arg count"
    Session.setStatus 2
  else do
    let s ← get
    let id := (s.handle? 0).getD 0
    let bytes := s.world.unread id
    let (ms, count, complete) := readMarks raw (bytes.length + 1) bytes
    set { s with world := s.world.read id count }
    for (name, value) in readFields s.separators names ms do
      Session.assign name value
    Session.setStatus (if complete then 0 else 1)

/-! ### Places -/

/-- The path of a place. -/
def placeText (loc : Location) : String :=
  "/" ++ String.ofList (Text.joined '/' (loc.reverse.map fun
    | .text cs => cs
    | .temporary id => ".tmp".toList ++ Nat.toDigits 10 id))

def cd (args : List String) : Act Unit := do
  let s ← get
  let args := args.filter fun a => a != "-L" && a != "-P" && a != "--"
  let path := match args with
    | [] => (s.value? "HOME").getD ""
    | "-" :: _ => (s.value? "OLDPWD").getD ""
    | p :: _ => p
  let here := placeText s.world.volume.workingDirectory
  match s.world.volume.find (if path = "" then "." else path) with
  | .ok (loc, .directory _) => do
    set { s with world := { s.world with volume := { s.world.volume with workingDirectory := loc } }, status := 0 }
    Session.assign "OLDPWD" here
    Session.assign "PWD" (placeText loc)
    if args.head? = some "-" then Session.emitText 1 (placeText loc ++ "\n")
  | _ => do
    Session.complain ("cd: can't cd to " ++ path)
    Session.setStatus 2

def umask (args : List String) : Act Unit := do
  let s ← get
  match args with
  | [] => do
    let ds := Nat.toDigits 8 s.mask
    Session.emitText 1 (String.ofList (List.replicate (4 - ds.length) '0' ++ ds) ++ "\n")
    Session.setStatus 0
  | spec :: _ =>
    match Utility.octal? spec with
    | some n => set { s with mask := n % 0o1000, status := 0 }
    | none => do
      Session.complain ("umask: Illegal mode: " ++ spec)
      Session.setStatus 2

/-! ### Leaving -/

def exit (args : List String) : Act Unit := do
  match args with
  | [] => throw .leaveShell
  | a :: _ => do
    let n ← number a
    Session.setStatus (n % 256)
    throw .leaveShell

def return_ (args : List String) : Act Unit := do
  match args with
  | [] => throw .leaveFunction
  | a :: _ => do
    let n ← number a
    Session.setStatus (n % 256)
    throw .leaveFunction

/-- Leaves loops, or goes on with the next round of one; without a loop, nothing happens. -/
def loopStop (stop : Nat → Stop) (args : List String) : Act Unit := do
  let n ← match args with
    | [] => pure 1
    | a :: _ => number a
  if n = 0 then Session.fail "Illegal number: 0"
  else do
    let s ← get
    Session.setStatus 0
    if s.loops ≠ 0 then throw (stop (min n s.loops))

/-! ### Names of commands -/

/-- Commands whose faults end the script. -/
def special : List String :=
  [":", ".", "break", "continue", "eval", "exec", "exit", "export", "readonly", "return", "set", "shift", "times",
    "trap", "unset", "local"]

/-- The other commands of the shell. -/
def regular : List String :=
  ["[", "alias", "bg", "cd", "command", "echo", "false", "fg", "hash", "jobs", "kill", "printf", "pwd",
    "read", "test", "true", "type", "ulimit", "umask", "unalias", "wait"]

/-- Words that the shell reads in a way of their own. -/
def keywords : List String :=
  ["!", "\x7b", "\x7d", "case", "do", "done", "elif", "else", "esac", "fi", "for", "if", "in", "then", "until",
    "while"]

/-- What a name stands for. -/
inductive Meaning where
  | keyword
  | special
  | function
  | regular
  | file (path : String)
  | nothing
  deriving DecidableEq, Repr

/-- What a name stands for as a command. -/
def meaning (s : Session) (name : String) : Meaning :=
  if keywords.contains name then .keyword
  else if special.contains name then .special
  else if s.functions.any (·.1 == name) then .function
  else if regular.contains name then .regular
  else if name.toList.contains '/' then
    match s.world.volume.stat name with
    | .ok (.file mode _) => if isExecutable mode then .file name else .nothing
    | _ => .nothing
  else match search? s.world.volume ((s.value? "PATH").getD usualPath) name with
    | .ok path => .file path
    | .error _ => .nothing

/-- What is said about a name. -/
def describe (brief : Bool) (s : Session) (name : String) : Option String :=
  match meaning s name with
  | .keyword => some (if brief then name else name ++ " is a shell keyword")
  | .special => some (if brief then name else name ++ " is a special shell builtin")
  | .function => some (if brief then name else name ++ " is a shell function")
  | .regular => some (if brief then name else name ++ " is a shell builtin")
  | .file path => some (if brief then path else name ++ " is " ++ path)
  | .nothing => none

def describeAll (brief : Bool) (names : List String) : Act Unit := do
  Session.setStatus 0
  names.forM fun name => do
    match describe brief (← get) name with
    | some text => Session.emitText 1 (text ++ "\n")
    | none => do
      if !brief then Session.emitText 1 (name ++ ": not found\n")
      Session.setStatus 127

/-! ### Printing and testing -/

/-- Prints bytes and ends with a code; printing to nowhere fails. -/
def prints (bytes : List UInt8) (code : Nat) : Act Unit := do
  let s ← get
  if (s.handle? 1).isNone ∧ !bytes.isEmpty then do
    Session.complain "I/O error"
    Session.setStatus 1
  else do
    Session.emit 1 bytes
    Session.setStatus code

def echo (args : List String) : Act Unit := do
  let s ← get
  prints (if s.plainEcho then Utility.echoPlain args else Utility.echoEscaped args) 0

def printf (args : List String) : Act Unit := do
  match (if args.head? = some "--" then args.tail else args) with
  | [] => do
    Session.complain "printf: usage: printf format [arg ...]"
    Session.setStatus 2
  | format :: args =>
    match Utility.format? format args with
    | none => do
      Session.complain "printf: invalid directive"
      Session.setStatus 2
    | some (bytes, good) => prints bytes (if good then 0 else 1)

/-- A condition. The sign `==` is not among the shell's own operators. -/
def test (inBrackets : Bool) (args : List String) : Act Unit := do
  let s ← get
  if inBrackets ∧ args.getLast? ≠ some "]" then do
    Session.complain "[: missing ]"
    Session.setStatus 2
  else
    let args := if inBrackets then args.dropLast else args
    if !s.plainEcho ∧ args.contains "==" ∧ 2 < args.length then Session.setStatus 2
    else Session.setStatus (Utility.conditionCode s.world.volume args)

/-- Runs a command of the shell that needs no other commands; `run` runs what is to be done on a signal.
-/
def run (runText : List Char → Act Unit) (name : String) (args : List String) : Act Unit :=
  match name with
  | "exit" => exit args
  | "return" => return_ args
  | "break" => loopStop .leaveLoop args
  | "continue" => loopStop .nextRound args
  | "shift" => shift args
  | "set" => setCommand args
  | "export" => mark name (·.exported) (fun v => { v with exported := true }) args
  | "readonly" => mark name (·.fixed) (fun v => { v with fixed := true }) args
  | "unset" => unset args
  | "local" => local_ args
  | "trap" => trap args
  | "kill" => kill runText args
  | "read" => read args
  | "cd" => cd args
  | "umask" => umask args
  | "echo" => echo args
  | "printf" => printf args
  | "test" => test false args
  | "[" => test true args
  | "type" => describeAll false args
  | "false" => Session.setStatus 1
  | "pwd" => do
    let s ← get
    Session.emitText 1 (placeText s.world.volume.workingDirectory ++ "\n")
    Session.setStatus 0
  | "wait" => do
    let s ← get
    Session.setStatus (if args.isEmpty then 0 else s.background.getD 127)
  | _ => Session.setStatus 0

end TapeToJava.Shell.Builtin
