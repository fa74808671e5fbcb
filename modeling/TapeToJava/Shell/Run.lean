import TapeToJava.Shell.Interpreter
import TapeToJava.Shell.Redirection
import TapeToJava.Shell.Wrapper

/-! Running commands. What a command is made of is run in the same way, at a level further down; the
number of levels is bounded. -/

namespace TapeToJava.Shell

/-! ### Words and assignments -/

/-- Whether a word gives a value to a variable. -/
def isAssignment (word : List Part) : Bool :=
  let bare := word.takeWhile fun
    | .char false c => Reading.isNameChar c
    | _ => false
  let name := String.ofList (bare.filterMap Part.char?)
  match word.drop bare.length with
  | .char false '=' :: _ => Reading.isName name
  | _ => false

/-- Commands whose words can give values to variables. -/
def setsVariables : List String :=
  ["export", "readonly", "local"]

/-- The words of a command. Behind a name of one that sets variables, a word that gives a value stays
one. -/
def commandWords (run : Runner) : List (List Part) → Act (List String)
  | [] => return []
  | word :: rest => do
    match ← expandWord run.commands word with
    | [] => commandWords run rest
    | ["command"] => return "command" :: (← commandWords run rest)
    | first :: others =>
      if setsVariables.contains first then
        let rest ← rest.mapM fun w => do
          if isAssignment w then return [← expandText run.commands w] else expandWord run.commands w
        return first :: others ++ rest.flatten
      else return first :: others ++ (← expandWords run.commands rest)

/-- Gives values to variables, from left to right. -/
def assignAll (run : Runner) (exported : Bool) (assignments : List (String × List Part)) : Act Unit :=
  assignments.forM fun (name, word) => do
    let value ← expandText run.commands word
    Session.assign name value
    if exported then
      Session.update fun s => match s.bindings.lookup name with
        | some v => s.put name { v with exported := true }
        | none => s

/-- Shows the words of a command before it is run, if that is wanted. -/
def trace (words : List String) : Act Unit := do
  let s ← get
  if s.has 'x' ∧ !words.isEmpty then
    Session.emitText 2 ((s.value? "PS4").getD "" ++ String.intercalate " " words ++ "\n")

/-! ### Commands of the shell that need other commands -/

/-- Runs a text; how it ends is how its last command ends. -/
def runText (run : Runner) (firstLine : Nat) (cs : List Char) : Act Unit := do
  Session.setStatus (← run (.text firstLine cs)).status

/-- Runs the script in a file as a part of the shell. -/
def runFile (run : Runner) (name : String) : Act Unit := do
  let s ← get
  let paths := if name.contains '/' then [name] else candidates ((s.value? "PATH").getD usualPath) name
  let found := paths.findSome? fun path => match s.world.volume.stat path with
    | .ok (.file _ bytes) => some bytes
    | _ => none
  match found with
  | none => Session.fail (".: " ++ name ++ ": not found")
  | some bytes => fun s =>
    match Session.untested (runText run 1 (Interpreter.scriptText bytes)) s with
    | .error .leaveFunction t => .ok () t
    | r => r

/-- Runs a program instead of the rest of the shell. -/
def replaceShell (run : Runner) (name : String) (args : List String) : Act Unit := do
  let ending ← runProgram run name args
  Session.update fun s => { s with traps := [] }
  match ending with
  | .signal n => throw (.killed n)
  | .code n => do
    Session.setStatus n
    throw .leaveShell

/-- Runs a command of the shell itself. -/
def runBuiltin (run : Runner) (name : String) (args : List String) : Act Unit := do
  match name, args with
  | "eval", args => runText run (← get).line (String.intercalate " " args).toList
  | ".", file :: _ => runFile run file
  | "exec", program :: args => replaceShell run program args
  | "command", "-v" :: names => Builtin.describeAll true names
  | "command", "-V" :: names => Builtin.describeAll false names
  | name, args => Builtin.run run.text name args

/-! ### Simple commands -/

/-- The name and arguments of a command without words in front that only say that functions are not
meant; the first component is whether there were such words. The fuel is the number of words. -/
def called : Nat → List String → Bool × List String
  | 0, words => (false, words)
  | fuel + 1, words =>
    match words with
    | "command" :: rest =>
      let rest := rest.dropWhile fun w => w == "-p" || w == "--"
      if rest.isEmpty ∨ (rest.headD "").startsWith "-" then (false, "command" :: rest)
      else (true, (called fuel rest).2)
    | _ => (false, words)

/-- Runs a command by its name. -/
def callByName (run : Runner) (bare : Bool) (name : String) (args : List String) : Act Unit := do
  if Builtin.special.contains name then
    if bare then Session.forgiving (runBuiltin run name args) else runBuiltin run name args
  else
    let s ← get
    match if bare then none else s.functions.lookup name with
    | some body => Session.inFunction args (run.commands [body])
    | none =>
      if Builtin.regular.contains name then Session.forgiving (runBuiltin run name args)
      else Session.setStatus (← runProgram run name args).status

/-- Runs a command that has words. -/
def runWords (run : Runner) (assignments : List (String × List Part)) (words : List String)
    (redirects : List Redirect) : Act Unit := do
  let (bare, call) := called words.length words
  let name := call.headD ""
  let isSpecial := !bare && Builtin.special.contains name
  trace words
  let act : Act Unit := do
    if ← redirected run redirects then
      if isSpecial then do
        assignAll run (name = "exec") assignments
        callByName run bare name call.tail
      else Session.withVariables (assignments.map (·.1)) do
        assignAll run true assignments
        callByName run bare name call.tail
    else do
      Session.setStatus 2
      if isSpecial then throw .fault
  if name = "exec" then act else Session.withDescriptors act

/-- Runs a command without words of the shell's own. -/
def runSimple (run : Runner) (assignments : List (String × List Part)) (words : List (List Part))
    (redirects : List Redirect) : Act Unit := do
  Session.update fun s => { s with captured := none }
  match ← commandWords run words with
  | [] =>
    Session.withDescriptors do
      if ← redirected run redirects then
        assignAll run false assignments
        Session.setStatus ((← get).captured.getD 0)
      else Session.setStatus 2
  | words => runWords run assignments words redirects

/-! ### Pipes -/

/-- Runs something with an input of its own, if it has one. -/
def withInput {α : Type} (input : Option (List UInt8)) (act : Act α) : Act α :=
  Session.withDescriptors do
    match input with
    | some bytes => Session.openFor 0 (.waiting bytes)
    | none => pure ()
    act

/-- Runs the stages of a pipe, each on what the one before it has printed. -/
def runStages (run : Runner) : Option (List UInt8) → List Command → Act Unit
  | _, [] => pure ()
  | input, [c] => do Session.setStatus (← withInput input (Session.apart (run.commands [c])))
  | input, c :: cs => do
    let (bytes, _) ← withInput input (Session.outputOf (run.commands [c]))
    runStages run (some bytes) cs

/-- Runs a command in the background: nothing waits for its end, and it has no input. -/
def runBackground (run : Runner) (c : Command) : Act Unit := do
  let status ← withInput (some []) (Session.apart (Session.untested (run.commands [c])))
  Session.update fun s => { s with background := some status, status := 0 }

/-! ### Loops and choices -/

/-- The number of rounds after which a loop is taken to go on forever. -/
def maxRounds : Nat := 1000000

/-- The signal that ends what does not come to an end by itself. -/
def endlessSignal : Nat := 9

/-- Runs the rounds of a loop; `last` is how the round before ended. -/
def runRounds (run : Runner) (untilDone : Bool) (condition body : List Command) : Nat → Nat → Act Unit
  | 0, _ => throw (.killed endlessSignal)
  | rounds + 1, last => do
    let goesOn ← Session.asRound do
      Session.asTest (run.commands condition)
      if ((← get).status == 0) == untilDone then do
        Session.setStatus last
        throw (.leaveLoop 1)
      run.commands body
    if goesOn then runRounds run untilDone condition body rounds (← get).status

/-- Runs commands for each word. -/
def runEach (run : Runner) (name : String) (body : List Command) : List String → Act Unit
  | [] => pure ()
  | word :: rest => do
    Session.assign name word
    if ← Session.asRound (run.commands body) then runEach run name body rest

/-- Whether a text is taken by one of some patterns. -/
def isTaken (run : Runner) (subject : List Char) : List (List Part) → Act Bool
  | [] => return false
  | p :: ps => do
    if (← expandPattern run.commands p).takes subject then return true else isTaken run subject ps

/-- The commands of the first arm that takes a text. -/
def armOf (run : Runner) (subject : List Char) : List (List (List Part) × List Command) → Act (List Command)
  | [] => return []
  | (patterns, body) :: rest => do
    if ← isTaken run subject patterns then return body else armOf run subject rest

/-! ### Commands -/

/-- Runs commands, of which there may be none. -/
def runOptional (run : Runner) (cs : List Command) : Act Unit :=
  if cs.isEmpty then Session.setStatus 0 else run.commands cs

/-- Runs a command; `run` runs what it is made of. -/
def perform (run : Runner) : Command → Act Unit
  | .simple assignments words redirects => do
    runSimple run assignments words redirects
    Session.checkFailure
  | .pipe stages => do
    runStages run none stages
    Session.checkFailure
  | .negate c => do
    Session.asTest (run.commands [c])
    Session.setStatus (if (← get).status = 0 then 1 else 0)
  | .andThen c d => do
    Session.asTest (run.commands [c])
    if (← get).status = 0 then run.commands [d]
  | .orElse c d => do
    Session.asTest (run.commands [c])
    if (← get).status ≠ 0 then run.commands [d]
  | .block cs => run.commands cs
  | .background c => runBackground run c
  | .apart cs => do
    Session.setStatus (← Session.apart (run.commands cs))
    Session.checkFailure
  | .choice condition accepted rejected => do
    Session.asTest (run.commands condition)
    if (← get).status = 0 then run.commands accepted else runOptional run rejected
  | .loop untilDone condition body =>
    Session.inLoop (runRounds run untilDone condition body maxRounds 0)
  | .each name words body => do
    let words ← match words with
      | some words => expandWords run.commands words
      | none => pure (← get).arguments
    if words.isEmpty then Session.setStatus 0 else Session.inLoop (runEach run name body words)
  | .select subject arms => do
    let text ← expandText run.commands subject
    runOptional run (← armOf run text.toList arms)
  | .function name body =>
    Session.update fun s =>
      { s with functions := (name, body) :: s.functions.filter (·.1 != name), status := 0 }
  | .redirected c redirects =>
    Session.withDescriptors do
      if ← redirected run redirects then run.commands [c] else Session.setStatus 2

/-- Runs commands one behind the other, unless they are only to be read. -/
def performAll (run : Runner) : List Command → Act Unit
  | [] => pure ()
  | c :: cs => do
    if !(← get).has 'n' then perform run c
    performAll run cs

/-- Reads a text line by line, and runs what has been read before the next line; whether there was
something to run. The fuel is greater than the length of the text. -/
def performText (run : Runner) : Nat → Nat → List Char → Act Bool
  | 0, _, _ => return false
  | fuel + 1, number, cs => do
    if cs.isEmpty then return false
    Session.update fun s => { s with line := number }
    match Reading.nextLine? cs with
    | none => Session.fail "Syntax error"
    | some (commands, rest) => do
      run.commands commands
      let more ← performText run fuel (number + cs.count '\n' - rest.count '\n') rest
      return more || !commands.isEmpty

/-- Runs a program of the system. -/
def performProgram (run : Runner) (image : Image) : Act Ending :=
  match image.program with
  | "sh" | "dash" => Interpreter.shell run false image.args
  | "bash" => Interpreter.shell run true image.args
  | name =>
    match Wrapper.run? run name image.args.tail, Utility.table.lookup name with
    | some act, _ => act
    | none, some u => runUtility u image.args.tail
    | none, none => return .code (refusalCode .notFound)

/-- Runs jobs that are nested in each other up to a number of levels. -/
def runLevels : Nat → Runner
  | 0, _ => throw (.killed endlessSignal)
  | levels + 1, job => do
    let run : Runner := runLevels levels
    match job with
    | .commands cs => do
      performAll run cs
      return .code (← get).status
    | .text firstLine cs => do
      if ← performText run (cs.length + 1) firstLine cs then return .code (← get).status else return .code 0
    | .program image => performProgram run image

/-- The number of levels that jobs may be nested in each other. -/
def maxLevels : Nat := 1500

/-- Runs a job. -/
def runJob : Runner := runLevels maxLevels

end TapeToJava.Shell
