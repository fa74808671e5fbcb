import TapeToJava.Shell.Job

/-! Programs of the system that run others, or that look at their surroundings. -/

namespace TapeToJava.Shell.Wrapper

/-- Prints a text and ends. -/
def tells (text : String) (code : Nat) : Act Ending := do
  Session.emitText 1 text
  return .code code

/-- Complains and ends. -/
def fails (text : String) (code : Nat) : Act Ending := do
  Session.emitText 2 (text ++ "\n")
  return .code code

/-! ### Surroundings -/

def pwd : Act Ending := do
  tells (Builtin.placeText (← get).world.volume.workingDirectory ++ "\n") 0

/-- The lines of variables that programs see. -/
def environmentText (environment : List (String × String)) : String :=
  String.join (environment.map fun (name, value) => name ++ "=" ++ value ++ "\n")

def printenv (names : List String) : Act Ending := do
  let environment := (← get).environment
  if names.head?.any fun n => n.startsWith "-" ∧ n ≠ "-" ∧ n ≠ "--" then fails "printenv: invalid option" 2
  else
  let names := if names.head? = some "--" then names.tail else names
  if names.isEmpty then tells (environmentText environment) 0
  else
    let values := names.filterMap fun name => environment.lookup name
    tells (String.join (values.map (· ++ "\n"))) (if values.length = names.length then 0 else 1)

/-- Prints where programs are found. -/
def which (names : List String) : Act Ending := do
  let s ← get
  let names := names.filter fun n => n != "-a" && n != "--"
  if names.any fun n => n.startsWith "-" ∧ n ≠ "-" then tells "Usage: /usr/bin/which [-as] args\n" 2
  else
  let paths := names.filterMap fun name =>
    match programPath s name with
    | .ok path => match s.world.volume.stat path with
      | .ok (.file mode _) => if isExecutable mode then some path else none
      | _ => none
    | .error _ => none
  tells (String.join (paths.map (· ++ "\n"))) (if paths.length = names.length ∧ !names.isEmpty then 0 else 1)

/-! ### Other surroundings -/

/-- How the surroundings of a program are changed. -/
structure Surroundings where
  /-- Whether no variable is kept. -/
  bare : Bool
  without : List String
  added : List (String × String)
  command : List String
  deriving DecidableEq, Repr

namespace Surroundings

/-- The words of a text between blanks. -/
def split (s : String) : List String :=
  ((Text.pieces ' ' (s.toList.map fun c => if c = '\t' then ' ' else c)).filter (· ≠ [])).map String.ofList

/-- Reads changes, and the command behind them; `none` when an option is not known. -/
def ofArgs? : Nat → List String → Option Surroundings
  | 0, _ | _, [] => some ⟨false, [], [], []⟩
  | fuel + 1, arg :: rest =>
    if arg = "-i" ∨ arg = "-" ∨ arg = "--ignore-environment" then
      (ofArgs? fuel rest).map fun s => { s with bare := true }
    else if arg = "-u" then
      match rest with
      | [] => none
      | name :: rest => (ofArgs? fuel rest).map fun s => { s with without := name :: s.without }
    else if arg = "-S" then
      match rest with
      | [] => none
      | text :: rest => ofArgs? fuel (split text ++ rest)
    else if arg.startsWith "-S" then ofArgs? fuel (split (String.ofList (arg.toList.drop 2)) ++ rest)
    else if arg = "--" then ofArgs? fuel rest
    else if arg.startsWith "-" then none
    else match Builtin.nameAndValue arg with
      | (name, some value) => (ofArgs? fuel rest).map fun s => { s with added := (name, value) :: s.added }
      | (_, none) => some ⟨false, [], [], arg :: rest⟩

/-- The variables of the changed surroundings. -/
def bindings (c : Surroundings) (s : Session) : List (String × Variable) :=
  let kept := if c.bare then [] else
    s.bindings.filter fun (name, v) =>
      v.exported && v.value.isSome && !c.without.contains name && !c.added.any (·.1 == name)
  kept ++ c.added.map fun (name, value) => (name, ⟨some value, true, false⟩)

end Surroundings

/-- Runs a program as part of another one. -/
def within (change : Session → Session) (act : Act Ending) : Act Ending := fun s =>
  match act (change s) with
  | .ok ending t => .ok ending { s with world := t.world }
  | .error e t => .error e { s with world := t.world }

def env (run : Runner) (args : List String) : Act Ending := do
  let fuel := args.foldl (· + String.length ·) 0 + args.length + 1
  match Surroundings.ofArgs? fuel args with
  | none => fails "env: invalid option\nTry 'env --help' for more information." 125
  | some c =>
    within (fun s => { s with bindings := c.bindings s }) do
      if c.command.isEmpty then tells (environmentText (← get).environment) 0
      else startFor run "env" c.command

/-- Runs the command behind the options of a program. -/
def behindOptions (run : Runner) (program plain valued : String) (operands : Nat) (args : List String) :
    Act Ending := do
  match Chosen.ofArgs? ⟨plain.toList, valued.toList, [], false⟩ (args.length + 1) args with
  | none => fails (program ++ ": invalid option") 125
  | some c =>
    if c.operands.length ≤ operands then fails (program ++ ": missing operand") 125
    else startFor run program (c.operands.drop operands)

def nice (run : Runner) (args : List String) : Act Ending :=
  if args.isEmpty ∨ args = ["--"] then tells "0\n" 0 else behindOptions run "nice" "" "n" 0 args

/-! ### Arguments from the input -/

/-- How the characters of an argument are read. -/
inductive Quoting where
  | bare
  | escaped
  | inside (quote : Char)
  deriving DecidableEq, Repr

/-- The words of a text, where quotes and backslashes keep blanks in them. -/
def inputWords : Quoting → Option (List Char) → List Char → List (List Char)
  | _, word, [] => (word.map List.reverse).toList
  | .escaped, word, c :: cs => inputWords .bare (some (c :: word.getD [])) cs
  | .inside quote, word, c :: cs =>
    if c = quote then inputWords .bare word cs else inputWords (.inside quote) (some (c :: word.getD [])) cs
  | .bare, word, c :: cs =>
    if c = '\\' then inputWords .escaped (some (word.getD [])) cs
    else if c = '"' ∨ c = '\'' then inputWords (.inside c) (some (word.getD [])) cs
    else if c = ' ' ∨ c = '\t' ∨ c = '\n' then (word.map List.reverse).toList ++ inputWords .bare none cs
    else inputWords .bare (some (c :: word.getD [])) cs

/-- A list cut into lists of some length. The fuel is the length of the list. -/
def chunks {α : Type} (n : Nat) : Nat → List α → List (List α)
  | 0, _ | _, [] => []
  | fuel + 1, xs => xs.take n :: chunks n fuel (xs.drop n)

/-- Text with another text in the place of a third one. -/
def substituted (old new text : String) : String :=
  if old = "" then text else String.intercalate new (text.splitOn old)

/-- The code that several runs come to. -/
def runAll (run : Runner) : List (List String) → Act Nat
  | [] => return 0
  | args :: rest => do
    match ← startFor run "xargs" args with
    | .signal _ => return 125
    | .code 255 => return 124
    | .code 126 => return 126
    | .code 127 => return 127
    | .code n =>
      let others ← runAll run rest
      return if others ≠ 0 then others else if n = 0 then 0 else 123

def xargs (run : Runner) (args : List String) : Act Ending := do
  match Chosen.ofArgs? ⟨"0rtx".toList, "nILd".toList, [], false⟩ (args.length + 1) args with
  | none => fails "xargs: invalid option" 1
  | some c =>
    let s ← get
    let id := (s.handle? 0).getD 0
    let bytes := s.world.unread id
    set { s with world := s.world.read id bytes.length }
    let cs := (Text.Utf8.decode bytes).toList
    let command := if c.operands.isEmpty then ["echo"] else c.operands
    let lines := (Text.pieces '\n' cs).filter (· ≠ [])
    let texts :=
      if c.has '0' then (Text.pieces '\x00' cs).filter (· ≠ [])
      else match c.value? 'd' with
        | some d => (Text.pieces (if d = "\\n" then '\n' else d.toList.headD '\n') cs).filter (· ≠ [])
        | none => if c.has 'I' then lines.map (·.dropWhile (· == ' ')) else inputWords .bare none cs
    let words := texts.map String.ofList
    let calls := match c.value? 'I', (c.value? 'n').bind decimal?, (c.value? 'L').bind decimal? with
      | some mark, _, _ => words.map fun word => command.map (substituted mark word)
      | none, some n, _ => (chunks n words.length words).map (command ++ ·)
      | none, none, some n => (chunks n lines.length lines).map fun ls =>
          command ++ (ls.flatMap (inputWords .bare none)).map String.ofList
      | none, none, none => [command ++ words]
    let calls := if words.isEmpty then (if c.has 'r' ∨ c.has 'I' then [] else [command]) else calls
    within ({ · with descriptors := (← get).descriptors.filter (·.1 != 0) }) do
      return .code (← runAll run calls)

/-- Runs the program of a name. -/
def run? (run : Runner) (name : String) (args : List String) : Option (Act Ending) :=
  match name with
  | "env" => some (env run args)
  | "nohup" => some (behindOptions run "nohup" "" "" 0 args)
  | "nice" => some (nice run args)
  | "timeout" => some (behindOptions run "timeout" "" "sk" 1 args)
  | "xargs" => some (xargs run args)
  | "which" => some (which args)
  | "printenv" => some (printenv args)
  | "pwd" => some pwd
  | _ => none

end TapeToJava.Shell.Wrapper
