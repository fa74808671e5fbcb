import TapeToJava.Shell.Stream
import TapeToJava.Shell.Tree
import TapeToJava.Text.Utf8

/-! The state of a shell, and what running a part of a script does to it. -/

namespace TapeToJava.Shell

/-- Why a shell does not go on with the next command. -/
inductive Stop where
  | leaveLoop (levels : Nat)
  | nextRound (levels : Nat)
  | leaveFunction
  | leaveShell
  /-- A fault, which ends the script where nothing takes care of it. -/
  | fault
  | killed (signal : Nat)
  deriving DecidableEq, Repr

/-- How a program ends. -/
inductive Ending where
  | code (n : Nat)
  | signal (n : Nat)
  deriving DecidableEq, Repr

/-- The number by which a script sees an ending. -/
def Ending.status : Ending → Nat
  | code n => n
  | signal n => 128 + n

/-- A variable: its value, if it has one, whether programs see it, and whether it can be changed. -/
structure Variable where
  value : Option String
  exported : Bool
  fixed : Bool
  deriving DecidableEq, Repr

/-- The state of a shell. -/
structure Session where
  world : World
  /-- The open files behind the descriptors. -/
  descriptors : List (Nat × Nat)
  bindings : List (String × Variable)
  functions : List (String × Command)
  /-- What the script is called. -/
  name : String
  arguments : List String
  /-- How the last command ended. -/
  status : Nat
  /-- The letters of the settings that are on. -/
  settings : List Char
  /-- What is to be done on signals and at the end. -/
  traps : List (String × String)
  process : Nat
  /-- Whether the shell's own printing leaves escapes alone. -/
  plainEcho : Bool
  /-- Whether it is looked at whether the current command fails. -/
  tested : Bool
  loops : Nat
  /-- For each function that is being run, the variables of its own, as they were before. -/
  scopes : List (List (String × Option Variable))
  /-- How the last command in the background ended. -/
  background : Option Nat
  /-- How the last command ended whose output has become part of a word. -/
  captured : Option Nat
  /-- The permissions that new files do not get. -/
  mask : Nat
  line : Nat

/-- What a part of a script does: it changes the state, and may stop the shell. -/
abbrev Act := EStateM Stop Session

namespace Session

/-- Does something to the state. -/
def update (f : Session → Session) : Act Unit := modify f

def setStatus (n : Nat) : Act Unit :=
  update fun s => { s with status := n }

/-- The number of an open file behind a descriptor. -/
def handle? (s : Session) (descriptor : Nat) : Option Nat := s.descriptors.lookup descriptor

/-- Writes bytes to a descriptor. -/
def emit (descriptor : Nat) (bytes : List UInt8) : Act Unit :=
  update fun s =>
    match s.handle? descriptor with
    | some id => if bytes.isEmpty then s else { s with world := s.world.write id bytes }
    | none => s

/-- Writes a text to a descriptor. -/
def emitText (descriptor : Nat) (text : String) : Act Unit :=
  emit descriptor (Text.Utf8.encode text)

/-- A complaint of the shell itself. -/
def complain (text : String) : Act Unit := do
  let s ← get
  emitText 2 (s.name ++ ": " ++ toString s.line ++ ": " ++ text ++ "\n")

/-- A complaint about a fault. -/
def fail {α : Type} (text : String) : Act α := do
  complain text
  setStatus 2
  throw .fault

def has (s : Session) (setting : Char) : Bool := s.settings.contains setting

/-! ### Variables -/

def value? (s : Session) (name : String) : Option String :=
  (s.bindings.lookup name).bind (·.value)

def put (s : Session) (name : String) (v : Variable) : Session :=
  { s with bindings := (name, v) :: s.bindings.filter (·.1 != name) }

/-- Gives a variable a value. -/
def assign (name value : String) : Act Unit := do
  let s ← get
  let old := (s.bindings.lookup name).getD ⟨none, s.has 'a', false⟩
  if old.fixed then fail (name ++ ": is read only")
  else set (s.put name { old with value := some value })

/-- The variables that programs see. -/
def environment (s : Session) : List (String × String) :=
  s.bindings.filterMap fun (name, v) => if v.exported then v.value.map fun x => (name, x) else none

/-- The letters between fields. -/
def separators (s : Session) : List Char :=
  ((s.value? "IFS").getD " \t\n").toList

/-- The value of a parameter; the arguments all together stand with blanks between them. -/
def parameter? (s : Session) (name : String) : Option String :=
  match name with
  | "#" => some (toString s.arguments.length)
  | "?" => some (toString s.status)
  | "$" => some (toString s.process)
  | "!" => s.background.map fun _ => toString (s.process + 1)
  | "-" => some (String.ofList s.settings)
  | "0" => some s.name
  | "@" => if s.arguments.isEmpty then none else some (String.intercalate " " s.arguments)
  | "*" =>
    if s.arguments.isEmpty then none
    else some (String.intercalate ((s.separators.head?.map Char.toString).getD "") s.arguments)
  | _ =>
    if name.toList.all Char.isDigit then
      s.arguments[name.toList.foldl (fun n d => 10 * n + (d.toNat - 48)) 0 - 1]?
    else s.value? name

/-! ### Surroundings -/

/-- The state in which only what has been done to the world lasts; the working directory is as it was.
-/
def afterwards (s : Session) (world : World) : Session :=
  let directory := s.world.volume.workingDirectory
  { s with world := { world with volume := { world.volume with workingDirectory := directory } } }

/-- Runs something that can change files and what is open, but not the shell around it; its end is given
back. What kills the shell kills the one around it, too. -/
def apart (act : Act Unit) : Act Nat := fun s =>
  match act { s with loops := 0, scopes := [], traps := s.traps.filter (·.2 == "") } with
  | .ok () t => .ok t.status (s.afterwards t.world)
  | .error (.killed n) t => .error (.killed n) (s.afterwards t.world)
  | .error _ t => .ok t.status (s.afterwards t.world)

/-- Runs something whose failure is looked at. -/
def asTest {α : Type} (act : Act α) : Act α := fun s =>
  match act { s with tested := true } with
  | .ok a t => .ok a { t with tested := s.tested }
  | .error e t => .error e { t with tested := s.tested }

/-- Runs something whose commands are on their own again, even when its end is looked at. -/
def untested {α : Type} (act : Act α) : Act α := fun s =>
  match act { s with tested := false } with
  | .ok a t => .ok a { t with tested := s.tested }
  | .error e t => .error e { t with tested := s.tested }

/-- Goes on behind a fault. -/
def forgiving (act : Act Unit) : Act Unit := fun s =>
  match act s with
  | .error .fault t => .ok () t
  | r => r

/-- The script ends when a command has failed and nothing looks at that. -/
def checkFailure : Act Unit := do
  let s ← get
  if s.status ≠ 0 ∧ s.has 'e' ∧ !s.tested then throw .leaveShell

/-- Runs something with other descriptors, which are put back behind it. -/
def withDescriptors {α : Type} (act : Act α) : Act α := fun s =>
  match act s with
  | .ok a t => .ok a { t with descriptors := s.descriptors }
  | .error e t => .error e { t with descriptors := s.descriptors }

/-- Turns a descriptor to an open file. -/
def turnTo (descriptor : Nat) (id : Nat) : Act Unit :=
  update fun s => { s with descriptors := (descriptor, id) :: s.descriptors.filter (·.1 != descriptor) }

/-- Opens a file for a descriptor. -/
def openFor (descriptor : Nat) (stream : Stream) : Act Unit := do
  let s ← get
  let (id, world) := s.world.opened stream
  set { s with world := world }
  turnTo descriptor id

/-- What is printed while something runs apart. -/
def outputOf (act : Act Unit) : Act (List UInt8 × Nat) :=
  withDescriptors do
    openFor 1 (.gathered [])
    let s ← get
    let status ← apart act
    let world := (← get).world
    return (((s.handle? 1).map world.gatheredBytes).getD [], status)

/-! ### Loops and functions -/

/-- Runs a round of a loop; whether the loop goes on behind it. -/
def asRound (act : Act Unit) : Act Bool := fun s =>
  match act s with
  | .ok () t | .error (.nextRound 1) t => .ok true t
  | .error (.leaveLoop 1) t => .ok false t
  | .error (.nextRound n) t => .error (.nextRound (n - 1)) t
  | .error (.leaveLoop n) t => .error (.leaveLoop (n - 1)) t
  | .error e t => .error e t

/-- Runs the rounds of a loop. -/
def inLoop (act : Act Unit) : Act Unit := fun s =>
  match act { s with loops := s.loops + 1 } with
  | .ok () t => .ok () { t with loops := s.loops }
  | .error e t => .error e { t with loops := s.loops }

/-- The state with a variable as it was before. -/
def putBack (s : Session) (name : String) : Option Variable → Session
  | some v => s.put name v
  | none => { s with bindings := s.bindings.filter (·.1 != name) }

/-- Runs something whose changes to some variables do not last. -/
def withVariables {α : Type} (names : List String) (act : Act α) : Act α := fun s =>
  let back (t : Session) : Session := names.foldl (fun t name => t.putBack name (s.bindings.lookup name)) t
  match act s with
  | .ok a t => .ok a (back t)
  | .error e t => .error e (back t)

/-- Runs the body of a function with its arguments. -/
def inFunction (arguments : List String) (act : Act Unit) : Act Unit := fun s =>
  let back (t : Session) : Session :=
    let t := (t.scopes.headD []).foldl (fun t (name, v) => t.putBack name v) t
    { t with arguments := s.arguments, scopes := s.scopes, loops := s.loops }
  match act { s with arguments := arguments, scopes := [] :: s.scopes, loops := 0 } with
  | .ok () t | .error .leaveFunction t => .ok () (back t)
  | .error e t => .error e (back t)

/-! ### Programs -/

/-- Runs something as a program of its own, which begins in a state made from the present one. Only what
it does to the world lasts. -/
def asProgram (start : Session → Session) (act : Act Unit) : Act Ending := fun s =>
  match act (start s) with
  | .error (.killed n) t => .ok (.signal n) (s.afterwards t.world)
  | .ok () t | .error _ t => .ok (.code t.status) (s.afterwards t.world)

end Session

end TapeToJava.Shell
