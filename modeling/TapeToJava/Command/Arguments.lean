import TapeToJava.Build.Options

/-! The command line read from left to right. The value that was given last is checked only when the
next argument has been recognised, so that an argument that is not known is blamed before a bad value in
front of it. -/

namespace TapeToJava.Command

/-- A setting that takes a value. -/
inductive Setting where
  | source
  | outfile
  | className
  | compiler
  | sourceMap
  | logLevel
  deriving DecidableEq, Repr

/-- A setting that is on or off. -/
inductive Switch where
  | noCompile
  | json
  deriving DecidableEq, Repr

/-- What stands behind the name of an option. -/
inductive OptionKind where
  | setting (s : Setting)
  | switch (s : Switch)
  | help
  | version
  deriving DecidableEq, Repr

/-- Why there is nothing to run. -/
inductive UsageError where
  | missingSource
  | unknownArgument
  | invalidValue
  | tooManyValues
  /-- A setting or a switch is given twice. -/
  | conflict
  | help
  | version
  deriving DecidableEq, Repr

/-- Asking for help or for the version is no failure. -/
def UsageError.exitCode : UsageError → UInt32
  | help | version => 0
  | _ => 2

/-- The option of a name, which must be spelled out in full. -/
def optionKind? : String → Option OptionKind
  | "class-name" => some (.setting .className)
  | "javac" => some (.setting .compiler)
  | "source-map" => some (.setting .sourceMap)
  | "log-level" => some (.setting .logLevel)
  | "no-compile" => some (.switch .noCompile)
  | "json" => some (.switch .json)
  | "help" => some .help
  | "version" => some .version
  | _ => none

/-- A path must not be empty; every other value may be. -/
def Setting.accepts (s : Setting) (value : String) : Bool :=
  match s with
  | .source | .outfile | .sourceMap => value ≠ ""
  | .className | .compiler | .logLevel => true

/-- The shape of an argument in front of a double dash. -/
inductive Argument where
  /-- The double dash. -/
  | escape
  /-- An option, with the value attached to it. -/
  | long (name : String) (value : Option String)
  /-- A dash and the first letter behind it. -/
  | short (letter : Char)
  | plain (text : String)
  deriving DecidableEq, Repr

/-- The text behind an equals sign, if there is one. -/
def attachedValue : List Char → Option String
  | [] => none
  | _ :: cs => some (String.ofList cs)

/-- The shape of an argument. -/
def Argument.ofText (arg : String) : Argument :=
  match arg.toList with
  | ['-', '-'] => .escape
  | '-' :: '-' :: cs =>
    .long (String.ofList (cs.takeWhile (· != '='))) (attachedValue (cs.dropWhile (· != '=')))
  | '-' :: c :: _ => .short c
  | _ => .plain arg

/-- A setting that has been named, and its value once it has been seen. -/
structure Pending where
  setting : Setting
  value : Option String
  deriving DecidableEq, Repr

/-- What the arguments read so far say. -/
structure Given where
  values : List (Setting × String)
  switches : List Switch
  deriving DecidableEq, Repr

namespace Given

/-- The value of a setting. -/
def value? (g : Given) (s : Setting) : Option String :=
  g.values.lookup s

/-- Takes in the value of a setting, after checking it. -/
def settle (g : Given) : Option Pending → Except UsageError Given
  | none => .ok g
  | some ⟨_, none⟩ => .error .invalidValue
  | some ⟨s, some v⟩ =>
    if (g.value? s).isSome then .error .conflict
    else if s.accepts v then .ok { g with values := (s, v) :: g.values }
    else .error .invalidValue

/-- Turns a switch on. -/
def turnOn (g : Given) (s : Switch) : Except UsageError Given :=
  if s ∈ g.switches then .error .conflict else .ok { g with switches := s :: g.switches }

end Given

/-- Where the reader of the arguments stands. -/
structure Reading where
  given : Given
  pending : Option Pending
  /-- The places that arguments without a dash still fill. -/
  places : List Setting
  /-- Whether a double dash has been read. -/
  escaped : Bool
  deriving DecidableEq, Repr

namespace Reading

def start : Reading := ⟨⟨[], []⟩, none, [.source, .outfile], false⟩

/-- Reads an argument that is not an option. -/
def positional (r : Reading) (text : String) : Except UsageError Reading :=
  match r.places with
  | [] => .error .unknownArgument
  | s :: places => do
    let given ← r.given.settle r.pending
    .ok { r with given := given, pending := some ⟨s, some text⟩, places := places }

/-- Reads a recognised option. -/
def option (r : Reading) (kind : OptionKind) (value : Option String) : Except UsageError Reading :=
  match kind, value with
  | .setting s, none => do
    let given ← r.given.settle r.pending
    .ok { r with given := given, pending := some ⟨s, none⟩ }
  | .setting s, some v => do
    let given ← r.given.settle r.pending
    let given ← given.settle (some ⟨s, some v⟩)
    .ok { r with given := given, pending := none }
  | .switch s, none => do
    let given ← r.given.settle r.pending
    let given ← given.turnOn s
    .ok { r with given := given, pending := none }
  | .help, none => do
    let _ ← r.given.settle r.pending
    .error .help
  | .version, none => do
    let _ ← r.given.settle r.pending
    .error .version
  | _, some _ => .error .tooManyValues

/-- Reads one argument. -/
def step (r : Reading) (arg : String) : Except UsageError Reading :=
  if r.escaped then r.positional arg
  else match Argument.ofText arg with
    | .escape => .ok { r with escaped := true }
    | .long name value =>
      match optionKind? name with
      | none => .error .unknownArgument
      | some kind => r.option kind value
    | .short 'h' => r.option .help none
    | .short 'V' => r.option .version none
    | .short _ => .error .unknownArgument
    | .plain text =>
      match r.pending with
      | some ⟨s, none⟩ => .ok { r with pending := some ⟨s, some text⟩ }
      | _ => r.positional text

/-- Reads arguments. -/
def run : Reading → List String → Except UsageError Reading
  | r, [] => .ok r
  | r, arg :: args => do (← r.step arg).run args

end Reading

/-- What the command is asked to do. -/
structure Arguments where
  options : BuildOptions
  /-- The command that compiles the class. -/
  compiler : String
  /-- Whether the verdict is printed and nothing is written. -/
  json : Bool
  /-- The log filter. -/
  logLevel : String
  deriving DecidableEq, Repr

namespace Arguments

/-- The log filter of a command line that names none. -/
def defaultLogLevel : String := "warn"

/-- What the settings and switches given come to. -/
def ofGiven (g : Given) : Except UsageError Arguments :=
  match g.value? .source with
  | none => .error .missingSource
  | some source => .ok {
      options := {
        source := source
        output := (g.value? .outfile).getD BuildOptions.defaultOutput
        className := g.value? .className
        compile := !decide (Switch.noCompile ∈ g.switches)
        sourceMap := g.value? .sourceMap }
      compiler := (g.value? .compiler).getD BuildOptions.defaultCompiler
      json := decide (Switch.json ∈ g.switches)
      logLevel := (g.value? .logLevel).getD defaultLogLevel }

/-- Reads the arguments of the command. -/
def parse (args : List String) : Except UsageError Arguments := do
  let r ← Reading.start.run args
  let given ← r.given.settle r.pending
  ofGiven given

end Arguments

end TapeToJava.Command
