import TapeToJava.Build.Basic
import TapeToJava.Command.Arguments
import TapeToJava.Json.Verdict

/-! The command: it builds, or it prints the verdict on the source and writes nothing. -/

namespace TapeToJava.Command

/-- What a run of the command comes to. -/
structure Outcome where
  exitCode : UInt32
  stdout : List UInt8
  stderr : String
  events : List Log.Event
  volume : Volume

/-- An optional text as the log shows it. -/
def optionText : Option String → String
  | none => "None"
  | some s => "Some(" ++ Text.quoted s ++ ")"

/-- Build options as the log shows them. -/
def optionsText (o : BuildOptions) : String :=
  "BuildOptions \x7b source: " ++ Text.quoted o.source ++ ", output: " ++ Text.quoted o.output ++
    ", class_name: " ++ optionText o.className ++ ", compile: " ++ toString o.compile ++
    ", source_map: " ++ optionText o.sourceMap ++ " \x7d"

def resolvedOptions (o : BuildOptions) : Log.Event :=
  ⟨.debug, .commandLine, "resolved options", [("options", optionsText o)]⟩

def done (b : BuildOutcome) : Log.Event :=
  ⟨.info, .commandLine, "done", [("class", b.className.text), ("output", b.output)]⟩

/-- A rejected bracket: its place and message, its line, and what to do. -/
def diagnosticText (d : Diagnostic) : String :=
  d.text ++ "\n" ++
    (if d.sourceLine = "" then "" else "    " ++ d.sourceLine ++ "\n") ++
    (match d.suggestion with
    | none => ""
    | some s => "    help: " ++ s ++ "\n")

/-- What is printed about a build that stopped. -/
def errorText : BuildError → String
  | .rejected errors =>
    "Error: Unmatched square braces.\nCannot continue.  Please review source.\n" ++
      String.join (errors.errors.map diagnosticText)
  | e => "error: " ++ e.message ++ (match e.cause? with
    | none => ""
    | some fault => ": " ++ fault.text) ++ "\n"

/-- Prints the verdict on the source file. -/
def Outcome.ofVerdict (o : BuildOptions) (v : Volume) : Outcome :=
  match v.load o.source with
  | .error e => ⟨1, [], errorText e, [resolvedOptions o], v⟩
  | .ok f =>
    let verdict := f.verdict o.resolvedClassName
    let exitCode := if verdict.success then 0 else 1
    ⟨exitCode, Text.Utf8.encode (verdict.text ++ "\n"), "", [resolvedOptions o], v⟩

/-- Builds. However the toolchain ends, a finished build is a success. -/
def Outcome.ofBuild (o : BuildOptions) (toolchain : Toolchain) (v : Volume) : Outcome :=
  let run := o.build toolchain v
  match run.result with
  | .error e => ⟨1, run.printed, errorText e, resolvedOptions o :: run.events, run.volume⟩
  | .ok b => ⟨0, run.printed, "", resolvedOptions o :: run.events ++ [done b], run.volume⟩

/-- Runs the command; `toolchain` gives the toolchain of a compiler's name. -/
def run (args : Arguments) (toolchain : String → Toolchain) (v : Volume) : Outcome :=
  if args.json then .ofVerdict args.options v
  else .ofBuild args.options (toolchain args.compiler) v

end TapeToJava.Command
