import TapeToJava.Command.Run
import TapeToJava.Files.Listing
import TapeToJava.Log.Filter
import TapeToJava.Shell.Launch

/-! The program: the files that the command line names are read, the command is run on them, and the
outputs that it has changed are written back. -/

namespace TapeToJava

/-- How the program is called. -/
def usage : String :=
  "Usage: tape-to-java [--class-name NAME] [--no-compile] [--javac COMMAND] [--source-map PATH] [--json]\n" ++
  "                    [--log-level FILTER] SOURCE [OUTFILE]\n"

/-- The targets of the program's log events. -/
def logTarget : Log.Area → String
  | .build => "tape_to_java::build"
  | .commandLine => "tape_to_java"

/-- The paths that a build reads or writes. -/
def BuildOptions.paths (o : BuildOptions) : List String :=
  o.source :: o.output :: o.sourceMap.toList

/-- The volume with the file that is really found at a path, and with the directory around it. -/
def readPath (v : Volume) (path : String) : IO Volume := do
  let v := v.putDirectory (String.ofList (Path.directory path.toList))
  try
    return v.putFile path Volume.newFileMode (← IO.FS.readBinFile path).toList
  catch _ => return v

/-- Writes the file at a path if it has changed. -/
def writePath (before after : Volume) (path : String) : IO Unit := do
  match before.readFile path, after.readFile path with
  | _, .error _ => return
  | .error _, .ok bytes => IO.FS.writeBinFile path ⟨bytes.toArray⟩
  | .ok old, .ok bytes => if old ≠ bytes then IO.FS.writeBinFile path ⟨bytes.toArray⟩

end TapeToJava

open TapeToJava in
/-- Runs the program. -/
def main (args : List String) : IO UInt32 := do
  match Command.Arguments.parse args with
  | .error e =>
    if e.exitCode = 0 then IO.print usage else IO.eprint usage
    return e.exitCode
  | .ok args =>
    let before ← args.options.paths.foldlM readPath Volume.system
    let outcome := Command.run args Toolchain.ofCommand before
    for line in (Log.Filter.ofText args.logLevel).lines logTarget outcome.events do
      IO.eprintln line
    (← IO.getStdout).write ⟨outcome.stdout.toArray⟩
    IO.eprint outcome.stderr
    for path in args.options.paths do
      writePath before outcome.volume path
    return outcome.exitCode
