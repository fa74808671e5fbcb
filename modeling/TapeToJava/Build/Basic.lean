import TapeToJava.Build.Emission
import TapeToJava.Build.Toolchain
import TapeToJava.Text.Quoted

/-! Builds: files are written first, and then the toolchain is run on the Java file. How the toolchain
ends is a part of the outcome and no error. -/

namespace TapeToJava

/-- What a finished build has produced. -/
structure BuildOutcome where
  output : String
  className : Java.ClassName
  operatorCount : Nat
  /-- The digest of the Java file. -/
  outputHash : String
  warnings : Report
  /-- How the toolchain ended; none when it was not to be run. -/
  exit : Option Exit
  deriving DecidableEq, Repr

/-- The toolchain is called: for which file, and with which files in place. -/
structure ToolchainCall where
  path : String
  volume : Volume

/-- What a build comes to. -/
structure BuildRun where
  result : Except BuildError BuildOutcome
  volume : Volume
  events : List Log.Event
  calls : List ToolchainCall
  /-- What the toolchain has printed. -/
  printed : List UInt8

namespace BuildEvent

def compiling (t : Toolchain) : Log.Event :=
  ofLevel .debug "compiling" [("toolchain", Text.quoted t.name)]

/-- The toolchain has ended. -/
def compiled (o : BuildOptions) (t : Toolchain) (e : Exit) : Log.Event :=
  if e.success then ofLevel .info ("compiled " ++ o.output) [("toolchain", Text.quoted t.name)]
  else ofLevel .warn (t.name ++ " failed on " ++ o.output ++ " (" ++ e.text ++ ")")
    [("toolchain", Text.quoted t.name)]

end BuildEvent

namespace BuildOutcome

/-- The outcome of a build whose class has been written. -/
def ofGenerated (o : BuildOptions) (t : Generated) (exit : Option Exit) : BuildOutcome where
  output := o.output
  className := o.resolvedClassName
  operatorCount := t.java.operatorCount
  outputHash := TapeToJava.outputHash t.java.text
  warnings := t.warnings
  exit := exit

end BuildOutcome

/-- Runs a build. -/
def BuildOptions.build (o : BuildOptions) (toolchain : Toolchain) (v : Volume) : BuildRun :=
  let written := Emission.ofOptions o v
  match written.result with
  | .error e => ⟨.error e, written.volume, written.events, [], []⟩
  | .ok t =>
    if o.compile then
      let run := toolchain.compile o.output written.volume
      let calls := [⟨o.output, written.volume⟩]
      let events := written.events ++ [BuildEvent.compiling toolchain]
      match run.result with
      | .error fault => ⟨.error (.launch toolchain.name fault), run.volume, events, calls, run.printed⟩
      | .ok exit =>
        ⟨.ok (.ofGenerated o t (some exit)), run.volume, events ++ [BuildEvent.compiled o toolchain exit],
          calls, run.printed⟩
    else ⟨.ok (.ofGenerated o t none), written.volume, written.events, [], []⟩

end TapeToJava
