import TapeToJava.Build.Toolchain
import TapeToJava.Shell.Run

/-! Starting commands. A command with a slash is a path to an executable file; any other is looked for
in the directories of programs.

The shell and its programs are here for toolchains that are scripts, so that a build can be run to its end on a
volume. What is proved of builds holds for every toolchain and rests on none of this; of a command as a toolchain it
is shown that it has touched no file when it cannot be started. -/

namespace TapeToJava

namespace Shell

/-- What running a program from outside comes to. -/
structure Launched where
  ending : Ending
  volume : Volume
  printed : List UInt8

/-- The number of the first process. -/
def firstProcess : Nat := 1000

/-- The state in which a program is started from outside: its input is empty, and what it prints is
kept. -/
def outside (v : Volume) : Session where
  world := ⟨v, [.waiting [], .gathered [], .gathered []]⟩
  descriptors := [(0, 0), (1, 1), (2, 2)]
  bindings := [("PATH", ⟨some usualPath, true, false⟩), ("HOME", ⟨some "/root", true, false⟩)]
  functions := []
  name := usualShell
  arguments := []
  status := 0
  settings := []
  traps := []
  process := firstProcess
  plainEcho := false
  tested := false
  loops := 0
  scopes := []
  background := none
  captured := none
  mask := 0o022
  line := 0

/-- Runs a program from outside. -/
def Image.launch (image : Image) (v : Volume) : Launched :=
  let finish (ending : Ending) (s : Session) : Launched :=
    ⟨ending, { s.world.volume with workingDirectory := v.workingDirectory }, s.world.gatheredBytes 1⟩
  match runJob (.program image) (outside v) with
  | .ok ending s => finish ending s
  | .error (.killed n) s => finish (.signal n) s
  | .error _ s => finish (.code s.status) s

end Shell

namespace Volume

/-- What a command with one argument runs. -/
def command? (v : Volume) (command argument : String) : Except Fault Shell.Image :=
  if command.contains '\x00' ∨ argument.contains '\x00' then .error .nulInArgument
  else if command = "" then .error .notFound
  else if command.contains '/' then Shell.image? v command [command, argument]
  else if maxName < Text.byteLength command.toList then .error .nameTooLong
  else match Shell.findExecutable v [command, argument] (Shell.candidates Shell.usualPath command) with
    | .error fault => .error fault
    | .ok path => Shell.image? v path [command, argument]

/-- Starts a command with one argument and waits for its end. -/
def launch (v : Volume) (command argument : String) : Except Fault Shell.Launched :=
  match v.command? command argument with
  | .error fault => .error fault
  | .ok image => .ok (image.launch v)

end Volume

/-- How a command has ended, as seen from outside. -/
def Exit.ofEnding : Shell.Ending → Exit
  | .code n => .ofCode (.ofNat n)
  | .signal _ => .killed

namespace Toolchain

/-- The toolchain that runs a command with the Java file as its one argument. -/
def ofCommand (command : String) : Toolchain where
  name := command
  compile path v :=
    match v.launch command path with
    | .error fault => ⟨.error fault, v, []⟩
    | .ok run => ⟨.ok (.ofEnding run.ending), run.volume, run.printed⟩

theorem keepsFilesUnlaunched_ofCommand (command : String) : (ofCommand command).KeepsFilesUnlaunched := by
  intro path v fault h
  unfold ofCommand at h ⊢
  dsimp only at h ⊢
  split at h
  · rfl
  · cases h

end Toolchain

end TapeToJava
