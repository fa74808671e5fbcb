import TapeToJava.Files.Volume
import TapeToJava.Text.Utf8

/-! All-or-nothing writes. A text is written to a temporary file beside its target, which then takes the
target's place in one step. Until then the target is as it was, and a staged file that is given up
leaves no trace.

Behind the creation of the temporary file two things can fail: the look at the target, for its permissions, and the
move to it. -/

namespace TapeToJava

/-- A written temporary file that waits to take the place of its target. -/
structure Staged where
  temporary : Location
  target : String
  deriving DecidableEq, Repr

/-- The bytes of a file that holds a text and one line feed. -/
def fileBytes (text : String) : List UInt8 :=
  Text.Utf8.encode text ++ [0x0A]

namespace Volume

/-- The mode of a new file. -/
def newFileMode : Nat := 0o644

/-- The permissions that the file at a path has, or will have when it is new. -/
def modeFor (v : Volume) (path : String) : Except Fault Nat :=
  match v.stat path with
  | .ok e => .ok e.mode
  | .error .notFound => .ok newFileMode
  | .error fault => .error fault

/-- Gives up a staged file. -/
def discard (v : Volume) (s : Staged) : Volume :=
  v.erase s.temporary

/-- Writes a text to a temporary file beside its target. -/
def stage (v : Volume) (target text : String) : Except Fault Staged × Volume :=
  match v.createTemporary (Path.directory target.toList) (fileBytes text) with
  | .error fault => (.error fault, v)
  | .ok (temporary, v) =>
    match v.modeFor target with
    | .error fault => (.error fault, v.discard ⟨temporary, target⟩)
    | .ok mode => (.ok ⟨temporary, target⟩, v.setMode temporary mode)

/-- Puts a staged file in the place of its target. -/
def commit (v : Volume) (s : Staged) : Except Fault Unit × Volume :=
  match v.rename s.temporary s.target with
  | .error fault => (.error fault, v.discard s)
  | .ok v => (.ok (), v)

/-- Creates or replaces a file. -/
def write (v : Volume) (target text : String) : Except Fault Unit × Volume :=
  match v.stage target text with
  | (.error fault, v) => (.error fault, v)
  | (.ok s, v) => v.commit s

end Volume

end TapeToJava
