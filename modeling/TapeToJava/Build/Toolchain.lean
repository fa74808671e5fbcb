import TapeToJava.Build.Exit
import TapeToJava.Files.Volume

/-! Toolchains: what compiles a Java file once it is written. -/

namespace TapeToJava

/-- What running a toolchain comes to. -/
structure ToolchainRun where
  /-- How the toolchain ended, if it could be started. -/
  result : Except Fault Exit
  /-- The files as the toolchain leaves them. -/
  volume : Volume
  printed : List UInt8

/-- Something that compiles a Java file. -/
structure Toolchain where
  name : String
  compile : String → Volume → ToolchainRun

namespace Toolchain

/-- A toolchain that touches no files, prints nothing and always ends in the same way. -/
def constant (name : String) (result : Except Fault Exit) : Toolchain :=
  ⟨name, fun _ v => ⟨result, v, []⟩⟩

/-- A toolchain that has touched no file when it cannot be started. -/
def KeepsFilesUnlaunched (t : Toolchain) : Prop :=
  ∀ path v fault, (t.compile path v).result = .error fault → (t.compile path v).volume = v

end Toolchain

end TapeToJava
