import TapeToJava.Diagnostic.Report
import TapeToJava.Files.Fault

/-! Why a build stops. -/

namespace TapeToJava

/-- Why a build stops. -/
inductive BuildError where
  | missingSource (path : String)
  /-- The source cannot be read, or an output cannot be written. -/
  | files (path : String) (fault : Fault)
  /-- The program was rejected; nothing was written. -/
  | rejected (errors : Report)
  /-- The toolchain could not be started. -/
  | launch (command : String) (fault : Fault)
  deriving DecidableEq, Repr

namespace BuildError

def message : BuildError → String
  | missingSource path => "source file '" ++ path ++ "' does not exist"
  | files path _ => "I/O error on '" ++ path ++ "'"
  | rejected errors => errors.text
  | launch command _ => "failed to run '" ++ command ++ "'"

/-- The fault of the operating system behind an error. -/
def cause? : BuildError → Option Fault
  | files _ fault | launch _ fault => some fault
  | missingSource _ | rejected _ => none

end BuildError

end TapeToJava
