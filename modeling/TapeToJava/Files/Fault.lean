/-! Faults of the operating system, with the numbers and texts that it gives them. -/

namespace TapeToJava

/-- Why the operating system refuses a request. -/
inductive Fault where
  | notFound
  | execFormat
  | permissionDenied
  | busy
  | alreadyThere
  | notADirectory
  | isADirectory
  | invalid
  | nameTooLong
  | notEmpty
  /-- Scripts that are interpreted by scripts, too many times over. -/
  | tooManyLevels
  /-- A path holds a NUL character. -/
  | nulInPath
  /-- A command or an argument of it holds a NUL character. -/
  | nulInArgument
  deriving DecidableEq, Repr

namespace Fault

/-- The number of a fault that comes from the system itself. -/
def number? : Fault → Option Nat
  | notFound => some 2
  | execFormat => some 8
  | permissionDenied => some 13
  | busy => some 16
  | alreadyThere => some 17
  | notADirectory => some 20
  | isADirectory => some 21
  | invalid => some 22
  | nameTooLong => some 36
  | notEmpty => some 39
  | tooManyLevels => some 40
  | nulInPath | nulInArgument => none

/-- What a fault is called. -/
def reason : Fault → String
  | notFound => "No such file or directory"
  | execFormat => "Exec format error"
  | permissionDenied => "Permission denied"
  | busy => "Device or resource busy"
  | alreadyThere => "File exists"
  | notADirectory => "Not a directory"
  | isADirectory => "Is a directory"
  | invalid => "Invalid argument"
  | nameTooLong => "File name too long"
  | notEmpty => "Directory not empty"
  | tooManyLevels => "Too many levels of symbolic links"
  | nulInPath => "file name contained an unexpected NUL byte"
  | nulInArgument => "nul byte found in provided data"

/-- What is said about a fault; its number follows if it has one. -/
def text (f : Fault) : String :=
  match f.number? with
  | some number => f.reason ++ " (os error " ++ toString number ++ ")"
  | none => f.reason

end Fault

end TapeToJava
