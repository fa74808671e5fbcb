/-! What a shell reads: words with the parts that are replaced in them, and commands. -/

namespace TapeToJava.Shell

/-- What becomes of a parameter's value before it takes its place in a word. -/
inductive Use where
  | value
  /-- The number of bytes instead of the value. -/
  | length
  /-- A word instead of a value that is not there, or else empty where that counts, too. -/
  | fallback (orEmpty : Bool)
  /-- The same, and the parameter is given the word. -/
  | assign (orEmpty : Bool)
  /-- The script ends when the value is not there. -/
  | require (orEmpty : Bool)
  /-- A word instead of a value that is there. -/
  | replace (orEmpty : Bool)
  /-- The value without the part at its end that a pattern takes. -/
  | cutEnd (longest : Bool)
  /-- The value without the part at its start that a pattern takes. -/
  | cutStart (longest : Bool)
  deriving DecidableEq, Repr

/-- What a descriptor is turned to. -/
inductive Direction where
  | input
  | output
  /-- Output even where what is in a file is not to be lost. -/
  | over
  /-- Output behind what is in the file. -/
  | append
  | both
  /-- The same as another descriptor. -/
  | copy
  /-- A text of the script itself. -/
  | text
  deriving DecidableEq, Repr

mutual

/-- A part of a word. -/
inductive Part where
  | char (quoted : Bool) (c : Char)
  /-- Quotes, which make a word even when nothing stands between them. -/
  | quotes
  | parameter (quoted : Bool) (name : String) (use : Use) (word : List Part)
  /-- What commands print. -/
  | output (quoted : Bool) (commands : List Command)
  /-- The value of an arithmetic expression. -/
  | sum (quoted : Bool) (expression : List Part)

/-- A descriptor that is turned elsewhere. -/
inductive Redirect where
  | mk (descriptor : Nat) (direction : Direction) (word : List Part)

/-- A command. -/
inductive Command where
  | simple (assignments : List (String × List Part)) (words : List (List Part)) (redirects : List Redirect)
  | pipe (stages : List Command)
  | negate (command : Command)
  /-- The second command runs when the first one succeeds. -/
  | andThen (first second : Command)
  /-- The second command runs when the first one fails. -/
  | orElse (first second : Command)
  | block (commands : List Command)
  | background (command : Command)
  /-- Commands that cannot change the shell around them. -/
  | apart (commands : List Command)
  | choice (condition accepted rejected : List Command)
  /-- Commands that are run again while a condition succeeds, or else until it does. -/
  | loop (untilDone : Bool) (condition body : List Command)
  /-- Commands that are run for each word; without words, for each argument. -/
  | each (name : String) (words : Option (List (List Part))) (body : List Command)
  /-- The commands of the first arm that has a pattern for a word. -/
  | select (word : List Part) (arms : List (List (List Part) × List Command))
  | function (name : String) (body : Command)
  | redirected (command : Command) (redirects : List Redirect)

end

namespace Part

/-- The character of a part that stands for itself. -/
def char? : Part → Option Char
  | char _ c => some c
  | _ => none

/-- Whether a part stands in quotes, or is a pair of them. -/
def isQuoted : Part → Bool
  | char quoted _ | parameter quoted _ _ _ | output quoted _ | sum quoted _ => quoted
  | quotes => true

end Part

/-- A word of characters that all stand for themselves. -/
def plainWord (quoted : Bool) (cs : List Char) : List Part :=
  cs.map (.char quoted)

end TapeToJava.Shell
