import TapeToJava.Files.Request
import TapeToJava.Text.Utf8

/-! Programs that are found on every system: what they are given and what they come to, and how they
read their options. -/

namespace TapeToJava.Shell

/-- What a program is given. -/
structure Given where
  args : List String
  /-- What it can read. -/
  input : List UInt8
  /-- Whether the input is a file, so that its size is known before it is read. -/
  fromFile : Bool
  volume : Volume

/-- What running a program comes to. -/
structure Outcome where
  printed : List UInt8
  /-- What it says about faults. -/
  complaint : String
  volume : Volume
  code : Nat
  /-- Whether it has read what it could. -/
  hasRead : Bool

namespace Given

/-- A program that does nothing but end. -/
def quits (g : Given) (code : Nat) : Outcome :=
  ⟨[], "", g.volume, code, false⟩

/-- A program that prints and ends. -/
def prints (g : Given) (bytes : List UInt8) (code : Nat) : Outcome :=
  ⟨bytes, "", g.volume, code, false⟩

/-- A program that prints a text and ends. -/
def tells (g : Given) (s : String) (code : Nat) : Outcome :=
  g.prints (Text.Utf8.encode s) code

/-- A program that complains and fails. -/
def fails (g : Given) (complaint : String) (code : Nat) : Outcome :=
  ⟨[], complaint ++ "\n", g.volume, code, false⟩

/-- The bytes that an operand names; a dash names the input. -/
def bytesOf (g : Given) (operand : String) : Except Fault (List UInt8) :=
  if operand = "-" then .ok g.input else g.volume.readFile operand

/-- Whether the input is among the operands, or stands in for them. -/
def needsInput (operands : List String) : Bool :=
  operands.isEmpty || operands.contains "-"

end Given

namespace Outcome

/-- One run behind another; the greater code counts. -/
def followed (a b : Outcome) : Outcome :=
  ⟨a.printed ++ b.printed, a.complaint ++ b.complaint, b.volume, max a.code b.code, a.hasRead || b.hasRead⟩

end Outcome

/-- The complaint about an operand. -/
def complaintOn (program operand : String) (fault : Fault) : String :=
  program ++ ": " ++ operand ++ ": " ++ fault.reason ++ "\n"

/-! ### Options -/

/-- Which options a program knows. -/
structure Known where
  /-- Letters of options that stand alone. -/
  plain : List Char
  /-- Letters of options with a value. -/
  valued : List Char
  /-- Long names, with the letters that they stand for. -/
  long : List (String × Char)
  /-- Whether options may follow operands. -/
  mixed : Bool

/-- The options and operands of a call. -/
structure Chosen where
  options : List (Char × String)
  operands : List String

namespace Chosen

def has (c : Chosen) (letter : Char) : Bool :=
  c.options.any (·.1 == letter)

/-- The value of an option, the last one when there are several. -/
def value? (c : Chosen) (letter : Char) : Option String :=
  (c.options.filter (·.1 == letter)).getLast?.map (·.2)

def withOption (letter : Char) (value : String) (c : Chosen) : Chosen :=
  { c with options := (letter, value) :: c.options }

def withOperand (operand : String) (c : Chosen) : Chosen :=
  { c with operands := operand :: c.operands }

/-- Reads the letters of an argument. The value of an option is the rest of the argument, or the next
one; the second component says whether that was used up. -/
def letters? (k : Known) (next : Option String) : List Char → Option (List (Char × String) × Bool)
  | [] => some ([], false)
  | c :: cs =>
    if k.plain.contains c then (letters? k next cs).map fun (os, used) => ((c, "") :: os, used)
    else if k.valued.contains c then
      match cs, next with
      | _ :: _, _ => some ([(c, String.ofList cs)], false)
      | [], some value => some ([(c, value)], true)
      | [], none => none
    else none

/-- Reads a long option, from behind the dashes. -/
def long? (k : Known) (next : Option String) (cs : List Char) : Option ((Char × String) × Bool) :=
  let name := cs.takeWhile (· != '=')
  match k.long.lookup (String.ofList name), cs.drop name.length with
  | none, _ => none
  | some letter, _ :: value =>
    if k.valued.contains letter then some ((letter, String.ofList value), false) else none
  | some letter, [] =>
    if k.valued.contains letter then next.map fun value => ((letter, value), true)
    else some ((letter, ""), false)

/-- Reads the arguments of a call; `none` when an option is not known. -/
def ofArgs? (k : Known) : Nat → List String → Option Chosen
  | 0, _ | _, [] => some ⟨[], []⟩
  | fuel + 1, arg :: rest =>
    match arg.toList with
    | ['-', '-'] => some ⟨[], rest⟩
    | '-' :: '-' :: cs =>
      match long? k rest.head? cs with
      | none => none
      | some ((letter, value), used) =>
        (ofArgs? k fuel (if used then rest.tail else rest)).map (withOption letter value)
    | '-' :: c :: cs =>
      match letters? k rest.head? (c :: cs) with
      | none => none
      | some (os, used) =>
        (ofArgs? k fuel (if used then rest.tail else rest)).map fun chosen =>
          { chosen with options := os ++ chosen.options }
    | _ =>
      if k.mixed then (ofArgs? k fuel rest).map (withOperand arg) else some ⟨[], arg :: rest⟩

end Chosen

namespace Given

/-- The options and operands of a call. -/
def chosen? (g : Given) (plain valued : String) (long : List (String × Char)) : Option Chosen :=
  Chosen.ofArgs? ⟨plain.toList, valued.toList, long, true⟩ (g.args.length + 1) g.args

end Given

/-! ### Numbers and lines -/

/-- The number that some digits spell. -/
def decimal? (s : String) : Option Nat :=
  if s.toList ≠ [] ∧ s.toList.all Char.isDigit then
    some (s.toList.foldl (fun n d => 10 * n + (d.toNat - 48)) 0)
  else none

/-- The number that digits behind an optional sign spell. -/
def signed? (s : String) : Option Int :=
  match s.toList with
  | '-' :: ds => (decimal? (String.ofList ds)).map fun n => -(n : Int)
  | '+' :: ds => (decimal? (String.ofList ds)).map fun n => (n : Int)
  | _ => (decimal? s).map fun n => (n : Int)

/-- The lines of some bytes, each with the line feed that ends it. -/
def byteLines : List UInt8 → List (List UInt8)
  | [] => []
  | b :: bs =>
    if b = 0x0A then [b] :: byteLines bs
    else match byteLines bs with
      | [] => [[b]]
      | l :: ls => (b :: l) :: ls

/-- A line without the line feed at its end. -/
def withoutFeed (l : List UInt8) : List UInt8 :=
  if l.getLast? = some 0x0A then l.dropLast else l

/-- A line with a line feed at its end. -/
def withFeed (l : List UInt8) : List UInt8 :=
  if l.getLast? = some 0x0A then l else l ++ [0x0A]

/-- A text behind as many blanks as bring it to a width. -/
def padLeft (width : Nat) (s : String) : String :=
  String.ofList (List.replicate (width - s.length) ' ') ++ s

end TapeToJava.Shell
