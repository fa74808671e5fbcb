import TapeToJava.Hash.Sha256
import TapeToJava.Shell.Utility.Basic

/-! Programs that print the lines of files, or count them. -/

namespace TapeToJava.Shell.Utility

/-- Prints what becomes of each operand's bytes, one behind another; without operands, of the input. -/
def eachFile (program : String) (g : Given) (operands : List String) (show_ : String → List UInt8 → List UInt8) :
    Outcome :=
  let operands := if operands.isEmpty then ["-"] else operands
  let run := operands.foldl
    (fun (o : Outcome) operand =>
      match g.bytesOf operand with
      | .ok bytes => { o with printed := o.printed ++ show_ operand bytes }
      | .error fault => { o with complaint := o.complaint ++ complaintOn program operand fault, code := 1 })
    (g.quits 0)
  { run with hasRead := Given.needsInput operands }

/-- Numbers lines from a number on, in a width and with a text behind it; lines that do not count get
blanks. -/
def numbered (width : Nat) (between : String) (counts : List UInt8 → Bool) (blanks : List UInt8) :
    Nat → List (List UInt8) → List UInt8
  | _, [] => []
  | n, l :: ls =>
    if counts l then
      Text.Utf8.encode (padLeft width (toString n) ++ between) ++ l ++
        numbered width between counts blanks (n + 1) ls
    else blanks ++ l ++ numbered width between counts blanks n ls

/-- Lines of which several empty ones in a row become one. -/
def squeezed : Bool → List (List UInt8) → List (List UInt8)
  | _, [] => []
  | wasEmpty, l :: ls =>
    if l = [0x0A] then (if wasEmpty then squeezed true ls else l :: squeezed true ls) else l :: squeezed false ls

/-- Bytes with signs in the place of tabs. -/
def withShownTabs (bs : List UInt8) : List UInt8 :=
  bs.flatMap fun b => if b = 0x09 then [0x5E, 0x49] else [b]

def cat (g : Given) : Outcome :=
  match g.chosen? "nbsEuTvAet" "" [("number", 'n'), ("number-nonblank", 'b'), ("squeeze-blank", 's'),
      ("show-ends", 'E'), ("show-tabs", 'T'), ("show-all", 'A')] with
  | none => g.fails "cat: invalid option" 1
  | some c =>
    let run := eachFile "cat" g c.operands fun _ bytes => bytes
    let lines := if c.has 's' then squeezed false (byteLines run.printed) else byteLines run.printed
    let lines := if c.has 'T' || c.has 't' || c.has 'A' then lines.map withShownTabs else lines
    let lines := if c.has 'E' || c.has 'e' || c.has 'A' then
        lines.map fun l => if l.getLast? = some 0x0A then l.dropLast ++ [0x24, 0x0A] else l
      else lines
    let isEmpty (l : List UInt8) := l = [0x0A] ∨ l = [0x24, 0x0A]
    let printed :=
      if c.has 'b' then numbered 6 "\t" (fun l => !isEmpty l) [] 1 lines
      else if c.has 'n' then numbered 6 "\t" (fun _ => true) [] 1 lines
      else lines.flatten
    { run with printed := printed }

/-- Numbers the lines that are not empty. -/
def nl (g : Given) : Outcome :=
  match g.chosen? "" "bwsv" [("body-numbering", 'b'), ("number-width", 'w'), ("number-separator", 's'),
      ("starting-line-number", 'v')] with
  | none => g.fails "nl: invalid option" 1
  | some c =>
    let run := eachFile "nl" g c.operands fun _ bytes => bytes
    let all := c.value? 'b' = some "a"
    let width := ((c.value? 'w').bind decimal?).getD 6
    let between := (c.value? 's').getD "\t"
    let first := ((c.value? 'v').bind decimal?).getD 1
    let lines := (byteLines run.printed).map withFeed
    let blanks := List.replicate (width + between.utf8ByteSize) 0x20
    { run with printed := numbered width between (fun l => all || l ≠ [0x0A]) blanks first lines }

def tac (g : Given) : Outcome :=
  match g.chosen? "" "" [] with
  | none => g.fails "tac: invalid option" 1
  | some c => eachFile "tac" g c.operands fun _ bytes => (byteLines bytes).reverse.flatten

def rev (g : Given) : Outcome :=
  match g.chosen? "" "" [] with
  | none => g.fails "rev: invalid option" 1
  | some c =>
    -- a dash is the name of a file here
    let operands := c.operands.map fun o => if o = "-" then "./-" else o
    eachFile "rev" g operands fun _ bytes =>
      (byteLines bytes).flatMap fun l =>
        Text.Utf8.encode (String.ofList (Text.Utf8.decode (withoutFeed l)).toList.reverse) ++
          (if l.getLast? = some 0x0A then [0x0A] else [])

/-! ### Starts and ends -/

/-- A count, with the sign in front of it. -/
def signedCount? (s : String) : Option (Char × Nat) :=
  match s.toList with
  | '-' :: ds => (decimal? (String.ofList ds)).map fun n => ('-', n)
  | '+' :: ds => (decimal? (String.ofList ds)).map fun n => ('+', n)
  | _ => (decimal? s).map fun n => (' ', n)

/-- A first argument of the old form, a dash in front of a number of lines, in the form of an option; a
plus sign may stand in its place where that is allowed. -/
def modernCount (plus : Bool) : List String → List String
  | arg :: rest =>
    match arg.toList with
    | '-' :: c :: cs =>
      if (c :: cs).all Char.isDigit then "-n" :: String.ofList (c :: cs) :: rest else arg :: rest
    | '+' :: c :: cs =>
      if plus ∧ (c :: cs).all Char.isDigit ∧ rest.length ≤ 1 then "-n" :: arg :: rest else arg :: rest
    | _ => arg :: rest
  | [] => []

/-- The first bytes or lines of some bytes. -/
def headOf (bytes : Bool) (sign : Char) (n : Nat) (bs : List UInt8) : List UInt8 :=
  if bytes then (if sign = '-' then bs.take (bs.length - n) else bs.take n)
  else
    let ls := byteLines bs
    (if sign = '-' then ls.take (ls.length - n) else ls.take n).flatten

/-- The last bytes or lines of some bytes; with a plus sign, those from a number on. -/
def tailOf (bytes : Bool) (sign : Char) (n : Nat) (bs : List UInt8) : List UInt8 :=
  if bytes then (if sign = '+' then bs.drop (n - 1) else bs.drop (bs.length - n))
  else
    let ls := byteLines bs
    (if sign = '+' then ls.drop (n - 1) else ls.drop (ls.length - n)).flatten

/-- Prints a part of each file. With several files, each has a line with its name in front of it. -/
def partOf (program : String) (plus : Bool) (part : Bool → Char → Nat → List UInt8 → List UInt8) (g : Given) :
    Outcome :=
  let g := { g with args := modernCount plus g.args }
  match g.chosen? "qvzf" "nc" [("lines", 'n'), ("bytes", 'c'), ("quiet", 'q'), ("silent", 'q'),
      ("verbose", 'v')] with
  | none => g.fails (program ++ ": invalid option") 1
  | some c =>
    let count := match c.options.filter (fun o => o.1 == 'n' || o.1 == 'c') with
      | [] => some (false, ' ', 10)
      | os => os.getLast?.bind fun o => (signedCount? o.2).map fun (sign, n) => (o.1 == 'c', sign, n)
    match count with
    | none => g.fails (program ++ ": invalid number") 1
    | some (bytes, sign, n) =>
      let titled := (1 < c.operands.length && !c.has 'q') || c.has 'v'
      let run := eachFile program g c.operands fun operand bs =>
        let title := if titled then
            Text.Utf8.encode ("\n==> " ++ (if operand = "-" then "standard input" else operand) ++ " <==\n")
          else []
        title ++ part bytes sign n bs
      { run with printed := if titled then run.printed.drop 1 else run.printed }

def head : Given → Outcome := partOf "head" false headOf

def tail : Given → Outcome := partOf "tail" true tailOf

/-! ### Counting -/

/-- Whether a byte is a blank. -/
def isBlankByte (b : UInt8) : Bool :=
  b == 0x20 || (0x09 ≤ b && b ≤ 0x0D)

/-- The number of words; the flag says whether the byte in front belongs to one. -/
def wordCount : Bool → List UInt8 → Nat
  | _, [] => 0
  | inWord, b :: bs =>
    if isBlankByte b then wordCount false bs
    else if inWord then wordCount true bs
    else wordCount true bs + 1

/-- Counts of a file: lines, words, characters, bytes. -/
def counts (bs : List UInt8) : List Nat :=
  [bs.count 0x0A, wordCount false bs, bs.countP (fun b => b < 0x80 || 0xC0 ≤ b), bs.length]

/-- The numbers of a row, each in a width, and the name behind them. -/
def countRow (width : Nat) (chosen : List Bool) (numbers : List Nat) (name : String) : String :=
  let shown := (numbers.zip chosen).filterMap fun (n, wanted) =>
    if wanted then some (padLeft width (toString n)) else none
  String.intercalate " " shown ++ (if name = "" then "" else " " ++ name) ++ "\n"

/-- What one operand of a count comes to: its numbers, and whether a fault came up. -/
def countOf (g : Given) (operand : String) : Except Fault (List Nat × Option Fault) :=
  match g.bytesOf operand with
  | .ok bs => .ok (counts bs, none)
  | .error .isADirectory => .ok ([0, 0, 0, 0], some .isADirectory)
  | .error fault => .error fault

/-- The width of the numbers: that of the sum of the sizes, or seven where a size is not known before.
-/
def countWidth (g : Given) (chosen : List Bool) (operands : List String) : Nat :=
  if operands.length ≤ 1 ∧ chosen.count true = 1 then 1
  else
    let sizes := operands.map fun o =>
      if o = "-" then (if g.fromFile then some g.input.length else none)
      else match g.volume.stat o with
        | .ok (.file _ bytes) => some bytes.length
        | .ok (.directory _) => none
        | .error _ => some 0
    let digits := (Nat.toDigits 10 (sizes.foldl (· + ·.getD 0) 0)).length
    if sizes.contains none then max 7 digits else digits

def wc (g : Given) : Outcome :=
  match g.chosen? "lwcm" "" [("lines", 'l'), ("words", 'w'), ("bytes", 'c'), ("chars", 'm')] with
  | none => g.fails "wc: invalid option" 1
  | some c =>
    let chosen := if c.options.isEmpty then [true, true, false, true]
      else [c.has 'l', c.has 'w', c.has 'm', c.has 'c']
    let operands := if c.operands.isEmpty then ["-"] else c.operands
    let width := countWidth g chosen operands
    let (run, total) := operands.foldl
      (fun (o, total) operand =>
        let name := if c.operands.isEmpty then "" else operand
        match countOf g operand with
        | .error fault => ({ o with complaint := o.complaint ++ complaintOn "wc" operand fault, code := 1 }, total)
        | .ok (numbers, fault) =>
          let o : Outcome := { o with printed := o.printed ++ Text.Utf8.encode (countRow width chosen numbers name) }
          let o := if fault.isSome then { o with code := 1 } else o
          (o, List.zipWith (· + ·) total numbers))
      (g.quits 0, [0, 0, 0, 0])
    let run := if 1 < operands.length then
        { run with printed := run.printed ++ Text.Utf8.encode (countRow width chosen total "total") }
      else run
    { run with hasRead := Given.needsInput c.operands }

/-- Prints the digest of each file. -/
def sha256sum (g : Given) : Outcome :=
  match g.chosen? "bt" "" [] with
  | none => g.fails "sha256sum: invalid option" 1
  | some c => eachFile "sha256sum" g c.operands fun operand bs =>
      Text.Utf8.encode (Sha256.digestText bs ++ "  " ++ operand ++ "\n")

end TapeToJava.Shell.Utility
