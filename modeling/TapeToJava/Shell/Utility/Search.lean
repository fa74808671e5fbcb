import TapeToJava.Shell.Regex
import TapeToJava.Shell.Utility.Entries

/-! Programs that look for patterns in the lines of files, and change the lines by them. -/

namespace TapeToJava.Shell.Utility

/-! ### Finding lines -/

/-- Whether a match is a word of its own, or a whole line, where that is asked for. -/
def fits (c : Chosen) (start stop : Regex.Place) : Bool :=
  (!c.has 'w' || (!start.before.head?.any Regex.isWordChar && !stop.after.head?.any Regex.isWordChar)) &&
    (!c.has 'x' || (start.before.isEmpty && stop.after.isEmpty))

/-- The first match from a place on that fits. -/
def fittingMatch? (c : Chosen) (patterns : List Regex) : Nat → Regex.Place → Option (Regex.Place × Regex.Place)
  | 0, _ => none
  | fuel + 1, pl =>
    let here := patterns.filterMap fun r => (Regex.matchAt? (c.has 'i') r pl).bind fun stop =>
      if fits c pl stop then some (pl, stop) else none
    match here with
    | m :: ms =>
      some (ms.foldl (fun best m => if m.2.after.length < best.2.after.length then m else best) m)
    | [] =>
      match pl.after with
      | [] => none
      | d :: ds => fittingMatch? c patterns fuel { pl with before := d :: pl.before, after := ds }

/-- The texts of all matches in a line that are not empty. -/
def matchedTexts (c : Chosen) (patterns : List Regex) : Nat → Regex.Place → List (List Char)
  | 0, _ => []
  | fuel + 1, pl =>
    match fittingMatch? c patterns (pl.after.length + 1) pl with
    | none => []
    | some (start, stop) =>
      let text := start.after.take (start.after.length - stop.after.length)
      if text = [] then
        match stop.after with
        | [] => []
        | d :: ds => matchedTexts c patterns fuel { stop with before := d :: stop.before, after := ds }
      else text :: matchedTexts c patterns fuel stop

/-- What a search prints for one file, and the number of its lines that were chosen. -/
def searched (c : Chosen) (patterns : List Regex) (title : String) (bytes : List UInt8) : List UInt8 × Nat :=
  let lines := (byteLines bytes).map withoutFeed
  let numberedLines := (List.range lines.length).zip lines
  let chosen := numberedLines.filter fun (_, l) =>
    let cs := (Text.Utf8.decode l).toList
    (fittingMatch? c patterns (cs.length + 1) ⟨[], cs, []⟩).isSome != c.has 'v'
  let chosen := match (c.value? 'm').bind decimal? with
    | some n => chosen.take n
    | none => chosen
  let front (i : Nat) : String := title ++ (if c.has 'n' then toString (i + 1) ++ ":" else "")
  let printed :=
    if c.has 'o' then
      if c.has 'v' then []
      else chosen.flatMap fun (i, l) =>
        let cs := (Text.Utf8.decode l).toList
        (matchedTexts c patterns (cs.length + 1) ⟨[], cs, []⟩).flatMap fun t =>
          Text.Utf8.encode (front i ++ String.ofList t ++ "\n")
    else chosen.flatMap fun (i, l) => Text.Utf8.encode (front i) ++ l ++ [0x0A]
  (printed, chosen.length)

/-- What a search looks for, and the operands; without an option that gives it, it is the first operand.
-/
def searchPatterns (c : Chosen) : Option (List String × List String) :=
  match c.options.filter (·.1 == 'e') with
  | [] => match c.operands with
    | [] => none
    | p :: rest => some ([p], rest)
  | es => some (es.map (·.2), c.operands)

/-- Finds the lines with a match; success when there is one. -/
def grepAs (extended plain : Bool) (g : Given) : Outcome :=
  match g.chosen? "cqvinlLFEGoxwshHyaI" "emk" [("count", 'c'), ("quiet", 'q'), ("silent", 'q'),
      ("invert-match", 'v'), ("ignore-case", 'i'), ("line-number", 'n'), ("files-with-matches", 'l'), ("files-without-match", 'L'),
      ("fixed-strings", 'F'), ("extended-regexp", 'E'), ("only-matching", 'o'), ("line-regexp", 'x'), ("color", 'k'),
      ("word-regexp", 'w'), ("no-messages", 's'), ("regexp", 'e'), ("max-count", 'm'), ("no-filename", 'h'),
      ("with-filename", 'H')] with
  | none => g.fails "grep: invalid option" 2
  | some c =>
    match searchPatterns c with
    | none => g.fails "Usage: grep [OPTION]... PATTERNS [FILE]..." 2
    | some (texts, operands) =>
      let extended := extended || c.has 'E'
      let plain := plain || c.has 'F'
      let read (s : String) : Option Regex :=
        if plain then some (Regex.ofPlain s.toList) else Regex.ofText? extended s.toList
      match (texts.flatMap fun s => (Text.pieces '\n' s.toList).map String.ofList).mapM read with
      | none => g.fails "grep: Invalid regular expression" 2
      | some patterns =>
        let files := if operands.isEmpty then ["-"] else operands
        let titled := (1 < files.length || c.has 'H') && !c.has 'h'
        let (run, found, failed) := files.foldl
          (fun (o, found, failed) file =>
            match g.bytesOf file with
            | .error fault =>
              let complaint := if c.has 's' then "" else complaintOn "grep" file fault
              ({ o with complaint := o.complaint ++ complaint }, found, true)
            | .ok bytes =>
              let name := if file = "-" then "(standard input)" else file
              let title := if titled then name ++ ":" else ""
              let (printed, count) := searched c patterns title bytes
              let shown :=
                if c.has 'q' then []
                else if c.has 'l' then (if 0 < count then Text.Utf8.encode (name ++ "\n") else [])
                else if c.has 'L' then (if count = 0 then Text.Utf8.encode (name ++ "\n") else [])
                else if c.has 'c' then Text.Utf8.encode (title ++ toString count ++ "\n")
                else printed
              ({ o with printed := o.printed ++ shown }, found || 0 < count, failed))
          (g.quits 0, false, false)
        let code := if failed ∧ !(c.has 'q' && found) then 2 else if found then 0 else 1
        { run with code := code, hasRead := Given.needsInput operands }

def grep : Given → Outcome := grepAs false false

/-! ### Editing lines -/

/-- Where an edit applies. -/
inductive Address where
  | line (n : Nat)
  | lastLine
  | lineWith (r : Regex)
  /-- Every so many lines, from a first one on. -/
  | steps (first step : Nat)

/-- What an edit does to a line. -/
inductive Change where
  | replace (r : Regex) (by_ : List Char) (anyCase : Bool) (all : Bool) (occurrence : Nat) (print : Bool)
  | delete
  | print
  | quit
  | lineNumber
  | exchange (from_ dest : List Char)
  | appendText (text : List Char)
  | insertText (text : List Char)
  | changeText (text : List Char)

/-- An edit: its addresses, whether they are turned around, and the change. -/
structure Edit where
  first : Option Address
  last : Option Address
  negated : Bool
  change : Change

namespace Edit

/-- The text up to a delimiter, and what follows it. The delimiter itself may stand behind a backslash.
-/
def upTo? (delimiter : Char) : List Char → Option (List Char × List Char)
  | [] => none
  | '\\' :: c :: cs =>
    (upTo? delimiter cs).map fun (text, rest) =>
      (if c = delimiter then c :: text else '\\' :: c :: text, rest)
  | c :: cs =>
    if c = delimiter then some ([], cs) else (upTo? delimiter cs).map fun (text, rest) => (c :: text, rest)

def skipBlanks (cs : List Char) : List Char :=
  cs.dropWhile fun c => c == ' ' || c == '\t'

/-- An address, and what follows it; `none` outside for a malformed one. -/
def address? (extended : Bool) (cs : List Char) : Option (Option Address × List Char) :=
  match cs with
  | '$' :: rest => some (some .lastLine, rest)
  | '/' :: rest =>
    match upTo? '/' rest with
    | some (text, rest) => (Regex.ofText? extended text).map fun r => (some (.lineWith r), rest)
    | none => none
  | c :: _ =>
    if c.isDigit then
      let ds := cs.takeWhile Char.isDigit
      let n := Regex.numberOf ds
      match cs.drop ds.length with
      | '~' :: rest =>
        let step := rest.takeWhile Char.isDigit
        some (some (.steps n (Regex.numberOf step)), rest.drop step.length)
      | rest => some (some (.line n), rest)
    else some (none, cs)
  | [] => some (none, [])

/-- The text of an edit that adds lines. -/
def addedText (cs : List Char) : List Char × List Char :=
  let cs := skipBlanks cs
  let cs := match cs with
    | '\\' :: '\n' :: rest => rest
    | '\\' :: rest => skipBlanks rest
    | cs => cs
  (cs.takeWhile (· != '\n'), cs.dropWhile (· != '\n'))

/-- A change, and what follows it. -/
def change? (extended : Bool) : List Char → Option (Change × List Char)
  | 'd' :: rest => some (.delete, rest)
  | 'p' :: rest => some (.print, rest)
  | 'q' :: rest => some (.quit, rest)
  | '=' :: rest => some (.lineNumber, rest)
  | 'a' :: rest => some (.appendText (addedText rest).1, (addedText rest).2)
  | 'i' :: rest => some (.insertText (addedText rest).1, (addedText rest).2)
  | 'c' :: rest => some (.changeText (addedText rest).1, (addedText rest).2)
  | 'y' :: d :: rest =>
    match upTo? d rest with
    | none => none
    | some (a, rest) =>
      match upTo? d rest with
      | some (b, rest) => if a.length = b.length then some (.exchange a b, rest) else none
      | none => none
  | 's' :: d :: rest =>
    match upTo? d rest with
    | none => none
    | some (text, rest) =>
      match upTo? d rest, Regex.ofText? extended text with
      | some (by_, rest), some r =>
        let flags := rest.takeWhile fun c => c == 'g' || c == 'p' || c == 'i' || c == 'I' || c.isDigit
        let occurrence := Regex.numberOf (flags.filter Char.isDigit)
        some (.replace r by_ (flags.contains 'i' || flags.contains 'I') (flags.contains 'g')
          (max 1 occurrence) (flags.contains 'p'), rest.drop flags.length)
      | _, _ => none
  | _ => none

/-- Reads the edits of a script. -/
def read? (extended : Bool) : Nat → List Char → Option (List Edit)
  | 0, _ => none
  | fuel + 1, cs =>
    match cs.dropWhile fun c => c == ' ' || c == '\t' || c == ';' || c == '\n' with
    | [] => some []
    | cs =>
      match address? extended cs with
      | none => none
      | some (first, rest) =>
        let second := match first, skipBlanks rest with
          | some _, ',' :: rest => address? extended (skipBlanks rest)
          | _, rest => some (none, rest)
        match second with
        | none => none
        | some (last, rest) =>
          let (negated, rest) := match skipBlanks rest with
            | '!' :: rest => (true, skipBlanks rest)
            | rest => (false, rest)
          match change? extended rest with
          | none => none
          | some (change, rest) =>
            match skipBlanks rest with
            | [] => some [⟨first, last, negated, change⟩]
            | ';' :: rest | '\n' :: rest =>
              (read? extended fuel rest).map fun es => ⟨first, last, negated, change⟩ :: es
            | _ => none

/-- Whether an address names a line. -/
def names (n total : Nat) (line : List Char) : Address → Bool
  | .line m => n = m
  | .lastLine => n = total
  | .lineWith r => (Regex.find? false r line).isSome
  | .steps first step => if step = 0 then n = first else first ≤ n && (n - first) % step = 0

/-- Whether an edit applies to a line, and whether its range is still open behind it. -/
def applies (e : Edit) (n total : Nat) (line : List Char) (isOpen : Bool) : Bool × Bool :=
  match e.first, e.last with
  | none, _ => (true, false)
  | some a, none => (names n total line a, false)
  | some a, some b =>
    if isOpen then
      match b with
      | .line m => (n ≤ m, n < m)
      | b => (true, !names n total line b)
    else if names n total line a then
      match b with
      | .line m => (true, n < m)
      | _ => (true, n < total)
    else (false, false)

/-- What takes the place of a match: the text with the match and its groups put in. -/
def replacement (matched : List Char) (kept : List (Nat × List Char)) : List Char → List Char
  | [] => []
  | '\\' :: c :: cs =>
    (if c.isDigit then (if c = '0' then matched else (kept.lookup (c.toNat - 48)).getD [])
      else if c = 'n' then ['\n'] else if c = 't' then ['\t'] else [c]) ++ replacement matched kept cs
  | '&' :: cs => matched ++ replacement matched kept cs
  | c :: cs => c :: replacement matched kept cs

/-- A line in which matches are replaced, from a certain one on; the flag says whether there was one. -/
def replaced (r : Regex) (by_ : List Char) (anyCase all : Bool) : Nat → Nat → Regex.Place → List Char × Bool
  | 0, _, pl => (pl.after, false)
  | fuel + 1, wait, pl =>
    match Regex.search? anyCase r (pl.after.length + 1) pl with
    | none => (pl.after, false)
    | some (start, stop) =>
      let front := pl.after.take (pl.after.length - start.after.length)
      let matched := start.after.take (start.after.length - stop.after.length)
      let put := if wait ≤ 1 then replacement matched stop.kept by_ else matched
      let done := wait ≤ 1
      if done ∧ !all then (front ++ put ++ stop.after, true)
      else if matched = [] then
        match stop.after with
        | [] => (front ++ put, done)
        | d :: ds =>
          let next : Regex.Place := { stop with before := d :: stop.before, after := ds }
          let (rest, more) := replaced r by_ anyCase all fuel (wait - 1) next
          (front ++ put ++ d :: rest, done || more)
      else
        let (rest, more) := replaced r by_ anyCase all fuel (wait - 1) stop
        (front ++ put ++ rest, done || more)

end Edit

/-- A line that is printed, and whether it is the line that was read rather than one that was added to
it. -/
structure Shown where
  text : List Char
  isOwn : Bool
  deriving DecidableEq, Repr

/-- A line while edits are made to it. -/
structure Editing where
  line : List Char
  printed : List Shown
  /-- What follows the line. -/
  behind : List Shown
  deleted : Bool
  quits : Bool
  /-- For each edit whether its range is open. -/
  ranges : List Bool

namespace Editing

/-- Makes the edits that apply to a line. -/
def run (n total : Nat) : List Edit → List Bool → Editing → Editing
  | [], _, s => s
  | e :: es, isOpen, s =>
    if s.deleted || s.quits then
      { s with ranges := s.ranges ++ isOpen }
    else
      let (holds, stillOpen) := e.applies n total s.line (isOpen.headD false)
      let s := { s with ranges := s.ranges ++ [stillOpen] }
      let next :=
        if holds = e.negated then s
        else match e.change with
          | .delete => { s with deleted := true }
          | .print => { s with printed := s.printed ++ [⟨s.line, true⟩] }
          | .quit => { s with quits := true }
          | .lineNumber => { s with printed := s.printed ++ [⟨(toString n).toList, false⟩] }
          | .exchange a b =>
            { s with line := s.line.map fun c => match a.idxOf? c with
                | some i => (b[i]?).getD c
                | none => c }
          | .appendText text => { s with behind := s.behind ++ [⟨text, false⟩] }
          | .insertText text => { s with printed := s.printed ++ [⟨text, false⟩] }
          | .changeText text => { s with printed := s.printed ++ [⟨text, false⟩], deleted := true }
          | .replace r by_ anyCase all occurrence print =>
            let (line, done) := Edit.replaced r by_ anyCase all (s.line.length + 2) occurrence ⟨[], s.line, []⟩
            { s with line := line, printed := if done && print then s.printed ++ [⟨line, true⟩] else s.printed }
      run n total es isOpen.tail next

end Editing

/-- The lines that edits make of others. -/
def edited (quiet : Bool) (edits : List Edit) (total : Nat) :
    Nat → List Bool → List (List Char) → List (Nat × Shown)
  | _, _, [] => []
  | n, ranges, l :: ls =>
    let s := Editing.run n total edits ranges ⟨l, [], [], false, false, []⟩
    let own : List Shown := if s.deleted || quiet then [] else [⟨s.line, true⟩]
    let shown := (s.printed ++ own ++ s.behind).map fun x => (n, x)
    if s.quits then shown else shown ++ edited quiet edits total (n + 1) s.ranges ls

/-- What edits make of some bytes. The last line stays without a line feed if it had none. -/
def editedBytes (quiet : Bool) (edits : List Edit) (bytes : List UInt8) : List UInt8 :=
  let lines := (byteLines bytes).map fun l => (Text.Utf8.decode (withoutFeed l)).toList
  let shown := edited quiet edits lines.length 1 (edits.map fun _ => false) lines
  let result := shown.flatMap fun (_, x) => Text.Utf8.encode (String.ofList (x.text ++ ['\n']))
  let endsOpen := shown.getLast?.any fun (n, x) => n == lines.length && x.isOwn
  if endsOpen ∧ bytes.getLast?.any (· != 0x0A) then result.dropLast else result

/-- Whether a script begins with a jump to a label, of which there are none. -/
def jumps (script : List Char) : Bool :=
  match Edit.skipBlanks script with
  | 'b' :: c :: _ | 't' :: c :: _ | 'T' :: c :: _ => c != ';' && c != '\n' && c != '\x7d'
  | _ => false

/-- Edits files in place; what was in them may be kept under names with a suffix. -/
def editFiles (g : Given) (suffix : String) (quiet : Bool) (edits : List Edit) (files : List String) : Outcome :=
  eachOperand g files fun v path =>
    match v.find path with
    | .ok (loc, .file mode bytes) =>
      let v := if suffix = "" then v else match v.openForWriting (path ++ suffix) mode with
        | .ok (kept, v) => v.setBytes kept bytes
        | .error _ => v
      changed (v.setBytes loc (editedBytes quiet edits bytes))
    | .ok (_, .directory _) => complain v ("sed: couldn't edit " ++ path ++ ": not a regular file") 4
    | .error fault => complain v ("sed: can't read " ++ path ++ ": " ++ fault.reason) 2

def sed (g : Given) : Outcome :=
  let inPlace := (g.args.find? (·.startsWith "-i")).map fun a => String.ofList (a.toList.drop 2)
  let g := { g with args := g.args.filter fun a => !a.startsWith "-i" }
  match g.chosen? "nErszu" "ef" [("quiet", 'n'), ("silent", 'n'), ("expression", 'e'),
      ("regexp-extended", 'E')] with
  | none => g.fails "sed: invalid option" 1
  | some c =>
    let (scripts, operands) := match c.options.filter (·.1 == 'e') with
      | [] => (c.operands.take 1, c.operands.drop 1)
      | es => (es.map (·.2), c.operands)
    let script := (String.intercalate "\n" scripts).toList
    if scripts.isEmpty then g.fails "Usage: sed [OPTION]... " 1
    else match Edit.read? (c.has 'E' || c.has 'r') (script.length + 1) script, inPlace with
      | none, _ =>
        if jumps script then g.fails "sed: can't find label for jump" 4
        else g.fails "sed: -e expression #1: unknown command" 1
      | some edits, some suffix => editFiles g suffix (c.has 'n') edits operands
      | some edits, none =>
        let run := eachFile "sed" g operands fun _ bytes => bytes
        { run with
          printed := editedBytes (c.has 'n') edits run.printed
          code := if run.code = 0 then 0 else 2 }

end TapeToJava.Shell.Utility
