import TapeToJava.Shell.Utility.Texts

/-! Programs that list, create, copy, move and remove files. -/

namespace TapeToJava.Shell.Utility

/-- What a program does for each operand, on the files that the operand before it left. -/
def eachOperand (g : Given) (operands : List String) (act : Volume → String → Outcome) : Outcome :=
  operands.foldl (fun o operand => o.followed (act o.volume operand)) (g.quits 0)

/-- A complaint that does not stop a program. -/
def complain (v : Volume) (text : String) (code : Nat) : Outcome :=
  ⟨[], text ++ "\n", v, code, false⟩

/-- A change that was made. -/
def changed (v : Volume) : Outcome :=
  ⟨[], "", v, 0, false⟩

/-- The text of a path inside a directory. -/
def inside (directory name : String) : String :=
  if directory.endsWith "/" then directory ++ name else directory ++ "/" ++ name

/-- The last name of a path. -/
def lastName (path : String) : String :=
  String.ofList ((Path.fileName? path.toList).getD path.toList)

/-! ### Listing -/

/-- The names in a directory in ascending order; names that begin with a dot are hidden. -/
def shownNames (hidden : Bool) (v : Volume) (loc : Location) : List (List Char × Entry) :=
  let names := (v.namesIn loc).filter fun (name, _) => hidden || name.head? != some '.'
  names.mergeSort fun a b => !(String.ofList b.1 < String.ofList a.1)

/-- A name as it is listed. -/
def listed (c : Chosen) (name : String) (e : Entry) : String :=
  let mark := match e with
    | .directory _ => if c.has 'F' || c.has 'p' then "/" else ""
    | .file mode _ => if c.has 'F' && mode &&& 0o111 != 0 then "*" else ""
  name ++ mark ++ "\n"

/-- The names in a directory, as they are listed. -/
def listedNames (c : Chosen) (v : Volume) (loc : Location) : String :=
  let names := shownNames (c.has 'a' || c.has 'A') v loc
  let names := if c.has 'r' then names.reverse else names
  let dots := if c.has 'a' then (if c.has 'r' then "" else ".\n..\n") else ""
  dots ++ String.join (names.map fun (name, e) => listed c (String.ofList name) e) ++
    (if c.has 'a' && c.has 'r' then "..\n.\n" else "")

def ls (g : Given) : Outcome :=
  match g.chosen? "1aAdFprUCtSbNqQh" "" [("all", 'a'), ("almost-all", 'A'), ("directory", 'd'), ("reverse", 'r')] with
  | none => g.fails "ls: invalid option" 2
  | some c =>
    let operands := if c.operands.isEmpty then ["."] else c.operands.mergeSort fun a b => !(b < a)
    let operands := if c.has 'r' then operands.reverse else operands
    let found := operands.map fun o => (o, g.volume.find o)
    let missing := found.filterMap fun (o, r) => match r with
      | .error fault => some ("ls: cannot access '" ++ o ++ "': " ++ fault.reason ++ "\n")
      | .ok _ => none
    let files := found.filterMap fun (o, r) => match r with
      | .ok (_, e) => if e.isDirectory && !c.has 'd' then none else some (listed c o e)
      | .error _ => none
    let directories := found.filterMap fun (o, r) => match r with
      | .ok (loc, .directory _) => if c.has 'd' then none else some (o, loc)
      | _ => none
    let titled := 1 < operands.length
    let sections := directories.map fun (o, loc) =>
      (if titled then o ++ ":\n" else "") ++ listedNames c g.volume loc
    let printed := String.join files ++ (if files.isEmpty || sections.isEmpty then "" else "\n") ++
      String.intercalate "\n" sections
    { g.tells printed (if missing.isEmpty then 0 else 2) with complaint := String.join missing }

/-- The number of places in a line of names. -/
def lineWidth : Nat := 80

/-- The widths of some columns of names, each filled from top to bottom. -/
def columnWidths (names : List String) : Nat → Nat → List Nat
  | _, 0 => []
  | rows, columns + 1 =>
    let width := ((names.take rows).map String.length).foldl max 0
    (if columns = 0 then width else width + 2) :: columnWidths (names.drop rows) rows columns

/-- The number of columns in which names fit into lines. -/
def columnCount (names : List String) : Nat :=
  let most := min names.length (lineWidth / 3)
  let fits (columns : Nat) : Bool :=
    (columnWidths names ((names.length + columns - 1) / columns) columns).foldl (· + ·) 0 < lineWidth
  (((List.range (most + 1)).drop 2).filter fits).getLast?.getD 1

/-- Blanks from one place in a line to another, with tabs where they reach far enough. -/
def blanksTo (column : Nat) : Nat → Nat → List Char
  | 0, _ => []
  | fuel + 1, place =>
    if column ≤ place then []
    else if (place + 1) / 8 < column / 8 then '\t' :: blanksTo column fuel (place + 8 - place % 8)
    else ' ' :: blanksTo column fuel (place + 1)

/-- A line of names in columns. -/
def columnLine : Nat → List (String × Nat) → String
  | _, [] => "\n"
  | _, [(name, _)] => name ++ "\n"
  | start, (name, width) :: rest =>
    name ++ String.ofList (blanksTo (start + width) width (start + name.length)) ++
      columnLine (start + width) rest

/-- Names in columns. -/
def inColumns (names : List String) : String :=
  if names.isEmpty then ""
  else
    let columns := columnCount names
    let rows := (names.length + columns - 1) / columns
    let widths := columnWidths names rows columns
    String.join ((List.range rows).map fun row =>
      columnLine 0 ((List.range columns).filterMap fun column =>
        match names[column * rows + row]?, widths[column]? with
        | some name, some width => some (name, width)
        | _, _ => none))

/-- A name with a backslash in front of its blanks. -/
def spelled (name : String) : String :=
  String.ofList (name.toList.flatMap fun c => if c = ' ' ∨ c = '\\' then ['\\', c] else [c])

/-- Lists names in columns. -/
def dir (g : Given) : Outcome :=
  match g.args with
  | [] | ["."] | ["--"] => g.tells (inColumns ((shownNames false g.volume g.volume.workingDirectory).map fun n =>
      spelled (String.ofList n.1))) 0
  | _ =>
    let out := ls g
    if out.code ≠ 0 then out
    else
      let names := (byteLines out.printed).map fun l => spelled (Text.Utf8.decode (withoutFeed l))
      { out with printed := Text.Utf8.encode (inColumns names) }

/-! ### Creating and removing -/

def touch (g : Given) : Outcome :=
  match g.chosen? "camh" "drt" [("no-create", 'c')] with
  | none => g.fails "touch: invalid option" 1
  | some c =>
    if c.operands.isEmpty then g.fails "touch: missing file operand" 1
    else eachOperand g c.operands fun v path =>
      if path = "-" || v.isThere path || (c.has 'c' && (v.stat path).toOption.isNone) then changed v
      else match v.openForWriting path 0o644 with
        | .ok (_, v) => changed v
        | .error fault => complain v ("touch: cannot touch '" ++ path ++ "': " ++ fault.reason) 1

/-- The octal number that some digits spell. -/
def octal? (s : String) : Option Nat :=
  if s.toList ≠ [] ∧ s.toList.all (fun c => '0' ≤ c && c ≤ '7') then
    some (s.toList.foldl (fun n d => 8 * n + (d.toNat - 48)) 0)
  else none

/-- The bits of the letters of a mode, for one class of users. -/
def modeBits (executable : Bool) (letters : List Char) : Nat :=
  letters.foldl
    (fun bits c =>
      if c = 'r' then bits ||| 4
      else if c = 'w' then bits ||| 2
      else if c = 'x' then bits ||| 1
      else if c = 'X' ∧ executable then bits ||| 1
      else bits) 0

/-- The mode that one clause of letters makes of another. -/
def clauseMode? (mode : Nat) (isDirectory : Bool) (clause : List Char) : Option Nat :=
  let who := clause.takeWhile fun c => c == 'u' || c == 'g' || c == 'o' || c == 'a'
  match clause.drop who.length with
  | [] => none
  | sign :: letters =>
    if !letters.all "rwxXst".toList.contains then none
    else
      let bits := modeBits (isDirectory || mode &&& 0o111 != 0) letters
      let all := who.isEmpty || who.contains 'a'
      let spread (bits : Nat) : Nat :=
        (if all || who.contains 'u' then bits * 64 else 0) + (if all || who.contains 'g' then bits * 8 else 0) +
          (if all || who.contains 'o' then bits else 0)
      -- without a class the write bits that a new file lacks are left alone
      let masked (bits : Nat) : Nat := if who.isEmpty then spread bits &&& 0o755 else spread bits
      let special :=
        (if letters.contains 's' then
          (if all || who.contains 'u' then 0o4000 else 0) + (if all || who.contains 'g' then 0o2000 else 0)
        else 0) + (if letters.contains 't' then 0o1000 else 0)
      if sign = '+' then some (mode ||| masked bits ||| special)
      else if sign = '-' then some (mode &&& (0o7777 ^^^ (masked bits ||| special)))
      else if sign = '=' then some ((mode &&& (0o7777 ^^^ spread 7)) ||| masked bits ||| special)
      else none

/-- The mode that a text makes of another: octal digits, or clauses of letters. -/
def changedMode? (mode : Nat) (isDirectory : Bool) (s : String) : Option Nat :=
  match octal? s with
  | some n => if n < 0o10000 then some n else none
  | none =>
    (Text.pieces ',' s.toList).foldl (fun m clause => m.bind fun m => clauseMode? m isDirectory clause) (some mode)

def chmod (g : Given) : Outcome :=
  -- a mode may begin with a dash
  let (spec, rest) := match g.args with
    | "-R" :: spec :: rest => (some spec, rest)
    | "--" :: spec :: rest => (some spec, rest)
    | spec :: rest => (some spec, rest)
    | [] => (none, [])
  let recursive := g.args.head? = some "-R"
  match spec with
  | none => g.fails "chmod: missing operand" 1
  | some spec =>
    if rest.isEmpty then g.fails ("chmod: missing operand after '" ++ spec ++ "'") 1
    else if (changedMode? 0 false spec).isNone then g.fails ("chmod: invalid mode: '" ++ spec ++ "'") 1
    else eachOperand g rest fun v path =>
      match v.find path with
      | .error fault => complain v ("chmod: cannot access '" ++ path ++ "': " ++ fault.reason) 1
      | .ok (loc, e) =>
        let change (e : Entry) : Entry := e.withMode ((changedMode? e.mode e.isDirectory spec).getD e.mode)
        if recursive then
          changed { v with entries := v.entries.map fun (l, e) =>
            if loc.isSuffixOf l then (l, change e) else (l, e) }
        else changed (v.insert loc (change e))

/-- Makes a directory with those that lead to it. -/
def makePath (v : Volume) (path : String) : Except Fault Volume :=
  let pieces := Text.pieces '/' path.toList
  let starts := (List.range pieces.length).map fun i => String.ofList (Text.joined '/' (pieces.take (i + 1)))
  starts.foldl
    (fun r start =>
      match r with
      | .error fault => .error fault
      | .ok v =>
        if start = "" ∨ v.isDirectoryAt start then .ok v
        else v.createDirectory start Volume.directoryMode)
    (.ok v)

def mkdir (g : Given) : Outcome :=
  match g.chosen? "pv" "m" [("parents", 'p'), ("mode", 'm')] with
  | none => g.fails "mkdir: invalid option" 1
  | some c =>
    if c.operands.isEmpty then g.fails "mkdir: missing operand" 1
    else eachOperand g c.operands fun v path =>
      let mode := ((c.value? 'm').bind (changedMode? 0o777 true)).getD Volume.directoryMode
      match if c.has 'p' then makePath v path else v.createDirectory path mode with
      | .ok v => changed v
      | .error fault => complain v ("mkdir: cannot create directory '" ++ path ++ "': " ++ fault.reason) 1

def rmdir (g : Given) : Outcome :=
  match g.chosen? "pv" "" [("parents", 'p')] with
  | none => g.fails "rmdir: invalid option" 1
  | some c =>
    if c.operands.isEmpty then g.fails "rmdir: missing operand" 1
    else eachOperand g c.operands fun v path =>
      match v.removeDirectory path with
      | .ok v => changed v
      | .error fault => complain v ("rmdir: failed to remove '" ++ path ++ "': " ++ fault.reason) 1

def rm (g : Given) : Outcome :=
  match g.chosen? "frRdvi" "" [("force", 'f'), ("recursive", 'r'), ("dir", 'd')] with
  | none => g.fails "rm: invalid option" 1
  | some c =>
    let force := c.has 'f'
    let recursive := c.has 'r' || c.has 'R'
    if c.operands.isEmpty then (if force then g.quits 0 else g.fails "rm: missing operand" 1)
    else eachOperand g c.operands fun v path =>
      let last := (Path.ascending path.toList).head?
      match v.find path with
      | .error .notFound | .error .notADirectory =>
        if force then changed v
        else complain v ("rm: cannot remove '" ++ path ++ "': No such file or directory") 1
      | .error fault => complain v ("rm: cannot remove '" ++ path ++ "': " ++ fault.reason) 1
      | .ok (loc, .directory _) =>
        if recursive ∧ (last = some ['.'] ∨ last = some ['.', '.'] ∨ loc = []) then
          complain v "rm: refusing to remove '.' or '..' directory" 1
        else if recursive then changed (v.removeAll loc)
        else if c.has 'd' ∧ v.isEmptyAt loc then changed (v.removeAll loc)
        else complain v ("rm: cannot remove '" ++ path ++ "': Is a directory") 1
      | .ok (_, .file _ _) =>
        match v.unlink path with
        | .ok v => changed v
        | .error fault => complain v ("rm: cannot remove '" ++ path ++ "': " ++ fault.reason) 1

/-! ### Copying and moving -/

/-- What is done for each source of a copy or a move: the path that it goes to is the target itself, or
lies inside it when that is a directory. -/
def eachSource (program : String) (g : Given) (operands : List String) (into : Option String)
    (act : Volume → String → String → Outcome) : Outcome :=
  let (sources, target) := match into with
    | some directory => (operands, some directory)
    | none => (operands.dropLast, operands.getLast?)
  match target with
  | none => g.fails (program ++ ": missing file operand") 1
  | some target =>
    if sources.isEmpty then g.fails (program ++ ": missing destination file operand after '" ++ target ++ "'") 1
    else if 1 < sources.length ∧ !g.volume.isDirectoryAt target then
      g.fails (program ++ ": target '" ++ target ++ "': No such file or directory") 1
    else eachOperand g sources fun v source =>
      act v source (if v.isDirectoryAt target then inside target (lastName source) else target)

/-- Copies a file. A file that is there keeps its mode. -/
def copyFile (v : Volume) (program source target : String) (from_ : Location) (mode : Nat) (bytes : List UInt8)
    (keepMode : Bool) : Outcome :=
  match v.openForWriting target (if keepMode then mode else mode &&& 0o755) with
  | .error fault => complain v (program ++ ": cannot create regular file '" ++ target ++ "': " ++ fault.reason) 1
  | .ok (loc, w) =>
    if loc = from_ then complain v (program ++ ": '" ++ source ++ "' and '" ++ target ++ "' are the same file") 1
    else changed ((w.setBytes loc bytes) |> fun w => if keepMode then w.setMode loc mode else w)

/-- Copies a directory with everything below it. -/
def copyTree (v : Volume) (source target : String) (from_ : Location) : Outcome :=
  match (if v.isDirectoryAt target then .ok v else v.createDirectory target Volume.directoryMode) with
  | .error fault => complain v ("cp: cannot create directory '" ++ target ++ "': " ++ fault.reason) 1
  | .ok w =>
    match w.find target with
    | .error fault => complain v ("cp: cannot stat '" ++ target ++ "': " ++ fault.reason) 1
    | .ok (dest, _) =>
      if from_.isSuffixOf dest then
        complain v ("cp: cannot copy a directory, '" ++ source ++ "', into itself, '" ++ target ++ "'") 1
      else
        let below := v.entries.filter fun (l, _) => from_.isSuffixOf l && l != from_
        changed (below.foldl (fun w (l, e) => w.insert (l.take (l.length - from_.length) ++ dest) e) w)

def cp (g : Given) : Outcome :=
  match g.chosen? "rRfpanvdLPT" "t" [("recursive", 'r'), ("force", 'f'), ("archive", 'a'), ("no-clobber", 'n'),
      ("preserve", 'p'), ("target-directory", 't')] with
  | none => g.fails "cp: invalid option" 1
  | some c => eachSource "cp" g c.operands (c.value? 't') fun v source target =>
      match v.find source with
      | .error fault => complain v ("cp: cannot stat '" ++ source ++ "': " ++ fault.reason) 1
      | .ok (loc, .directory _) =>
        if c.has 'r' || c.has 'R' || c.has 'a' then copyTree v source target loc
        else complain v ("cp: -r not specified; omitting directory '" ++ source ++ "'") 1
      | .ok (loc, .file mode bytes) =>
        if c.has 'n' && v.isThere target then changed v
        else copyFile v "cp" source target loc mode bytes (c.has 'p' || c.has 'a')

/-- A second name for a file is a copy of it here. -/
def ln (g : Given) : Outcome :=
  match g.chosen? "fv" "" [("force", 'f')] with
  | none => g.fails "ln: invalid option" 1
  | some c => eachSource "ln" g c.operands none fun v source target =>
      match v.find source with
      | .error fault => complain v ("ln: failed to access '" ++ source ++ "': " ++ fault.reason) 1
      | .ok (_, .directory _) => complain v ("ln: " ++ source ++ ": hard link not allowed for directory") 1
      | .ok (loc, .file mode bytes) =>
        if v.isThere target && !c.has 'f' then
          complain v ("ln: failed to create hard link '" ++ target ++ "': File exists") 1
        else copyFile v "ln" source target loc mode bytes true

/-- Moves a file or a directory. -/
def moveTo (v : Volume) (source target : String) (from_ : Location) (e : Entry) : Outcome :=
  match v.target target.toList with
  | .error fault => complain v ("mv: cannot move '" ++ source ++ "' to '" ++ target ++ "': " ++ fault.reason) 1
  | .ok t =>
    let dest := Name.text t.piece :: t.directory
    if !Volume.isName t.piece then complain v ("mv: cannot move '" ++ source ++ "'") 1
    else if dest = from_ then complain v ("mv: '" ++ source ++ "' and '" ++ target ++ "' are the same file") 1
    else if from_.isSuffixOf dest then
      complain v ("mv: cannot move '" ++ source ++ "' to a subdirectory of itself, '" ++ target ++ "'") 1
    else if t.slash && !e.isDirectory then
      complain v ("mv: cannot move '" ++ source ++ "' to '" ++ target ++ "': Not a directory") 1
    else match v.get? dest, e with
      | some (.directory _), .file _ _ =>
        complain v ("mv: cannot overwrite directory '" ++ target ++ "' with non-directory '" ++ source ++ "'") 1
      | some (.file _ _), .directory _ =>
        complain v ("mv: cannot overwrite non-directory '" ++ target ++ "' with directory '" ++ source ++ "'") 1
      | some (.directory _), .directory _ =>
        if v.isEmptyAt dest then changed (v.moveAll from_ dest)
        else complain v ("mv: cannot move '" ++ source ++ "' to '" ++ target ++ "': Directory not empty") 1
      | none, _ | some (.file _ _), .file _ _ => changed (v.moveAll from_ dest)

def mv (g : Given) : Outcome :=
  match g.chosen? "fnvuT" "t" [("force", 'f'), ("no-clobber", 'n'), ("target-directory", 't')] with
  | none => g.fails "mv: invalid option" 1
  | some c => eachSource "mv" g c.operands (c.value? 't') fun v source target =>
      match v.find source with
      | .error fault => complain v ("mv: cannot stat '" ++ source ++ "': " ++ fault.reason) 1
      | .ok (loc, e) => if c.has 'n' && v.isThere target then changed v else moveTo v source target loc e

/-! ### Comparing -/

/-- The number, from one on, of the first byte in which two texts differ, and of its line. -/
def firstDifference : Nat → Nat → List UInt8 → List UInt8 → Option (Nat × Nat)
  | _, _, [], _ | _, _, _, [] => none
  | n, line, a :: as, b :: bs =>
    if a = b then firstDifference (n + 1) (if a = 0x0A then line + 1 else line) as bs else some (n, line)

def cmp (g : Given) : Outcome :=
  match g.chosen? "sl" "" [("silent", 's'), ("quiet", 's')] with
  | none => g.fails "cmp: invalid option" 2
  | some c =>
    match c.operands with
    | [] => g.fails "cmp: missing operand" 2
    | a :: rest =>
      let b := rest.headD "-"
      match g.bytesOf a, g.bytesOf b with
      | .error fault, _ => g.fails ("cmp: " ++ a ++ ": " ++ fault.reason) 2
      | _, .error fault => g.fails ("cmp: " ++ b ++ ": " ++ fault.reason) 2
      | .ok x, .ok y =>
        if x = y then g.quits 0
        else if c.has 's' then g.quits 1
        else match firstDifference 1 1 x y with
          | some (n, line) =>
            g.tells (a ++ " " ++ b ++ " differ: char " ++ toString n ++ ", line " ++ toString line ++ "\n") 1
          | none => g.fails ("cmp: EOF on " ++ (if x.length < y.length then a else b)) 1

/-- Says whether files differ; how they do is not said. -/
def diff (g : Given) : Outcome :=
  match g.chosen? "qsubwaB" "" [("brief", 'q')] with
  | none => g.fails "diff: invalid option" 2
  | some c =>
    match c.operands with
    | [a, b] =>
      match g.bytesOf a, g.bytesOf b with
      | .ok x, .ok y =>
        if x = y then g.quits 0
        else if c.has 'q' then g.tells ("Files " ++ a ++ " and " ++ b ++ " differ\n") 1
        else g.quits 1
      | .error fault, _ => g.fails ("diff: " ++ a ++ ": " ++ fault.reason) 2
      | _, .error fault => g.fails ("diff: " ++ b ++ ": " ++ fault.reason) 2
    | _ => g.fails "diff: missing operand" 2

end TapeToJava.Shell.Utility
