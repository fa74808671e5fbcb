import TapeToJava.Shell.Pattern
import TapeToJava.Shell.Utility.Lines

/-! Programs that change the lines or characters of a text: sorting, cutting, replacing. -/

namespace TapeToJava.Shell.Utility

/-! ### Order -/

/-- Whether one text comes before another, byte by byte. -/
def bytesLe : List UInt8 → List UInt8 → Bool
  | [], _ => true
  | _ :: _, [] => false
  | a :: as, b :: bs => if a = b then bytesLe as bs else a < b

/-- The number at the start of a line; zero when there is none. -/
def leadingNumber (l : List UInt8) : Int :=
  let cs := (Text.Utf8.decode l).toList.dropWhile fun c => c == ' ' || c == '\t'
  match cs with
  | '-' :: ds => -((ds.takeWhile Char.isDigit).foldl (fun n d => 10 * n + (d.toNat - 48)) 0 : Nat)
  | ds => ((ds.takeWhile Char.isDigit).foldl (fun n d => 10 * n + (d.toNat - 48)) 0 : Nat)

/-- Lines without those that equal the one in front of them. -/
def withoutRepeats (same : List UInt8 → List UInt8 → Bool) : List (List UInt8) → List (List UInt8)
  | [] => []
  | l :: ls =>
    match withoutRepeats same ls with
    | [] => [l]
    | m :: ms => if same l m then l :: ms else l :: m :: ms

def sort (g : Given) : Outcome :=
  match g.chosen? "rnubfs" "ot" [("reverse", 'r'), ("numeric-sort", 'n'), ("unique", 'u'), ("output", 'o')] with
  | none => g.fails "sort: invalid option" 2
  | some c =>
    let run := eachFile "sort" g c.operands fun _ bytes => ((byteLines bytes).map withFeed).flatten
    if run.code ≠ 0 then { run with printed := [], code := 2 }
    else
      let capital (b : UInt8) : UInt8 := if 0x61 ≤ b && b ≤ 0x7A then b - 32 else b
      let folded (l : List UInt8) := if c.has 'f' then l.map capital else l
      let textLe (a b : List UInt8) := if folded a = folded b then bytesLe a b else bytesLe (folded a) (folded b)
      let le (a b : List UInt8) : Bool :=
        if c.has 'n' then
          if leadingNumber a = leadingNumber b then textLe a b else leadingNumber a < leadingNumber b
        else textLe a b
      let ls := (byteLines run.printed).map withoutFeed
      let ls := if c.has 'r' then ls.mergeSort fun a b => le b a else ls.mergeSort le
      let same (a b : List UInt8) : Bool :=
        if c.has 'n' then leadingNumber a == leadingNumber b else folded a == folded b
      let ls := if c.has 'u' then withoutRepeats same ls else ls
      let bytes := (ls.map withFeed).flatten
      match c.value? 'o' with
      | none => { run with printed := bytes }
      | some path =>
        match g.volume.openForWriting path 0o644 with
        | .error fault => g.fails ("sort: open failed: " ++ path ++ ": " ++ fault.reason) 2
        | .ok (loc, v) => { run with printed := [], volume := v.setBytes loc bytes }

/-- Groups of equal lines in a row, with their sizes. -/
def runsOf : List (List UInt8) → List (Nat × List UInt8)
  | [] => []
  | l :: ls =>
    match runsOf ls with
    | [] => [(1, l)]
    | (n, m) :: rest => if l = m then (n + 1, l) :: rest else (1, l) :: (n, m) :: rest

def uniq (g : Given) : Outcome :=
  match g.chosen? "cdu" "" [("count", 'c'), ("repeated", 'd'), ("unique", 'u')] with
  | none => g.fails "uniq: invalid option" 1
  | some c =>
    eachFile "uniq" g c.operands fun _ bytes =>
      let groups := runsOf ((byteLines bytes).map withFeed)
      let groups := if c.has 'd' then groups.filter fun x => 1 < x.1 else groups
      let groups := if c.has 'u' then groups.filter fun x => x.1 == 1 else groups
      groups.flatMap fun (n, l) =>
        if c.has 'c' then Text.Utf8.encode (padLeft 7 (toString n) ++ " ") ++ l else l

/-! ### Columns -/

/-- A range of positions; without an end, it has none. -/
def range? (s : String) : Option (Nat × Option Nat) :=
  match Text.pieces '-' s.toList with
  | [a] => (decimal? (String.ofList a)).map fun n => (n, some n)
  | [a, b] =>
    let low := if a = [] then some 1 else decimal? (String.ofList a)
    match low, decimal? (String.ofList b) with
    | some n, some m => if n ≤ m then some (n, some m) else none
    | some n, none => if b = [] ∧ a ≠ [] then some (n, none) else none
    | none, _ => none
  | _ => none

/-- The ranges of a list with commas. -/
def ranges? (s : String) : Option (List (Nat × Option Nat)) :=
  (Text.pieces ',' s.toList).mapM fun p => range? (String.ofList p)

def inRanges (ranges : List (Nat × Option Nat)) (n : Nat) : Bool :=
  ranges.any fun (low, high) => low ≤ n && high.all (n ≤ ·)

/-- The items whose positions, from one on, are in some ranges. -/
def chosenItems {α : Type} (ranges : List (Nat × Option Nat)) (items : List α) : List α :=
  ((List.range items.length).zip items).filterMap fun (i, x) => if inRanges ranges (i + 1) then some x else none

def cut (g : Given) : Outcome :=
  match g.chosen? "sn" "bcfd" [("delimiter", 'd'), ("fields", 'f'), ("characters", 'c'), ("bytes", 'b')] with
  | none => g.fails "cut: invalid option" 1
  | some c =>
    let delimiter := ((c.value? 'd').bind (·.toList.head?)).getD '\t'
    match c.value? 'f', (c.value? 'c').or (c.value? 'b') with
    | some spec, none =>
      match ranges? spec with
      | none => g.fails "cut: invalid field value" 1
      | some ranges => eachFile "cut" g c.operands fun _ bytes =>
          (byteLines bytes).flatMap fun l =>
            let cs := (Text.Utf8.decode (withoutFeed l)).toList
            if cs.contains delimiter then
              let chosen := Text.joined delimiter (chosenItems ranges (Text.pieces delimiter cs))
              Text.Utf8.encode (String.ofList (chosen ++ ['\n']))
            else if c.has 's' then [] else withFeed l
    | none, some spec =>
      match ranges? spec with
      | none => g.fails "cut: invalid position" 1
      | some ranges => eachFile "cut" g c.operands fun _ bytes =>
          (byteLines bytes).flatMap fun l => chosenItems ranges (withoutFeed l) ++ [0x0A]
    | _, _ => g.fails "cut: you must specify a list of bytes, characters, or fields" 1

/-! ### Characters -/

/-- A character that a backslash spells, and what follows it. -/
def escapedChar : List Char → Char × List Char
  | [] => ('\\', [])
  | c :: cs =>
    if c = 'n' then ('\n', cs)
    else if c = 't' then ('\t', cs)
    else if c = 'r' then ('\r', cs)
    else if c = 'a' then ('\x07', cs)
    else if c = 'b' then ('\x08', cs)
    else if c = 'f' then ('\x0c', cs)
    else if c = 'v' then ('\x0b', cs)
    else if '0' ≤ c ∧ c ≤ '7' then
      let ds := (c :: cs).take 3 |>.takeWhile fun d => '0' ≤ d && d ≤ '7'
      (Char.ofNat (ds.foldl (fun n d => 8 * n + (d.toNat - 48)) 0), (c :: cs).drop ds.length)
    else (c, cs)

/-- The characters from one to another. -/
def charsFrom (a b : Char) : List Char :=
  (List.range (b.toNat + 1 - a.toNat)).map fun i => Char.ofNat (a.toNat + i)

/-- The characters of a set: single ones, ranges and classes. -/
def charSet : Nat → List Char → List Char
  | 0, _ | _, [] => []
  | fuel + 1, c :: cs =>
    if c = '[' ∧ cs.head? = some ':' then
      let name := cs.tail.takeWhile (· != ':')
      match cs.tail.drop name.length with
      | ':' :: ']' :: rest =>
        (Piece.classRanges (String.ofList name)).flatMap (fun (a, b) => charsFrom a b) ++ charSet fuel rest
      | _ => c :: charSet fuel cs
    else
      let (first, rest) := if c = '\\' then escapedChar cs else (c, cs)
      match rest with
      | '-' :: last :: rest =>
        let (last, rest) := if last = '\\' then escapedChar rest else (last, rest)
        charsFrom first last ++ charSet fuel rest
      | _ => first :: charSet fuel rest

/-- Characters without those of a set that equal the one in front of them. -/
def squeezeChars (set : List Char) : Option Char → List Char → List Char
  | _, [] => []
  | last, c :: cs =>
    if last = some c ∧ set.contains c then squeezeChars set last cs else c :: squeezeChars set (some c) cs

def tr (g : Given) : Outcome :=
  match Chosen.ofArgs? ⟨"cCds".toList, [], [("delete", 'd'), ("squeeze-repeats", 's'), ("complement", 'c')], false⟩
      (g.args.length + 1) g.args with
  | none => g.fails "tr: invalid option" 1
  | some c =>
    let complement := c.has 'c' || c.has 'C'
    let cs := (Text.Utf8.decode g.input).toList
    let sets := c.operands.map fun s => charSet (s.length + 1) s.toList
    let isIn (set : List Char) (d : Char) := set.contains d != complement
    let finish (cs : List Char) : Outcome :=
      { g.prints (Text.Utf8.encode (String.ofList cs)) 0 with hasRead := true }
    match sets, c.has 'd', c.has 's' with
    | [set], true, false => finish (cs.filter fun d => !isIn set d)
    | [set], false, true => finish (squeezeChars (if complement then cs.filter (isIn set) else set) none cs)
    | [set, squeeze], true, true => finish (squeezeChars squeeze none (cs.filter fun d => !isIn set d))
    | [set, others], false, squeeze =>
      let last := others.getLast?
      let replace (d : Char) : Char :=
        if complement then (if set.contains d then d else last.getD d)
        else match set.idxOf? d with
          | none => d
          | some i => (others[i]?).getD (last.getD d)
      let changed := cs.map replace
      finish (if squeeze then squeezeChars others none changed else changed)
    | _, _, _ => g.fails "tr: missing or extra operand" 1

/-! ### Copies -/

/-- Prints the input, and writes it to each file. -/
def tee (g : Given) : Outcome :=
  match g.chosen? "ai" "" [("append", 'a')] with
  | none => g.fails "tee: invalid option" 1
  | some c =>
    let run := c.operands.foldl
      (fun (o : Outcome) path =>
        match o.volume.openForWriting path 0o644 with
        | .error fault => { o with complaint := o.complaint ++ complaintOn "tee" path fault, code := 1 }
        | .ok (loc, v) =>
          let old := if c.has 'a' then v.bytesAt loc else []
          { o with volume := v.setBytes loc (old ++ g.input) })
      (g.prints g.input 0)
    { run with hasRead := true }

end TapeToJava.Shell.Utility
