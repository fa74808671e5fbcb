import TapeToJava.Shell.Pattern

/-! Regular expressions for the lines of a text, in the basic and in the extended notation. -/

namespace TapeToJava.Shell

/-- A regular expression. -/
inductive Regex where
  | nothing
  | one (p : Piece)
  | lineStart
  | lineEnd
  /-- A place where a word stands on these sides and on no other. -/
  | edge (before after : Bool)
  | sequence (a b : Regex)
  | choice (a b : Regex)
  /-- Between two numbers of repetitions; without the second one, there is no upper bound. -/
  | repeated (least : Nat) (most : Option Nat) (a : Regex)
  /-- An expression whose text is kept under a number. -/
  | group (number : Nat) (a : Regex)
  /-- The text that was kept under a number. -/
  | same (number : Nat)
  deriving DecidableEq, Repr

namespace Regex

/-! ### Reading -/

/-- What may stand behind an atom: how often it is repeated. -/
abbrev Count := Nat × Option Nat

/-- The number that some digits spell. -/
def numberOf (ds : List Char) : Nat :=
  ds.foldl (fun n d => 10 * n + (d.toNat - 48)) 0

/-- A count in braces, from behind the opening one, and what follows it. -/
def countTo? (extended : Bool) (cs : List Char) : Option (Count × List Char) :=
  let least := cs.takeWhile Char.isDigit
  let rest := cs.drop least.length
  let close (rest : List Char) : Option (List Char) :=
    match extended, rest with
    | true, '\x7d' :: rest => some rest
    | false, '\\' :: '\x7d' :: rest => some rest
    | _, _ => none
  match rest with
  | ',' :: rest =>
    let most := rest.takeWhile Char.isDigit
    (close (rest.drop most.length)).map fun rest =>
      ((numberOf least, if most = [] then none else some (numberOf most)), rest)
  | rest =>
    if least = [] then none
    else (close rest).map fun rest => ((numberOf least, some (numberOf least)), rest)

/-- How often the atom in front of a text is repeated, and what follows. -/
def count? (extended : Bool) : List Char → Option (Count × List Char)
  | '*' :: rest => some ((0, none), rest)
  | '+' :: rest => if extended then some ((1, none), rest) else none
  | '?' :: rest => if extended then some ((0, some 1), rest) else none
  | '\x7b' :: rest => if extended then countTo? true rest else none
  | '\\' :: '+' :: rest => if extended then none else some ((1, none), rest)
  | '\\' :: '?' :: rest => if extended then none else some ((0, some 1), rest)
  | '\\' :: '\x7b' :: rest => if extended then none else countTo? false rest
  | _ => none

/-- Repeats an atom as often as is said behind it. -/
def counted (extended : Bool) : Nat → Regex → List Char → Regex × List Char
  | 0, a, cs => (a, cs)
  | fuel + 1, a, cs =>
    match count? extended cs with
    | some ((least, most), rest) => counted extended fuel (.repeated least most a) rest
    | none => (a, cs)

/-- The text behind a sign that has a backslash in one of the notations. -/
def sign? (extended : Bool) (c : Char) : List Char → Option (List Char)
  | '\\' :: d :: rest => if !extended ∧ c = d then some rest else none
  | d :: rest => if extended ∧ c = d then some rest else none
  | [] => none

/-- The characters of words. -/
def wordRanges : List (Char × Char) :=
  [('a', 'z'), ('A', 'Z'), ('0', '9'), ('_', '_')]

/-- What a letter or another character stands for behind a backslash. -/
def escaped (c : Char) : Regex :=
  if c = 'w' then .one (.oneOf false wordRanges)
  else if c = 'W' then .one (.oneOf true wordRanges)
  else if c = '<' then .edge false true
  else if c = '>' then .edge true false
  else if c = 'b' then .choice (.edge false true) (.edge true false)
  else if c = 'B' then .choice (.edge true true) (.edge false false)
  else if c = 's' then .one (.oneOf false [(' ', ' '), ('\t', '\r')])
  else if c = 'S' then .one (.oneOf true [(' ', ' '), ('\t', '\r')])
  else if c = 'n' then .one (.char '\n')
  else if c = 't' then .one (.char '\t')
  else if c.isDigit ∧ c ≠ '0' then .same (c.toNat - 48)
  else .one (.char c)

mutual

/-- Reads alternatives; the number is that of the next group. -/
def alternatives : Nat → Bool → Nat → List Char → Option (Regex × Nat × List Char)
  | 0, _, _, _ => none
  | fuel + 1, extended, n, cs =>
    match concatenation fuel extended true n cs with
    | none => none
    | some (a, n, rest) =>
      match sign? extended '|' rest with
      | some rest => (alternatives fuel extended n rest).map fun (b, n, rest) => (.choice a b, n, rest)
      | none => some (a, n, rest)

/-- Reads atoms up to the end of an alternative. -/
def concatenation : Nat → Bool → Bool → Nat → List Char → Option (Regex × Nat × List Char)
  | 0, _, _, _, _ => none
  | _ + 1, _, _, n, [] => some (.nothing, n, [])
  | fuel + 1, extended, first, n, c :: cs =>
    let more (a : Regex) (n : Nat) (rest : List Char) : Option (Regex × Nat × List Char) :=
      let (a, rest) := counted extended fuel a rest
      (concatenation fuel extended false n rest).map fun (b, n, rest) => (.sequence a b, n, rest)
    if (sign? extended '|' (c :: cs)).isSome ∨ (sign? extended ')' (c :: cs)).isSome then
      some (.nothing, n, c :: cs)
    else match sign? extended '(' (c :: cs) with
      | some rest =>
        match alternatives fuel extended (n + 1) rest with
        | none => none
        | some (a, m, rest) =>
          match sign? extended ')' rest with
          | some rest => more (.group n a) m rest
          | none => none
      | none =>
        if c = '\\' then match cs with
          | d :: rest => more (escaped d) n rest
          | [] => none
        else if c = '.' then more (.one .anyChar) n cs
        else if c = '^' ∧ (extended ∨ first) then
          (concatenation fuel extended (!extended) n cs).map fun (b, n, rest) => (.sequence .lineStart b, n, rest)
        else if c = '$' ∧
            (extended ∨ cs = [] ∨ (sign? extended ')' cs).isSome ∨ (sign? extended '|' cs).isSome) then
          more .lineEnd n cs
        else if c = '[' then
          match Piece.brackets? (cs.map fun c => (false, c)) with
          | some (p, rest) => more (.one p) n (rest.map (·.2))
          | none => none
        else more (.one (.char c)) n cs

end

/-- Reads an expression; `none` when it is malformed. -/
def ofText? (extended : Bool) (cs : List Char) : Option Regex :=
  match alternatives (4 * cs.length + 8) extended 1 cs with
  | some (a, _, []) => some a
  | _ => none

/-- The expression for a text that stands for itself. -/
def ofPlain : List Char → Regex
  | [] => .nothing
  | c :: cs => .sequence (.one (.char c)) (ofPlain cs)

/-! ### Matching -/

/-- A place in a line: whether it is the start, what is in front of the next character, nearest first,
and what follows; and the texts that were kept. -/
structure Place where
  before : List Char
  after : List Char
  kept : List (Nat × List Char)
  deriving DecidableEq, Repr

/-- Whether a piece takes a character when case may not matter. -/
def takesChar (anyCase : Bool) (p : Piece) (c : Char) : Bool :=
  p.takes c || (anyCase && (p.takes c.toLower || p.takes c.toUpper))

/-- A place behind a text that has to come next. -/
def Place.behind? (pl : Place) (text : List Char) : Option Place :=
  if text.isPrefixOf pl.after then
    some { pl with before := text.reverse ++ pl.before, after := pl.after.drop text.length }
  else none

/-- Whether a character belongs to a word. -/
def isWordChar (c : Char) : Bool := c.isAlphanum || c == '_'

/-- The longer one of two matches; the first one when they are equally long. -/
def longer (a b : Option Place) : Option Place :=
  match a, b with
  | some x, some y => if y.after.length < x.after.length then some y else some x
  | a, b => a.or b

/-- The place behind an expression from which the rest of a match succeeds: longer repetitions come
first, and of alternatives the one with the longer match. The fuel bounds the number of steps one behind
another. -/
def run (anyCase : Bool) : Nat → Regex → Place → (Place → Option Place) → Option Place
  | 0, _, _, _ => none
  | fuel + 1, r, pl, rest =>
    match r with
    | nothing => rest pl
    | one p =>
      match pl.after with
      | c :: cs =>
        if takesChar anyCase p c then rest { pl with before := c :: pl.before, after := cs } else none
      | [] => none
    | lineStart => if pl.before = [] then rest pl else none
    | lineEnd => if pl.after = [] then rest pl else none
    | edge before after =>
      if pl.before.head?.any isWordChar = before ∧ pl.after.head?.any isWordChar = after then rest pl else none
    | sequence a b => run anyCase fuel a pl fun pl => run anyCase fuel b pl rest
    | choice a b => longer (run anyCase fuel a pl rest) (run anyCase fuel b pl rest)
    | repeated least most a =>
      let again : Option Place :=
        if most = some 0 then none
        else run anyCase fuel a pl fun next =>
          if next.after.length = pl.after.length ∧ least = 0 then none
          else run anyCase fuel (.repeated (least - 1) (most.map (· - 1)) a) next rest
      if least = 0 then again.or (rest pl) else again
    | group number a =>
      run anyCase fuel a pl fun next =>
        let text := (next.before.take (pl.after.length - next.after.length)).reverse
        rest { next with kept := (number, text) :: next.kept }
    | same number =>
      match pl.behind? ((pl.kept.lookup number).getD []) with
      | some next => rest next
      | none => none

/-- The place behind a match that starts at a place. -/
def matchAt? (anyCase : Bool) (r : Regex) (pl : Place) : Option Place :=
  run anyCase (64 * (pl.after.length + 16)) r { pl with kept := [] } some

/-- The first match from a place on: the place at its start and the one behind it. -/
def search? (anyCase : Bool) (r : Regex) : Nat → Place → Option (Place × Place)
  | 0, _ => none
  | fuel + 1, pl =>
    match matchAt? anyCase r pl with
    | some stop => some (pl, stop)
    | none =>
      match pl.after with
      | [] => none
      | c :: cs => search? anyCase r fuel { pl with before := c :: pl.before, after := cs }

/-- The first match in a line. -/
def find? (anyCase : Bool) (r : Regex) (line : List Char) : Option (Place × Place) :=
  search? anyCase r (line.length + 1) ⟨[], line, []⟩

end Regex

end TapeToJava.Shell
