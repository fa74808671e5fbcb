/-! Patterns for names and words: `*` stands for any text, `?` for a character, brackets for one of
several. -/

namespace TapeToJava.Shell

/-- A piece of a pattern. -/
inductive Piece where
  | char (c : Char)
  | anyChar
  | anyText
  /-- A character from some ranges, or else one from outside them. -/
  | oneOf (negated : Bool) (ranges : List (Char × Char))
  deriving DecidableEq, Repr

/-- A character of a word, and whether it stands for itself only. -/
abbrev Mark := Bool × Char

namespace Piece

/-- The ranges of a class that has a name. -/
def classRanges (name : String) : List (Char × Char) :=
  match name with
  | "alpha" => [('a', 'z'), ('A', 'Z')]
  | "digit" => [('0', '9')]
  | "alnum" => [('a', 'z'), ('A', 'Z'), ('0', '9')]
  | "upper" => [('A', 'Z')]
  | "lower" => [('a', 'z')]
  | "space" => [(' ', ' '), ('\t', '\r')]
  | "blank" => [(' ', ' '), ('\t', '\t')]
  | "punct" => [('!', '/'), (':', '@'), ('[', '\x60'), ('\x7b', '~')]
  | "print" => [(' ', '~')]
  | "graph" => [('!', '~')]
  | "cntrl" => [('\x00', '\x1f'), ('\x7f', '\x7f')]
  | "xdigit" => [('0', '9'), ('a', 'f'), ('A', 'F')]
  | _ => []

/-- The ranges between brackets, and what follows the closing one. The fuel bounds their number. -/
def rangesTo? : Nat → Bool → List Mark → Option (List (Char × Char) × List Mark)
  | 0, _, _ => none
  | _ + 1, _, [] => none
  | fuel + 1, first, (quoted, c) :: rest =>
    if c = ']' ∧ !quoted ∧ !first then some ([], rest)
    else if c = '[' ∧ (rest.head?.map (·.2)) = some ':' then
      let name := rest.tail.takeWhile (·.2 ≠ ':')
      match rest.tail.drop name.length with
      | _ :: (_, ']') :: rest =>
        (rangesTo? fuel false rest).map fun (rs, rest) =>
          (classRanges (String.ofList (name.map (·.2))) ++ rs, rest)
      | _ => (rangesTo? fuel false rest).map fun (rs, rest) => ((c, c) :: rs, rest)
    else match rest with
      | (false, '-') :: (quoted, last) :: behind =>
        if last = ']' ∧ !quoted then (rangesTo? fuel false rest).map fun (rs, rest) => ((c, c) :: rs, rest)
        else (rangesTo? fuel false behind).map fun (rs, rest) => ((c, last) :: rs, rest)
      | _ => (rangesTo? fuel false rest).map fun (rs, rest) => ((c, c) :: rs, rest)

/-- A bracketed piece, from behind the opening bracket. -/
def brackets? (cs : List Mark) : Option (Piece × List Mark) :=
  match cs with
  | (false, '!') :: rest | (false, '^') :: rest =>
    (rangesTo? (rest.length + 1) true rest).map fun (rs, rest) => (.oneOf true rs, rest)
  | _ => (rangesTo? (cs.length + 1) true cs).map fun (rs, rest) => (.oneOf false rs, rest)

/-- Whether a piece takes a character. -/
def takes (p : Piece) (c : Char) : Bool :=
  match p with
  | char d => c = d
  | anyChar => true
  | anyText => false
  | oneOf negated ranges => ranges.any (fun (a, b) => a ≤ c && c ≤ b) != negated

end Piece

/-- A pattern. -/
abbrev Pattern := List Piece

namespace Pattern

/-- Reads a pattern. The fuel bounds its length. -/
def read : Nat → List Mark → Pattern
  | 0, _ => []
  | _ + 1, [] => []
  | fuel + 1, (true, c) :: rest => .char c :: read fuel rest
  | fuel + 1, (false, c) :: rest =>
    if c = '*' then .anyText :: read fuel rest
    else if c = '?' then .anyChar :: read fuel rest
    else if c = '[' then
      match Piece.brackets? rest with
      | some (p, rest) => p :: read fuel rest
      | none => .char c :: read fuel rest
    else .char c :: read fuel rest

/-- The pattern that some characters spell. -/
def ofMarks (cs : List Mark) : Pattern :=
  read (cs.length + 1) cs

/-- The ends of a text, the whole text first. -/
def ends : List Char → List (List Char)
  | [] => [[]]
  | c :: cs => (c :: cs) :: ends cs

/-- Whether a pattern takes a whole text. -/
def takes : Pattern → List Char → Bool
  | [], cs => cs.isEmpty
  | .anyText :: ps, cs => (ends cs).any (takes ps)
  | _ :: _, [] => false
  | p :: ps, c :: cs => p.takes c && takes ps cs

/-- A text without the start that a pattern takes. -/
def cutStart (p : Pattern) (longest : Bool) (cs : List Char) : List Char :=
  let cuts := (List.range (cs.length + 1)).filter fun n => takes p (cs.take n)
  match if longest then cuts.getLast? else cuts.head? with
  | some n => cs.drop n
  | none => cs

/-- A text without the end that a pattern takes. -/
def cutEnd (p : Pattern) (longest : Bool) (cs : List Char) : List Char :=
  let cuts := (List.range (cs.length + 1)).filter fun n => takes p (cs.drop n)
  match if longest then cuts.head? else cuts.getLast? with
  | some n => cs.take n
  | none => cs

/-- Whether a pattern is more than a text. -/
def isProper (p : Pattern) : Bool :=
  p.any fun
    | .char _ => false
    | _ => true

end Pattern

end TapeToJava.Shell
