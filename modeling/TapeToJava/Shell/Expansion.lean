import TapeToJava.Shell.Arithmetic
import TapeToJava.Shell.Pattern
import TapeToJava.Shell.Session
import TapeToJava.Shell.Utility.Entries

/-! How the parts of a word are replaced, and how the result falls apart into fields. -/

namespace TapeToJava.Shell

/-- A piece of a word whose parts have been replaced. -/
inductive Item where
  /-- A character: whether it stands for itself, and whether it can separate fields. -/
  | char (quoted separates : Bool) (c : Char)
  /-- Quotes. -/
  | quotes
  /-- The end of an argument in front of another one. -/
  | boundary (quoted : Bool)
  /-- All arguments in quotes, when there are none. -/
  | noArguments
  deriving DecidableEq, Repr

namespace Item

/-- The items of a value that takes the place of a part. -/
def ofValue (quoted : Bool) (s : String) : List Item :=
  s.toList.map (.char quoted (!quoted))

/-- The items of several arguments. -/
def ofArguments (quoted : Bool) : List String → List Item
  | [] => []
  | [a] => ofValue quoted a
  | a :: as => ofValue quoted a ++ .boundary quoted :: ofArguments quoted as

/-- Items whose characters take the place of a value, and can separate fields like it. -/
def asValue (quoted : Bool) (items : List Item) : List Item :=
  if quoted then items
  else items.map fun
    | .char false _ c => .char false true c
    | item => item

/-- The characters of items, with those that stand for themselves marked. -/
def marks (items : List Item) : List Mark :=
  items.filterMap fun
    | .char quoted _ c => some (quoted, c)
    | .boundary _ => some (true, ' ')
    | _ => none

/-- The text of items. -/
def text (items : List Item) : String :=
  String.ofList ((marks items).map (·.2))

end Item

/-! ### Fields -/

/-- The fields that have been found, and the one that is being found. -/
structure Splitting where
  fields : List (List Mark)
  current : Option (List Mark)
  /-- Whether a blank has ended the last field. -/
  closedByBlank : Bool
  /-- Whether quotes alone make no field here. -/
  mayVanish : Bool

namespace Splitting

def close (s : Splitting) : Splitting :=
  match s.current with
  | some cs => { s with fields := cs.reverse :: s.fields, current := none }
  | none => s

def add (s : Splitting) (m : Mark) : Splitting :=
  { s with current := some (m :: s.current.getD []), closedByBlank := false }

/-- Takes one item in; `separators` are the characters between fields. -/
def step (separators : List Char) (s : Splitting) : Item → Splitting
  | .quotes => { s with current := some (s.current.getD []), closedByBlank := false }
  | .noArguments => { s with mayVanish := true }
  | .boundary quoted =>
    if quoted then { ({ s with current := some (s.current.getD []) } : Splitting).close with current := some [] }
    else s.close
  | .char quoted separates c =>
    if !separates ∨ !separators.contains c then s.add (quoted, c)
    else if c = ' ' ∨ c = '\t' ∨ c = '\n' then
      if s.current.isSome then { s.close with closedByBlank := true } else s
    else if s.current.isSome then { s.close with closedByBlank := false }
    else if s.closedByBlank then { s with closedByBlank := false }
    else { s with fields := [] :: s.fields }

/-- The fields of some items. -/
def fieldsOf (separators : List Char) (items : List Item) : List (List Mark) :=
  let s := items.foldl (step separators) ⟨[], none, false, false⟩
  let s := if s.mayVanish ∧ s.current = some [] then { s with current := none } else s
  s.close.fields.reverse

end Splitting

/-! ### Names of files -/

/-- The parts of a pattern between its slashes. -/
def patternParts (cs : List Mark) : List (List Mark) :=
  cs.foldr
    (fun m parts => match parts with
      | p :: ps => if m.2 = '/' then [] :: p :: ps else (m :: p) :: ps
      | [] => [[m]])
    [[]]

/-- The paths that a pattern takes, behind a start that is there already. -/
def pathsFrom (v : Volume) : String → List (List Mark) → List String
  | start, [] => [start]
  | start, p :: ps =>
    let text := String.ofList (p.map (·.2))
    if (Pattern.ofMarks p).isProper then
      match v.find (if start = "" then "." else start) with
      | .ok (loc, .directory _) =>
        let hidden := p.head?.any (·.2 == '.')
        let names := (Utility.shownNames hidden v loc).filter fun (name, _) => (Pattern.ofMarks p).takes name
        names.flatMap fun (name, e) =>
          let path := start ++ String.ofList name
          if ps = [] then [path] else if e.isDirectory then pathsFrom v (path ++ "/") ps else []
      | _ => []
    else if ps = [] then (if text = "" ∨ v.isThere (start ++ text) then [start ++ text] else [])
    else if text = "" ∨ v.isDirectoryAt (start ++ text) then pathsFrom v (start ++ text ++ "/") ps
    else []

/-- The words of a field: the paths that it takes as a pattern, or its own text. -/
def fieldWords (s : Session) (cs : List Mark) : List String :=
  let text := String.ofList (cs.map (·.2))
  if s.has 'f' ∨ !(Pattern.ofMarks cs).isProper then [text]
  else
    let paths := pathsFrom s.world.volume "" (patternParts cs)
    if paths.isEmpty then [text] else paths.mergeSort fun a b => !(b < a)

/-! ### Parts -/

/-- Bytes without the line feeds at their end. -/
def withoutFeeds (bytes : List UInt8) : List UInt8 :=
  (bytes.reverse.dropWhile (· == 0x0A)).reverse

/-- What replaces the parts of a word; `run` runs the commands whose output becomes part of it. -/
def expandParts (run : List Command → Act Unit) : Nat → List Part → Act (List Item)
  | 0, _ | _, [] => pure []
  | fuel + 1, p :: ps => do
    let items ← match p with
      | .char quoted c => pure [Item.char quoted false c]
      | .quotes => pure [.quotes]
      | .output quoted commands => do
        let (bytes, status) ← Session.outputOf (Session.untested (run commands))
        Session.update fun s => { s with captured := some status }
        pure (Item.ofValue quoted (Text.Utf8.decode ((withoutFeeds bytes).filter (· != 0))))
      | .sum quoted expression => do
        let text := Item.text (← expandParts run fuel expression)
        let s ← get
        let values := s.bindings.filterMap fun (name, v) => v.value.map fun x => (name, x)
        match (Arithmetic.read? text.toList).bind (·.value? values) with
        | none => Session.fail ("arithmetic expression: " ++ text)
        | some (n, changed) => do
          for (name, value) in (changed.take (changed.length - values.length)).reverse do
            Session.assign name value
          pure (Item.ofValue quoted (toString n))
      | .parameter quoted name use word => do
        let s ← get
        let value := s.parameter? name
        let here : List Item :=
          if name = "@" then
            if s.arguments.isEmpty then (if quoted then [.noArguments] else [])
            else Item.ofArguments quoted s.arguments
          else if name = "*" ∧ !quoted then Item.ofArguments false s.arguments
          else Item.ofValue quoted (value.getD "")
        let isThere (orEmpty : Bool) : Bool := value.any fun x => !orEmpty || x != ""
        match use with
        | .value =>
          if value.isNone ∧ s.has 'u' ∧ name ≠ "@" ∧ name ≠ "*" then
            Session.fail (name ++ ": parameter not set")
          else pure here
        | .length => pure (Item.ofValue quoted (toString (value.getD "").utf8ByteSize))
        | .fallback orEmpty => 
          if isThere orEmpty then pure here else do pure (Item.asValue quoted (← expandParts run fuel word))
        | .replace orEmpty => 
          if isThere orEmpty then do pure (Item.asValue quoted (← expandParts run fuel word)) else pure []
        | .assign orEmpty =>
          if isThere orEmpty then pure here
          else do
            let text := Item.text (← expandParts run fuel word)
            Session.assign name text
            pure (Item.ofValue quoted text)
        | .require orEmpty =>
          if isThere orEmpty then pure here
          else do
            let text := Item.text (← expandParts run fuel word)
            Session.fail (name ++ ": " ++ (if text = "" then "parameter not set" else text))
        | .cutEnd longest => do
          let pattern := Pattern.ofMarks (Item.marks (← expandParts run fuel word))
          pure (Item.ofValue quoted (String.ofList (pattern.cutEnd longest (value.getD "").toList)))
        | .cutStart longest => do
          let pattern := Pattern.ofMarks (Item.marks (← expandParts run fuel word))
          pure (Item.ofValue quoted (String.ofList (pattern.cutStart longest (value.getD "").toList)))
    return items ++ (← expandParts run fuel ps)

/-- Enough fuel to replace the parts of words; words inside words need some of it, too. -/
def expansionFuel : Nat := 1000000

/-- A word with the home directory in place of a tilde at its start. -/
def withHome (s : Session) : List Part → List Part
  | .char false '~' :: rest =>
    match rest.head? with
    | none | some (.char false '/') => plainWord true ((s.value? "HOME").getD "~").toList ++ rest
    | _ => .char false '~' :: rest
  | word => word

/-- The text of a word, which stays one. -/
def expandText (run : List Command → Act Unit) (word : List Part) : Act String := do
  return Item.text (← expandParts run expansionFuel (withHome (← get) word))

/-- The pattern that a word spells. -/
def expandPattern (run : List Command → Act Unit) (word : List Part) : Act Pattern := do
  return Pattern.ofMarks (Item.marks (← expandParts run expansionFuel (withHome (← get) word)))

/-- The words that a word becomes. -/
def expandWord (run : List Command → Act Unit) (word : List Part) : Act (List String) := do
  let items ← expandParts run expansionFuel (withHome (← get) word)
  let s ← get
  return (Splitting.fieldsOf s.separators items).flatMap (fieldWords s)

/-- The words that several words become. -/
def expandWords (run : List Command → Act Unit) (words : List (List Part)) : Act (List String) := do
  return (← words.mapM (expandWord run)).flatten

end TapeToJava.Shell
