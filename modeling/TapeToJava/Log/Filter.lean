import TapeToJava.Log.Event
import TapeToJava.Text.Numeric
import TapeToJava.Text.Slice

/-! Log filters: lists of directives, each a level for the targets that begin with some text, and for
the events that carry some value. The closest directive decides. -/

namespace TapeToJava.Log

/-- A level for some of the events. -/
structure Directive where
  /-- How the targets begin; without it, the directive is for all targets. -/
  target : Option (List Char)
  /-- The name of a value that an event has to carry. -/
  field : Option String
  /-- Whether the directive is for what happens inside a named or valued span. Events stand alone here,
  so it is for none of them. -/
  inSpans : Bool
  /-- The greatest rank of the events that are let through. -/
  rank : Nat
  deriving DecidableEq, Repr

/-- The rank of a level given by its number or by its name in any case. -/
def rankOf? (cs : List Char) : Option Nat :=
  let digits := match cs with
    | '+' :: rest => rest
    | _ => cs
  if digits ≠ [] ∧ digits.all Char.isDigit then
    let n := digits.foldl (fun n d => 10 * n + (d.toNat - 48)) 0
    if n ≤ 5 then some n else none
  else match String.ofList (cs.map Char.toLower) with
    | "error" => some 1
    | "warn" => some 2
    | "info" => some 3
    | "debug" => some 4
    | "trace" => some 5
    | "off" => some 0
    | _ => none

namespace Directive

/-- The rank of a directive that names no level. -/
def fullRank : Nat := 5

/-- The rank behind the rest of a directive: nothing but blanks, or a sign and a level. -/
def rankBehind? : List Char → Option Nat
  | '=' :: level => if level = [] then some fullRank else rankOf? level
  | rest => if rest.all Text.isBlank then some fullRank else none

/-- Reads a directive from behind the bracket that opens its span. The span has a name, or braces around
the name of a value, or both. -/
def ofSpan? (target : Option (List Char)) (cs : List Char) : Option Directive :=
  let name := cs.takeWhile fun c => c != ']' && c != '\x7b'
  match cs.drop name.length with
  | ']' :: rest => (rankBehind? rest).map fun rank => ⟨target, none, true, rank⟩
  | _ :: cs =>
    let field := cs.takeWhile (· != '\x7d')
    match cs.drop field.length with
    | _ :: ']' :: rest =>
      if field = [] then none
      else (rankBehind? rest).map fun rank =>
        ⟨target, some (String.ofList field), name ≠ [] || field.contains '=', rank⟩
    | _ => none
  | [] => none

/-- Reads a directive: a level, a target with its level, or a target alone, which lets everything
through. A span may stand behind a target or alone. A blank in front of a directive is not allowed. -/
def ofText? : List Char → Option Directive
  | [] => none
  | '[' :: cs => ofSpan? none cs
  | c :: cs =>
    if !(Text.isAlphanumeric c || c == '-' || c == ':' || c == '_') then none
    else
      let name := (c :: cs).takeWhile fun c => c != '=' && c != '['
      match (c :: cs).drop name.length with
      | [] => match rankOf? name with
        | some rank => some ⟨none, none, false, rank⟩
        | none => some ⟨some name, none, false, fullRank⟩
      | '[' :: rest => ofSpan? (some name) rest
      | rest => (rankBehind? rest).map fun rank => ⟨some name, none, false, rank⟩

/-- Whether a directive is for the events of a target that carry some values. -/
def holds (d : Directive) (target : List Char) (names : List String) : Bool :=
  !d.inSpans && (d.target.all (·.isPrefixOf target) && d.field.all names.contains)

/-- How much of a target a directive names. -/
def reach (d : Directive) : Nat :=
  match d.target with
  | none => 0
  | some start => Text.byteLength start + 1

/-- Whether a directive is at least as close as another one: by the length of its target, then by
whether it names a value, then by the name of the value. -/
def isAsClose (d other : Directive) : Bool :=
  if d.reach ≠ other.reach then other.reach < d.reach
  else match other.field, d.field with
    | none, _ => true
    | some _, none => false
    | some theirs, some ours => !(ours < theirs)

end Directive

/-- The directives of a filter, in the order in which they are given. -/
structure Filter where
  directives : List Directive
  deriving DecidableEq, Repr

namespace Filter

/-- Reads a filter. Directives that cannot be read are left out; when none is left, errors alone are let
through. -/
def ofText (s : String) : Filter :=
  match (Text.pieces ',' s.toList).filterMap Directive.ofText? with
  | [] => ⟨[⟨none, none, false, Level.error.rank⟩]⟩
  | ds => ⟨ds⟩

/-- The closer of two directives; of equally close ones the second. -/
def closer (best : Option Directive) (d : Directive) : Option Directive :=
  match best with
  | none => some d
  | some b => if d.isAsClose b then some d else some b

/-- The directive that decides about an event. -/
def deciding? (f : Filter) (target : String) (e : Event) : Option Directive :=
  (f.directives.filter (·.holds target.toList e.names)).foldl closer none

/-- Whether an event passes; `targets` gives the target of each area. -/
def admits (f : Filter) (targets : Area → String) (e : Event) : Bool :=
  (f.deciding? (targets e.area) e).any fun d => e.level.rank ≤ d.rank

/-- The lines of the events that pass. -/
def lines (f : Filter) (targets : Area → String) (events : List Event) : List String :=
  (events.filter (f.admits targets)).flatMap Event.lines

end Filter

end TapeToJava.Log
