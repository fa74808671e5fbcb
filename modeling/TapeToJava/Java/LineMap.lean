import TapeToJava.Operator
import TapeToJava.Source.Span

/-! The map from lines of a Java class back to the source. A line is looked up by bisection, which
relies on the entries being in ascending order of their lines. -/

namespace TapeToJava.Java

/-- A Java line, and the operator that it was made from. -/
structure LineEntry where
  javaLine : UInt32
  operator : Operator
  span : Span
  deriving DecidableEq, Repr

/-- The map of one class. -/
structure LineMap where
  /-- The name of the source file. -/
  source : String
  className : String
  entries : List LineEntry
  deriving DecidableEq, Repr

namespace LineMap

/-- The map with an entry added behind the others. -/
def push (m : LineMap) (e : LineEntry) : LineMap :=
  { m with entries := m.entries ++ [e] }

/-- Of `size` entries from `base` on, the index of the last one whose line is at most `line`; `base`
when there is none. -/
def bisect (entries : List LineEntry) (line : UInt32) (base size : Nat) : Nat :=
  if size ≤ 1 then base
  else
    let half := size / 2
    match entries[base + half]? with
    | none => bisect entries line base (size - half)
    | some e =>
      if line < e.javaLine then bisect entries line base (size - half)
      else bisect entries line (base + half) (size - half)
  termination_by size

/-- The entry of a Java line. -/
def find? (m : LineMap) (line : UInt32) : Option LineEntry :=
  (m.entries[bisect m.entries line 0 m.entries.length]?).filter (·.javaLine == line)

/-- The entry of a Java line, looked for from the first entry on. -/
def scan? (m : LineMap) (line : UInt32) : Option LineEntry :=
  m.entries.find? (·.javaLine == line)

@[simp] theorem entries_push (m : LineMap) (e : LineEntry) : (m.push e).entries = m.entries ++ [e] := rfl

end LineMap

end TapeToJava.Java
