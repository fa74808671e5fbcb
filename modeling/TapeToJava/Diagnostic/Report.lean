import TapeToJava.Diagnostic.Basic

/-! Reports: the errors and warnings of one run. Only the first twenty of each kind are kept; the totals
count all of them. -/

namespace TapeToJava

/-- The errors and warnings of one run. -/
structure Report where
  errors : List Diagnostic
  warnings : List Diagnostic
  totalErrors : UInt64
  totalWarnings : UInt64
  deriving DecidableEq, Repr

namespace Report

/-- How many diagnostics of each kind are kept. -/
def capacity : Nat := 20

def empty : Report := ⟨[], [], 0, 0⟩

def hasErrors (r : Report) : Bool :=
  r.totalErrors > 0

/-- A list with one more diagnostic, unless it is full. -/
def keep (ds : List Diagnostic) (d : Diagnostic) : List Diagnostic :=
  if ds.length < capacity then ds ++ [d] else ds

/-- Counts an error, and keeps it if there is room. -/
def pushError (r : Report) (d : Diagnostic) : Report :=
  { r with errors := keep r.errors d, totalErrors := r.totalErrors + 1 }

/-- Counts a warning, and keeps it, as a warning, if there is room. -/
def pushWarning (r : Report) (d : Diagnostic) : Report :=
  { r with warnings := keep r.warnings d.asWarning, totalWarnings := r.totalWarnings + 1 }

/-- A report is shown by the errors it keeps, one on a line. -/
def text (r : Report) : String :=
  String.intercalate "\n" (r.errors.map (·.text))

theorem keep_of_lt {ds : List Diagnostic} (d : Diagnostic) (h : ds.length < capacity) :
    keep ds d = ds ++ [d] := by
  simp [keep, h]

theorem keep_of_le {ds : List Diagnostic} (d : Diagnostic) (h : capacity ≤ ds.length) : keep ds d = ds := by
  simp [keep, Nat.not_lt.mpr h]

end Report

end TapeToJava
