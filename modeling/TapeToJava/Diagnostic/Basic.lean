import TapeToJava.Source.Span

/-! Diagnostics: numbered findings about a source text, each with its place. -/

namespace TapeToJava

/-- How grave a finding is. -/
inductive Severity where
  | error
  | warning
  deriving DecidableEq, Repr

/-- What a finding is about: the form of the program, or the name of its class. -/
inductive Category where
  | syntactic
  | naming
  deriving DecidableEq, Repr

/-- The number of a kind of finding. -/
structure Code where
  number : UInt16
  deriving DecidableEq, Repr

namespace Severity

def all : List Severity := [error, warning]

def name : Severity → String
  | error => "error"
  | warning => "warning"

end Severity

namespace Category

def all : List Category := [syntactic, naming]

def name : Category → String
  | syntactic => "syntax"
  | naming => "naming"

end Category

namespace Code

def unmatchedBrackets : Code := ⟨100⟩

def invalidClassName : Code := ⟨200⟩

/-- Numbers from 200 to 299 are about names, all others about form. -/
def category (c : Code) : Category :=
  if 200 ≤ c.number ∧ c.number ≤ 299 then .naming else .syntactic

def text (c : Code) : String :=
  "E" ++ toString c.number.toNat

end Code

/-- A finding about a source text. -/
structure Diagnostic where
  file : String
  code : Code
  severity : Severity
  category : Category
  message : String
  span : Span
  /-- The line that the span starts in. -/
  sourceLine : String
  suggestion : Option String
  deriving DecidableEq, Repr

namespace Diagnostic

/-- An error of the category that its code falls into, without a suggestion. -/
def ofCode (file : String) (code : Code) (message : String) (span : Span) (sourceLine : String) :
    Diagnostic where
  file := file
  code := code
  severity := .error
  category := code.category
  message := message
  span := span
  sourceLine := sourceLine
  suggestion := none

/-- The same finding as a warning. -/
def asWarning (d : Diagnostic) : Diagnostic :=
  { d with severity := .warning }

/-- The same finding with a suggestion. -/
def withSuggestion (d : Diagnostic) (suggestion : String) : Diagnostic :=
  { d with suggestion := some suggestion }

/-- A finding is shown on one line: place, code, category and message. -/
def text (d : Diagnostic) : String :=
  d.file ++ ":" ++ d.span.text ++ ": " ++ d.code.text ++ " [" ++ d.category.name ++ "] " ++ d.message

end Diagnostic

end TapeToJava
