import TapeToJava.Java.Scaffold
import TapeToJava.Operator

/-! The machine that programs run on: a tape of signed bytes, a pointer of 32 bits that is checked only
when a cell is used, an input of integers, and the output as text. -/

namespace TapeToJava.Machine

/-- What a program does besides looping. -/
inductive Action where
  | moveRight
  | moveLeft
  | increment
  | decrement
  | print
  | read
  deriving DecidableEq, Repr

/-- Why a run breaks off. -/
inductive Fault where
  /-- The pointer is outside of the tape. -/
  | outOfBounds (pointer : Int32)
  | noInput
  /-- The next piece of input is no byte. -/
  | badInput
  deriving DecidableEq, Repr

/-- What is left to be read, piece by piece: nothing behind the end, and `some none` for a piece that is no
byte. The input may go on forever. -/
abbrev Input := Nat → Option (Option Int8)

/-- The state of a run. -/
@[ext] structure State where
  cells : Nat → Int8
  pointer : Int32
  input : Input
  output : List Char

namespace State

/-- The state in which every run starts. -/
def initial (input : Input) : State :=
  ⟨fun _ => 0, 0, input, []⟩

/-- The index of the current cell, if the pointer is on the tape. -/
def index? (s : State) : Except Fault Nat :=
  if 0 ≤ s.pointer.toInt ∧ s.pointer.toInt < Java.Scaffold.tapeCells then .ok s.pointer.toInt.toNat
  else .error (.outOfBounds s.pointer)

/-- The value of the current cell. -/
def cell? (s : State) : Except Fault Int8 :=
  s.index?.map s.cells

/-- The state with another value in a cell. -/
def set (s : State) (index : Nat) (value : Int8) : State :=
  { s with cells := fun i => if i = index then value else s.cells i }

/-- The state with the current cell changed. -/
def modify (s : State) (f : Int8 → Int8) : State × Option Fault :=
  match s.index? with
  | .error fault => (s, some fault)
  | .ok i => (s.set i (f (s.cells i)), none)

/-- The text of a value. -/
def valueText (n : Int8) : List Char :=
  (toString n.toInt).toList

/-- Carries out an action. Input is taken before the cell that it goes to is looked for. -/
def perform (s : State) : Action → State × Option Fault
  | .moveRight => ({ s with pointer := s.pointer + 1 }, none)
  | .moveLeft => ({ s with pointer := s.pointer - 1 }, none)
  | .increment => s.modify (· + 1)
  | .decrement => s.modify (· - 1)
  | .print =>
    match s.cell? with
    | .error fault => (s, some fault)
    | .ok n => ({ s with output := s.output ++ valueText n }, none)
  | .read =>
    match s.input 0 with
    | none => (s, some .noInput)
    | some none => (s, some .badInput)
    | some (some n) => { s with input := fun i => s.input (i + 1) }.modify fun _ => n

end State

/-- How a run ends: its last state, and the fault that broke it off. -/
structure Outcome where
  state : State
  fault : Option Fault

end TapeToJava.Machine

namespace TapeToJava

/-- The action of an operator that is no bracket. -/
def Operator.action? : Operator → Option Machine.Action
  | .moveRight => some .moveRight
  | .moveLeft => some .moveLeft
  | .increment => some .increment
  | .decrement => some .decrement
  | .print => some .print
  | .read => some .read
  | .loopOpen | .loopClose => none

end TapeToJava
