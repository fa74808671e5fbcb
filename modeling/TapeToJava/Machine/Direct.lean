import TapeToJava.Machine.State

/-! The direct run of a program: a counter walks over the operators, and a bracket makes it jump to its
partner. -/

namespace TapeToJava.Machine.Direct

/-- The number of operators up to and with the bracket that closes `depth + 1` open loops. -/
def toClose : Nat → List Operator → Option Nat
  | _, [] => none
  | depth, .loopOpen :: ops => (toClose (depth + 1) ops).map (· + 1)
  | 0, .loopClose :: _ => some 1
  | depth + 1, .loopClose :: ops => (toClose depth ops).map (· + 1)
  | depth, _ :: ops => (toClose depth ops).map (· + 1)

/-- The number of operators back to and with the bracket that opens `depth + 1` closed loops; the
operators are given from the right to the left. -/
def toOpen : Nat → List Operator → Option Nat
  | _, [] => none
  | depth, .loopClose :: ops => (toOpen (depth + 1) ops).map (· + 1)
  | 0, .loopOpen :: _ => some 1
  | depth + 1, .loopOpen :: ops => (toOpen depth ops).map (· + 1)
  | depth, _ :: ops => (toOpen depth ops).map (· + 1)

/-- The place behind the partner of the opening bracket at a place. -/
def behindClose (ops : List Operator) (counter : Nat) : Option Nat :=
  (toClose 0 (ops.drop (counter + 1))).map (counter + 1 + ·)

/-- The place of the partner of the closing bracket at a place. -/
def atOpen (ops : List Operator) (counter : Nat) : Option Nat :=
  (toOpen 0 (ops.take counter).reverse).map (counter - ·)

/-- Where a run stands. -/
structure Config where
  counter : Nat
  state : State

/-- One step: the run goes on, or it ends. A bracket without a partner ends it. -/
def step (ops : List Operator) (c : Config) : Config ⊕ Outcome :=
  match ops[c.counter]? with
  | none => .inr ⟨c.state, none⟩
  | some .loopOpen =>
    match c.state.cell? with
    | .error fault => .inr ⟨c.state, some fault⟩
    | .ok n =>
      if n = 0 then
        match behindClose ops c.counter with
        | none => .inr ⟨c.state, none⟩
        | some next => .inl ⟨next, c.state⟩
      else .inl ⟨c.counter + 1, c.state⟩
  | some .loopClose =>
    match atOpen ops c.counter with
    | none => .inr ⟨c.state, none⟩
    | some next => .inl ⟨next, c.state⟩
  | some op =>
    match op.action? with
    | none => .inl ⟨c.counter + 1, c.state⟩
    | some a =>
      match c.state.perform a with
      | (s, some fault) => .inr ⟨s, some fault⟩
      | (s, none) => .inl ⟨c.counter + 1, s⟩

/-- At most `n` steps; none when the run has not ended by then. -/
def runFor (ops : List Operator) : Nat → Config → Option Outcome
  | 0, _ => none
  | n + 1, c =>
    match step ops c with
    | .inr outcome => some outcome
    | .inl next => runFor ops n next

/-- The run of a program ends in this way. -/
def Ends (ops : List Operator) (input : Input) (outcome : Outcome) : Prop :=
  ∃ n, runFor ops n ⟨0, .initial input⟩ = some outcome

end TapeToJava.Machine.Direct
