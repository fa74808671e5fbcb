import TapeToJava.Java.Block

/-! The structured run of a block: items one after another, and a loop for as long as the current cell
is not zero when it is tested. -/

namespace TapeToJava.Machine.Structured

/-- Runs items with at most `fuel` nested or successive steps; none when that is too few. -/
def runFor : Nat → List Java.Item → State → Option Outcome
  | 0, _, _ => none
  | _ + 1, [], s => some ⟨s, none⟩
  | fuel + 1, .action a :: rest, s =>
    match s.perform a with
    | (s, some fault) => some ⟨s, some fault⟩
    | (s, none) => runFor fuel rest s
  | fuel + 1, .loop body :: rest, s =>
    match s.cell? with
    | .error fault => some ⟨s, some fault⟩
    | .ok n =>
      if n = 0 then runFor fuel rest s
      else match runFor fuel body s with
        | none => none
        | some ⟨s, some fault⟩ => some ⟨s, some fault⟩
        | some ⟨s, none⟩ => runFor fuel (.loop body :: rest) s

/-- The run of a block ends in this way. -/
def Ends (block : List Java.Item) (input : Input) (outcome : Outcome) : Prop :=
  ∃ fuel, runFor fuel block (.initial input) = some outcome

end TapeToJava.Machine.Structured
