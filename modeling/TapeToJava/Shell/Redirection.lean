import TapeToJava.Shell.Job

/-! Turning descriptors elsewhere. -/

namespace TapeToJava.Shell

/-- A redirection whose word has been replaced. -/
structure Turn where
  descriptor : Nat
  direction : Direction
  target : String
  deriving DecidableEq, Repr

namespace Turn

def ofRedirect (run : Runner) : Redirect → Act Turn
  | .mk descriptor direction word => do
    return ⟨descriptor, direction, ← expandText run.commands word⟩

/-- The descriptor that a path stands for. -/
def deviceDescriptor? (path : String) : Option Nat :=
  match path with
  | "/dev/stdin" => some 0
  | "/dev/stdout" => some 1
  | "/dev/stderr" => some 2
  | _ => if path.startsWith "/dev/fd/" then decimal? (String.ofList (path.toList.drop 8)) else none

/-- Makes a descriptor the same as another one. -/
def copyFrom (descriptor source : Nat) : Act Unit := do
  match (← get).handle? source with
  | some id => Session.turnTo descriptor id
  | none => Session.fail (toString source ++ ": Bad file descriptor")

/-- Opens the file at a path to write to it. -/
def openFile (t : Turn) (append cleared : Bool) : Act Unit := do
  let s ← get
  match s.world.volume.openForWriting t.target (0o666 - (0o666 &&& s.mask)) with
  | .error fault => do
    let reason := if fault = .notFound ∨ fault = .notADirectory then "Directory nonexistent" else fault.reason
    Session.fail ("cannot create " ++ t.target ++ ": " ++ reason)
  | .ok (loc, volume) =>
    if loc = nullPlace then Session.openFor t.descriptor .nowhere
    else do
      let volume := if cleared then volume.setBytes loc [] else volume
      set { s with world := { s.world with volume := volume } }
      Session.openFor t.descriptor (.file loc 0 append)

/-- Opens the file at a path to read from it. -/
def openInput (t : Turn) : Act Unit := do
  match (← get).world.volume.find t.target with
  | .error fault => do
    let reason := if fault = .notFound ∨ fault = .notADirectory then "No such file" else fault.reason
    Session.fail ("cannot open " ++ t.target ++ ": " ++ reason)
  | .ok (_, .directory _) => Session.openFor t.descriptor .nowhere
  | .ok (loc, .file _ _) => Session.openFor t.descriptor (.file loc 0 false)

/-- Turns the descriptor. -/
def perform (t : Turn) : Act Unit := do
  match t.direction with
  | .text => Session.openFor t.descriptor (.waiting (Text.Utf8.encode t.target))
  | .copy =>
    if t.target = "-" then
      Session.update fun s => { s with descriptors := s.descriptors.filter (·.1 != t.descriptor) }
    else match decimal? t.target with
      | some source => copyFrom t.descriptor source
      | none => Session.fail "Bad fd number"
  | direction =>
    match deviceDescriptor? t.target, direction with
    | some source, _ => copyFrom t.descriptor source
    | none, .output => do
      let s ← get
      match s.has 'C', s.world.volume.find t.target with
      | true, .ok (loc, .file _ _) =>
        if loc = nullPlace then t.openFile false true
        else Session.fail ("cannot create " ++ t.target ++ ": " ++ Fault.alreadyThere.reason)
      | _, _ => t.openFile false true
    | none, .over => t.openFile false true
    | none, .append => t.openFile true false
    | none, .both => t.openFile false false
    | none, _ => t.openInput

end Turn

/-- Turns descriptors; whether that went well. -/
def redirected (run : Runner) (rs : List Redirect) : Act Bool := do
  let turns ← rs.mapM (Turn.ofRedirect run)
  fun s => match turns.forM Turn.perform s with
    | .ok () t => .ok true t
    | .error .fault t => .ok false t
    | .error e t => .error e t

end TapeToJava.Shell
