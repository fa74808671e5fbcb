import TapeToJava.Build.Error
import TapeToJava.Build.Options
import TapeToJava.Files.Staged
import TapeToJava.Json.LineMap
import TapeToJava.Log.Event
import TapeToJava.Generation

/-! The part of a build that writes files. Every output is staged before any is committed, and the Java
file is committed before the line map. -/

namespace TapeToJava

namespace BuildEvent

/-- An event of a build. -/
def ofLevel (level : Log.Level) (message : String) (fields : List (String × String)) : Log.Event :=
  ⟨level, .build, message, fields⟩

def loading (o : BuildOptions) : Log.Event :=
  ofLevel .debug "loading source" [("source", o.source)]

def generating (o : BuildOptions) : Log.Event :=
  ofLevel .debug "translating" [("class", o.resolvedClassName.text)]

def warnings (t : Generated) : List Log.Event :=
  t.warnings.warnings.map fun d => ofLevel .warn d.text []

def wroteJava (o : BuildOptions) (t : Generated) : Log.Event :=
  ofLevel .info "wrote Java source" [("output", o.output), ("operators", toString t.java.operatorCount),
    ("sha256", outputHash t.java.text)]

def wroteLineMap (path : String) : Log.Event :=
  ofLevel .info "wrote source map" [("path", path)]

end BuildEvent

/-- Loads a source file; its name is its path. -/
def Volume.load (v : Volume) (path : String) : Except BuildError SourceFile :=
  match v.readFile path with
  | .ok bytes => .ok (.ofBytes path bytes)
  | .error .notFound => .error (.missingSource path)
  | .error fault => .error (.files path fault)

/-- What writing files comes to. -/
structure Emission (α : Type) where
  result : Except BuildError α
  volume : Volume
  events : List Log.Event

namespace Emission

/-- Stages the line map, if it is asked for. -/
def stageLineMap (o : BuildOptions) (t : Generated) (v : Volume) :
    Except BuildError (Option Staged) × Volume :=
  match o.sourceMap with
  | none => (.ok none, v)
  | some path =>
    match v.stage path t.java.lineMap.text with
    | (.error fault, v) => (.error (.files path fault), v)
    | (.ok s, v) => (.ok (some s), v)

/-- Commits the line map, if there is one. -/
def commitLineMap (v : Volume) : Option Staged → Emission Unit
  | none => ⟨.ok (), v, []⟩
  | some s =>
    match v.commit s with
    | (.error fault, v) => ⟨.error (.files s.target fault), v, []⟩
    | (.ok (), v) => ⟨.ok (), v, [BuildEvent.wroteLineMap s.target]⟩

/-- Gives up the line map, if there is one. -/
def discardLineMap (v : Volume) : Option Staged → Volume
  | none => v
  | some s => v.discard s

/-- Commits both outputs, the Java file first. -/
def commitAll (o : BuildOptions) (t : Generated) (v : Volume) (java : Staged) (lineMap : Option Staged) :
    Emission Unit :=
  match v.commit java with
  | (.error fault, v) => ⟨.error (.files o.output fault), discardLineMap v lineMap, []⟩
  | (.ok (), v) =>
    let rest := commitLineMap v lineMap
    { rest with events := BuildEvent.wroteJava o t :: rest.events }

/-- Writes the outputs of a generated class. -/
def ofGenerated (o : BuildOptions) (t : Generated) (v : Volume) : Emission Unit :=
  match v.stage o.output t.java.text with
  | (.error fault, v) => ⟨.error (.files o.output fault), v, []⟩
  | (.ok java, v) =>
    match stageLineMap o t v with
    | (.error e, v) => ⟨.error e, v.discard java, []⟩
    | (.ok lineMap, v) => commitAll o t v java lineMap

/-- Loads, generates and writes. -/
def ofOptions (o : BuildOptions) (v : Volume) : Emission Generated :=
  match v.load o.source with
  | .error e => ⟨.error e, v, [BuildEvent.loading o]⟩
  | .ok f =>
    match f.generate o.resolvedClassName with
    | .error errors => ⟨.error (.rejected errors), v, [BuildEvent.loading o, BuildEvent.generating o]⟩
    | .ok t =>
      let written := ofGenerated o t v
      { result := written.result.map fun () => t
        volume := written.volume
        events := BuildEvent.loading o :: BuildEvent.generating o :: BuildEvent.warnings t ++ written.events }

end Emission

end TapeToJava
