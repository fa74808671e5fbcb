import TapeToJava.Proofs.Build.Frame
import TapeToJava.Proofs.Command.Run

/-! The toolchain is called at most once, and as the last thing that a build does. Whatever it answers goes into
the outcome and changes nothing else; only a toolchain that cannot be started makes the build fail. -/

namespace TapeToJava

open Volume

variable {o : BuildOptions} {toolchain other : Toolchain} {g : Generated} {b : BuildOutcome} {v w : Volume}

/-- An outcome that tells about a class that has been written, and how the toolchain has ended. -/
structure BuildOutcome.Tells (b : BuildOutcome) (o : BuildOptions) (g : Generated) (exit : Option Exit) : Prop where
  output_eq : b.output = o.output
  className_eq : b.className = o.resolvedClassName
  operatorCount_eq : b.operatorCount = g.java.operatorCount
  outputHash_eq : b.outputHash = Sha256.digestText (Text.Utf8.encode g.java.text ++ [0x0A])
  warnings_eq : b.warnings = g.warnings
  exit_eq : b.exit = exit

theorem BuildOutcome.tells_ofGenerated (o : BuildOptions) (g : Generated) (exit : Option Exit) :
    (BuildOutcome.ofGenerated o g exit).Tells o g exit :=
  ⟨rfl, rfl, rfl, rfl, rfl, rfl⟩

namespace BuildOptions

/-! ### When the toolchain is called -/

theorem Runs.calls_eq {r : BuildRun} (hruns : Runs o toolchain v r) (hcompile : o.compile = true)
    (h : (Emission.ofOptions o v).result = .ok g) : r.calls = [⟨o.output, (Emission.ofOptions o v).volume⟩] := by
  cases hruns with
  | stopped hresult =>
      rw [h] at hresult
      cases hresult
  | finished _ hcompile' =>
      rw [hcompile] at hcompile'
      cases hcompile'
  | unlaunched => rfl
  | compiled => rfl

theorem Emits.build_eq (h : o.Emits g v w) (hcompile : o.compile = true) (toolchain : Toolchain) :
    (o.build toolchain v).calls = [⟨o.output, w⟩] ∧
      (o.build toolchain v).volume = (toolchain.compile o.output w).volume ∧
      (o.build toolchain v).result = match (toolchain.compile o.output w).result with
        | .error fault => .error (.launch toolchain.name fault)
        | .ok exit => .ok (.ofGenerated o g (some exit)) := by
  obtain ⟨hresult, rfl⟩ := Emission.ofOptions_eq_ok_iff.mpr h
  refine ⟨(runs_build o toolchain v).calls_eq hcompile hresult, ?_⟩
  cases hanswer : (toolchain.compile o.output (Emission.ofOptions o v).volume).result with
  | error fault => simp only [build, hresult, hcompile, if_true, hanswer, and_self]
  | ok exit => simp only [build, hresult, hcompile, if_true, hanswer, and_self]

/-- What comes of a call of the toolchain, for a build that has written its outputs and so has come to the files
`w`. -/
structure Calls (o : BuildOptions) (toolchain : Toolchain) (g : Generated) (v w : Volume) : Prop where
  calls_eq : (o.build toolchain v).calls = [⟨o.output, w⟩]
  readFile_lineMap : ∀ path, o.sourceMap = some path →
    w.readFile path = .ok (Text.Utf8.encode g.java.lineMap.text ++ [0x0A])
  readFile_output : (∀ path, o.sourceMap = some path → v.place? path ≠ v.place? o.output) →
    w.readFile o.output = .ok (Text.Utf8.encode g.java.text ++ [0x0A])
  get?_temporary : ∀ loc, IsTemporary loc → w.get? loc = v.get? loc
  /-- The files stay as the toolchain leaves them. -/
  volume_eq : (o.build toolchain v).volume = (toolchain.compile o.output w).volume
  /-- However the toolchain ends, the build is done, its outcome tells that end, and the command succeeds. -/
  ended : ∀ exit, (toolchain.compile o.output w).result = .ok exit →
    (∃ b, (o.build toolchain v).result = .ok b ∧ b.Tells o g (some exit)) ∧
      ∀ compiler logLevel, (Command.run ⟨o, compiler, false, logLevel⟩ (fun _ => toolchain) v).exitCode = 0
  /-- A toolchain that cannot be started makes the build and the command fail, and the outputs stay where they
  are. -/
  unlaunched : ∀ fault, (toolchain.compile o.output w).result = .error fault →
    (o.build toolchain v).result = .error (.launch toolchain.name fault) ∧
      (∀ compiler logLevel, (Command.run ⟨o, compiler, false, logLevel⟩ (fun _ => toolchain) v).exitCode = 1) ∧
      (toolchain.KeepsFilesUnlaunched → (o.build toolchain v).volume = w)

theorem Emits.calls (h : o.Emits g v w) (hcompile : o.compile = true) (toolchain : Toolchain) :
    o.Calls toolchain g v w := by
  obtain ⟨hcalls, hvolume, hanswer⟩ := h.build_eq hcompile toolchain
  obtain ⟨hresult, rfl⟩ := Emission.ofOptions_eq_ok_iff.mpr h
  obtain ⟨f, -, -, events, hends⟩ := Emission.ends_of_result_ok hresult
  refine ⟨hcalls, fun path => hends.readFile_lineMap, hends.readFile_output.1,
    fun loc => (Emission.writes_ofOptions o v).get?_temporary, hvolume, fun exit hexit => ?_, fun fault hfault => ?_⟩
  · rw [hexit] at hanswer
    exact ⟨⟨_, hanswer, BuildOutcome.tells_ofGenerated o g _⟩, fun _ _ => (Command.ofBuild_of_result_ok hanswer).1⟩
  · rw [hfault] at hanswer
    refine ⟨hanswer, fun _ _ => (Command.ofBuild_of_result_error hanswer).1, fun hkeeps => ?_⟩
    rw [hvolume, hkeeps _ _ _ hfault]

end BuildOptions

end TapeToJava
