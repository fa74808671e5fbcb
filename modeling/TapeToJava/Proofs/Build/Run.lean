import TapeToJava.Build.Basic
import TapeToJava.Proofs.Build.Emission

/-! What a build leaves behind. It stops with every file as it was, or it writes its outputs; and the class that
its outcome tells about is the one in the output file, unless the line map has gone there too. -/

namespace TapeToJava

open Volume

variable {o : BuildOptions} {toolchain : Toolchain} {v : Volume} {e : BuildError} {b : BuildOutcome}
  {f : SourceFile} {g : Generated}

/-- The files as the toolchain finds them, or as they are in the end when it is not called. -/
def BuildRun.written (r : BuildRun) : Volume :=
  match r.calls with
  | [] => r.volume
  | call :: _ => call.volume

namespace BuildOptions

/-- How a build may end: it stops before the toolchain, is not to call it, cannot start it, or calls it. -/
inductive Runs (o : BuildOptions) (toolchain : Toolchain) (v : Volume) : BuildRun → Prop
  | stopped {e : BuildError} {events : List Log.Event} (hresult : (Emission.ofOptions o v).result = .error e) :
      Runs o toolchain v ⟨.error e, (Emission.ofOptions o v).volume, events, [], []⟩
  | finished {g : Generated} {events : List Log.Event} (hresult : (Emission.ofOptions o v).result = .ok g)
      (hcompile : o.compile = false) :
      Runs o toolchain v ⟨.ok (.ofGenerated o g none), (Emission.ofOptions o v).volume, events, [], []⟩
  | unlaunched {g : Generated} {events : List Log.Event} {fault : Fault} {w : Volume} {printed : List UInt8}
      (hresult : (Emission.ofOptions o v).result = .ok g) (hcompile : o.compile = true)
      (hrun : toolchain.compile o.output (Emission.ofOptions o v).volume = ⟨.error fault, w, printed⟩) :
      Runs o toolchain v ⟨.error (.launch toolchain.name fault), w, events,
        [⟨o.output, (Emission.ofOptions o v).volume⟩], printed⟩
  | compiled {g : Generated} {events : List Log.Event} {exit : Exit} {w : Volume} {printed : List UInt8}
      (hresult : (Emission.ofOptions o v).result = .ok g) (hcompile : o.compile = true)
      (hrun : toolchain.compile o.output (Emission.ofOptions o v).volume = ⟨.ok exit, w, printed⟩) :
      Runs o toolchain v ⟨.ok (.ofGenerated o g (some exit)), w, events,
        [⟨o.output, (Emission.ofOptions o v).volume⟩], printed⟩

theorem runs_build (o : BuildOptions) (toolchain : Toolchain) (v : Volume) :
    Runs o toolchain v (o.build toolchain v) := by
  unfold build
  dsimp only
  split
  · rename_i e hresult
    exact .stopped hresult
  · rename_i g hresult
    split
    · rename_i hcompile
      cases hrun : toolchain.compile o.output (Emission.ofOptions o v).volume with
      | mk result w printed =>
          cases result with
          | error fault => exact .unlaunched hresult hcompile hrun
          | ok exit => exact .compiled hresult hcompile hrun
    · rename_i hcompile
      exact .finished hresult (Bool.eq_false_iff.mpr hcompile)

/-- The outputs are written before the toolchain is called. -/
theorem Runs.written_eq {r : BuildRun} (hruns : Runs o toolchain v r) :
    r.written = (Emission.ofOptions o v).volume := by
  cases hruns with
  | stopped => rfl
  | finished => rfl
  | unlaunched => rfl
  | compiled => rfl

/-- A call of the toolchain finds the outputs, and the files stay as it leaves them. -/
theorem Runs.volume_of_call {r : BuildRun} (hruns : Runs o toolchain v r) :
    ∀ call ∈ r.calls, r.volume = (toolchain.compile call.path r.written).volume := by
  cases hruns with
  | stopped => exact List.forall_mem_nil _
  | finished => exact List.forall_mem_nil _
  | unlaunched _ _ hrun =>
      rw [List.forall_mem_singleton]
      exact (congrArg ToolchainRun.volume hrun).symm
  | compiled _ _ hrun =>
      rw [List.forall_mem_singleton]
      exact (congrArg ToolchainRun.volume hrun).symm

theorem Runs.result_of_error {r : BuildRun} (hruns : Runs o toolchain v r)
    (h : (Emission.ofOptions o v).result = .error e) : r.result = .error e := by
  cases hruns with
  | stopped hresult =>
      rw [hresult] at h
      cases h
      rfl
  | finished hresult =>
      rw [hresult] at h
      cases h
  | unlaunched hresult =>
      rw [hresult] at h
      cases h
  | compiled hresult =>
      rw [hresult] at h
      cases h

/-- A build that stops, but not for a toolchain that cannot be started, has not come to the toolchain. -/
theorem Runs.of_error {r : BuildRun} (hruns : Runs o toolchain v r) (h : r.result = .error e)
    (hlaunch : ∀ command fault, e ≠ .launch command fault) :
    (Emission.ofOptions o v).result = .error e ∧ r.calls = [] ∧ r.volume = (Emission.ofOptions o v).volume := by
  cases hruns with
  | stopped hresult =>
      cases h
      exact ⟨hresult, rfl, rfl⟩
  | finished => cases h
  | unlaunched =>
      cases h
      exact absurd rfl (hlaunch _ _)
  | compiled => cases h

theorem Runs.of_ok {r : BuildRun} (hruns : Runs o toolchain v r) (h : r.result = .ok b) :
    ∃ g exit, (Emission.ofOptions o v).result = .ok g ∧ b = .ofGenerated o g exit := by
  cases hruns with
  | stopped => cases h
  | finished hresult =>
      cases h
      exact ⟨_, _, hresult, rfl⟩
  | unlaunched => cases h
  | compiled hresult =>
      cases h
      exact ⟨_, _, hresult, rfl⟩

/-- With a toolchain that writes no files, they stay as the outputs have been written. -/
theorem Runs.volume_of_quiet {r : BuildRun} (hruns : Runs o toolchain v r)
    (hquiet : ∀ path w, (toolchain.compile path w).volume = w) :
    r.volume = (Emission.ofOptions o v).volume ∧
      ∀ call ∈ r.calls, call.volume = (Emission.ofOptions o v).volume := by
  have hcall : ∀ call ∈ [ToolchainCall.mk o.output (Emission.ofOptions o v).volume],
      call.volume = (Emission.ofOptions o v).volume := by
    intro call hcall
    rw [List.mem_singleton.mp hcall]
  have hend : ∀ {run}, toolchain.compile o.output (Emission.ofOptions o v).volume = run →
      run.volume = (Emission.ofOptions o v).volume := by
    rintro _ rfl
    exact hquiet _ _
  cases hruns with
  | stopped => exact ⟨rfl, List.forall_mem_nil _⟩
  | finished => exact ⟨rfl, List.forall_mem_nil _⟩
  | unlaunched _ _ hrun => exact ⟨hend hrun, hcall⟩
  | compiled _ _ hrun => exact ⟨hend hrun, hcall⟩

/-! ### A build that stops -/

/-- A build that stops before the toolchain leaves every file as it was, unless the line map is to go where no
file can: then the Java file has been written. -/
theorem build_error_leaves (h : (o.build toolchain v).result = .error e)
    (hlaunch : ∀ command fault, e ≠ .launch command fault) :
    (o.build toolchain v).calls = [] ∧ ((o.build toolchain v).volume = v ∨
      ∃ f g path fault, v.load o.source = .ok f ∧ f.generate o.resolvedClassName = .ok g ∧
        o.sourceMap = some path ∧ (∀ place, ¬v.TakesFile path place) ∧ e = .files path fault ∧
        ∃ java : v.Landing o.output,
          (o.build toolchain v).volume = v.insert java.place (java.file g.java.text)) := by
  obtain ⟨hresult, hcalls, hvolume⟩ := (runs_build o toolchain v).of_error h hlaunch
  rw [hvolume]
  exact ⟨hcalls, Emission.volume_of_result_error hresult⟩

/-- A loop that is never closed leaves a directory with a source file and an older class as it was. -/
theorem build_error_leaves_rejected :
    let v : Volume := ⟨[([.text "prog.bf".toList], .file 0o644 [0x5B]),
      ([.text "bf.java".toList], .file 0o600 [0x3B, 0x0A])], []⟩
    let run := (BuildOptions.ofSource "prog.bf").build (.constant "javac" (.ok (.ofCode 0))) v
    (∃ errors, run.result = .error (.rejected errors)) ∧ run.calls = [] ∧ run.volume = v := by
  intro v run
  have hresult : ∃ errors, run.result = .error (.rejected errors) := ⟨_, rfl⟩
  obtain ⟨errors, hresult⟩ := hresult
  obtain ⟨hcalls, hvolume | ⟨f, g, path, fault, -, -, -, -, he, -⟩⟩ :=
    build_error_leaves hresult fun _ _ he => by cases he
  · exact ⟨⟨errors, hresult⟩, hcalls, hvolume⟩
  · cases he

/-- The line map is to go where a directory is: the build stops, and the output file has been replaced. -/
theorem exists_build_error_output_replaced :
    ¬∀ (o : BuildOptions) (toolchain : Toolchain) (v : Volume) (e : BuildError),
      (o.build toolchain v).result = .error e → (∀ command fault, e ≠ .launch command fault) →
        (o.build toolchain v).volume.readFile o.output = v.readFile o.output := by
  intro hall
  obtain ⟨o, v, f, g, hresult, hbefore, hgenerate, hafter⟩ : ∃ (o : BuildOptions) (v : Volume) (f : SourceFile)
      (g : Generated), (o.build (.constant "javac" (.ok (.ofCode 0))) v).result =
        .error (.files "map" .isADirectory) ∧
      v.readFile o.output = .ok (fileBytes "previous run") ∧ f.generate o.resolvedClassName = .ok g ∧
      (o.build (.constant "javac" (.ok (.ofCode 0))) v).volume.readFile o.output = .ok (fileBytes g.java.text) :=
    ⟨⟨"prog.bf", "bf.java", none, false, some "map"⟩,
      ⟨[([.text "prog.bf".toList], .file 0o644 [0x2B, 0x2E]),
        ([.text "bf.java".toList], .file 0o644 (fileBytes "previous run")),
        ([.text "map".toList], .directory 0o755)], []⟩,
      .ofBytes "prog.bf" [0x2B, 0x2E], _, rfl, rfl, rfl, rfl⟩
  have hsame := hall o _ v _ hresult fun _ _ he => by cases he
  rw [hbefore, hafter] at hsame
  have hhead := SourceFile.head?_generate hgenerate
  rw [Except.ok.inj hsame] at hhead
  exact absurd hhead (by decide)

/-! ### A build that is done -/

/-- The outcome of a build tells about what is in the output file, unless the line map has gone there too. -/
theorem outcome_describes_output (hquiet : ∀ path w, (toolchain.compile path w).volume = w)
    (h : (o.build toolchain v).result = .ok b) :
    b.output = o.output ∧ (∀ call ∈ (o.build toolchain v).calls, call.volume = (o.build toolchain v).volume) ∧
      ∃ f g, v.load o.source = .ok f ∧ f.generate o.resolvedClassName = .ok g ∧
        b.outputHash = Sha256.digestText (fileBytes g.java.text) ∧
        ((o.build toolchain v).volume.readFile b.output = .ok (fileBytes g.java.text) ↔
          ∀ path, o.sourceMap = some path → v.place? path ≠ v.place? o.output) ∧
        ∀ path, o.sourceMap = some path → v.place? path = v.place? o.output →
          (o.build toolchain v).volume.readFile b.output = .ok (fileBytes g.java.lineMap.text) := by
  have hruns := runs_build o toolchain v
  obtain ⟨hvolume, hcalls⟩ := hruns.volume_of_quiet hquiet
  obtain ⟨g, exit, hresult, rfl⟩ := hruns.of_ok h
  rw [← hvolume] at hcalls
  obtain ⟨f, hload, hgenerate, events, hends⟩ := Emission.ends_of_result_ok hresult
  have hread := hends.readFile_output
  rw [← hvolume] at hread
  refine ⟨rfl, hcalls, f, g, hload, hgenerate, rfl, ⟨fun hjava path hpath hplace => ?_, hread.1⟩, hread.2⟩
  have hmap := hread.2 path hpath hplace
  rw [BuildOutcome.ofGenerated] at hjava
  rw [hjava] at hmap
  exact SourceFile.fileBytes_text_ne_lineMap hgenerate _ (Except.ok.inj hmap).symm

/-- The line map goes beside the output file, and the outcome tells about what is in the output file. -/
theorem outcome_describes_output_two_files :
    ∃ (o : BuildOptions) (v : Volume) (b : BuildOutcome) (bytes : List UInt8), o.sourceMap = some "map" ∧
      (o.build (.constant "javac" (.ok (.ofCode 0))) v).result = .ok b ∧
      (o.build (.constant "javac" (.ok (.ofCode 0))) v).volume.readFile b.output = .ok bytes ∧
      b.outputHash = Sha256.digestText bytes := by
  obtain ⟨o, v, b, hmap, hplaces, hresult⟩ : ∃ (o : BuildOptions) (v : Volume) (b : BuildOutcome),
      o.sourceMap = some "map" ∧ v.place? "map" ≠ v.place? o.output ∧
      (o.build (.constant "javac" (.ok (.ofCode 0))) v).result = .ok b :=
    ⟨⟨"prog.bf", "bf.java", none, true, some "map"⟩, ⟨[([.text "prog.bf".toList], .file 0o644 [0x2B, 0x2E])], []⟩,
      _, rfl, by decide, rfl⟩
  obtain ⟨-, -, f, g, -, -, hhash, hread, -⟩ := outcome_describes_output (fun _ _ => rfl) hresult
  refine ⟨o, v, b, _, hmap, hresult, hread.mpr fun path hpath => ?_, hhash⟩
  rw [hmap] at hpath
  cases hpath
  exact hplaces

/-- The line map is to go to the output file: the build is done, and the class is no longer there. -/
theorem exists_outcome_not_output :
    ¬∀ (o : BuildOptions) (toolchain : Toolchain) (v : Volume) (b : BuildOutcome) (f : SourceFile)
      (g : Generated), (∀ path w, (toolchain.compile path w).volume = w) →
        (o.build toolchain v).result = .ok b → v.load o.source = .ok f →
        f.generate o.resolvedClassName = .ok g →
        (o.build toolchain v).volume.readFile b.output = .ok (fileBytes g.java.text) := by
  intro hall
  obtain ⟨o, v, b, f, g, hresult, hload, hgenerate, hmap⟩ : ∃ (o : BuildOptions) (v : Volume) (b : BuildOutcome)
      (f : SourceFile) (g : Generated),
      (o.build (.constant "javac" (.ok (.ofCode 0))) v).result = .ok b ∧ v.load o.source = .ok f ∧
      f.generate o.resolvedClassName = .ok g ∧
      (o.build (.constant "javac" (.ok (.ofCode 0))) v).volume.readFile b.output =
        .ok (fileBytes g.java.lineMap.text) :=
    ⟨⟨"prog.bf", "bf.java", none, false, some "bf.java"⟩,
      ⟨[([.text "prog.bf".toList], .file 0o644 [0x2B, 0x2E])], []⟩, _, _, _, rfl, rfl, rfl, rfl⟩
  have hjava := hall o _ v b f g (fun _ _ => rfl) hresult hload hgenerate
  rw [hmap] at hjava
  exact SourceFile.fileBytes_text_ne_lineMap hgenerate _ (Except.ok.inj hjava)

end BuildOptions

end TapeToJava
