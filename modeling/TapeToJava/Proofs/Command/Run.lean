import TapeToJava.Command.Run
import TapeToJava.Proofs.Build.Run
import TapeToJava.Proofs.Json.Verdict

/-! The verdict that is printed instead of a build tells what the build would come to. -/

namespace TapeToJava

open Volume

variable {o : BuildOptions} {toolchain : Toolchain} {v : Volume} {f : SourceFile}

/-- The class of a verdict is in the output file, with a line feed behind it. -/
def Verdict.IsWritten (r : Verdict) (o : BuildOptions) (w : Volume) : Prop :=
  ∃ java, r.java = some java ∧ w.readFile o.output = .ok (Text.Utf8.encode java ++ [0x0A])

/-- A verdict that tells what a build of files comes to. -/
structure Verdict.Predicts (r : Verdict) (o : BuildOptions) (v : Volume) (run : BuildRun) : Prop where
  rejected_iff : ∀ errors, run.result = .error (.rejected errors) ↔ r.success = false ∧ errors = r.errors
  written : run.written = v ∨ r.IsWritten o run.written
  outcome : ∀ b, run.result = .ok b → r.IsWritten o run.written ∧
    r.outputHash = some b.outputHash ∧ r.className = b.className.text ∧ r.errors = b.warnings

/-- A build that has stopped with nothing written is told by a verdict that is no success exactly for a rejected
program. -/
theorem Verdict.predicts_of_stopped {r : Verdict} {run : BuildRun} {e : BuildError} (hresult : run.result = .error e)
    (hwritten : run.written = v) (he : ∀ errors, e = .rejected errors ↔ r.success = false ∧ errors = r.errors) :
    r.Predicts o v run := by
  refine ⟨?_, Or.inl hwritten, ?_⟩
  · intro errors
    rw [hresult, ← he]
    exact ⟨Except.error.inj, congrArg _⟩
  · intro b hb
    rw [hresult] at hb
    cases hb

namespace SourceFile

theorem verdict_predicts_of_error {errors : Report} (hload : v.load o.source = .ok f)
    (hgenerate : f.generate o.resolvedClassName = .error errors) :
    (f.verdict o.resolvedClassName).Predicts o v (o.build toolchain v) := by
  obtain ⟨hresult, hvolume⟩ := Emission.ofOptions_of_generate_error hload hgenerate
  have hruns := BuildOptions.runs_build o toolchain v
  simp only [verdict, hgenerate]
  refine Verdict.predicts_of_stopped (hruns.result_of_error hresult) (hruns.written_eq.trans hvolume) ?_
  intro errors'
  simp [eq_comm]

theorem verdict_predicts_of_ok {g : Generated} (hmap : o.sourceMap = none) (hload : v.load o.source = .ok f)
    (hgenerate : f.generate o.resolvedClassName = .ok g) :
    (f.verdict o.resolvedClassName).Predicts o v (o.build toolchain v) := by
  obtain ⟨written, hends, hresult, hvolume⟩ := Emission.ends_of_generate_ok hload hgenerate
  have hruns := BuildOptions.runs_build o toolchain v
  have hwritten := hruns.written_eq.trans hvolume
  simp only [verdict, hgenerate]
  cases hends with
  | unchanged =>
      refine Verdict.predicts_of_stopped (hruns.result_of_error hresult) hwritten ?_
      simp
  | java _ java =>
      have hjava : (o.build toolchain v).written.readFile o.output = .ok (fileBytes g.java.text) := by
        rw [hwritten]
        exact java.readFile _
      refine ⟨?_, Or.inr ⟨_, rfl, hjava⟩, ?_⟩
      · intro errors
        refine iff_of_false (fun hrejected => ?_) (fun h => by cases h.1)
        obtain ⟨hstopped, -, -⟩ := hruns.of_error hrejected fun _ _ he => by cases he
        cases hresult.symm.trans hstopped
      · intro b hb
        obtain ⟨g', exit, hdone, rfl⟩ := hruns.of_ok hb
        cases hresult.symm.trans hdone
        exact ⟨⟨_, rfl, hjava⟩, rfl, rfl, rfl⟩
  | halfway hsome => cases hmap.symm.trans hsome
  | both hsome => cases hmap.symm.trans hsome

theorem verdict_predicts (hmap : o.sourceMap = none) (hload : v.load o.source = .ok f) :
    (f.verdict o.resolvedClassName).Predicts o v (o.build toolchain v) := by
  cases hgenerate : f.generate o.resolvedClassName with
  | error errors => exact verdict_predicts_of_error hload hgenerate
  | ok g => exact verdict_predicts_of_ok hmap hload hgenerate

end SourceFile

namespace Command

/-- What a run of the command shows of a build: the files as they have been written or as the toolchain has left
them, what the toolchain has printed, and how the build has ended. -/
structure Outcome.Shows (outcome : Outcome) (toolchain : Toolchain) (run : BuildRun) : Prop where
  volume_of_not_called : run.calls = [] → outcome.volume = run.written
  volume_of_called : ∀ call ∈ run.calls, outcome.volume = (toolchain.compile call.path run.written).volume
  stdout_eq : outcome.stdout = run.printed
  done : ∀ b, run.result = .ok b → outcome.exitCode = 0 ∧ outcome.stderr = ""
  stopped : ∀ e, run.result = .error e → outcome.exitCode = 1 ∧ outcome.stderr = errorText e

theorem volume_ofVerdict (o : BuildOptions) (v : Volume) : (Outcome.ofVerdict o v).volume = v := by
  unfold Outcome.ofVerdict
  split
  · rfl
  · rfl

theorem ofVerdict_of_load_error {e : BuildError} (hload : v.load o.source = .error e) :
    (Outcome.ofVerdict o v).exitCode = 1 ∧ (Outcome.ofVerdict o v).stderr = errorText e := by
  simp only [Outcome.ofVerdict, hload, and_self]

theorem ofBuild_of_result_error {e : BuildError} (h : (o.build toolchain v).result = .error e) :
    (Outcome.ofBuild o toolchain v).exitCode = 1 ∧ (Outcome.ofBuild o toolchain v).stderr = errorText e := by
  simp only [Outcome.ofBuild, h, and_self]

theorem ofBuild_of_result_ok {b : BuildOutcome} (h : (o.build toolchain v).result = .ok b) :
    (Outcome.ofBuild o toolchain v).exitCode = 0 ∧ (Outcome.ofBuild o toolchain v).stderr = "" := by
  simp only [Outcome.ofBuild, h, and_self]

theorem ofBuild_eq (o : BuildOptions) (toolchain : Toolchain) (v : Volume) :
    (Outcome.ofBuild o toolchain v).volume = (o.build toolchain v).volume ∧
      (Outcome.ofBuild o toolchain v).stdout = (o.build toolchain v).printed := by
  unfold Outcome.ofBuild
  dsimp only
  split
  · exact ⟨rfl, rfl⟩
  · exact ⟨rfl, rfl⟩

theorem shows_ofBuild (o : BuildOptions) (toolchain : Toolchain) (v : Volume) :
    (Outcome.ofBuild o toolchain v).Shows toolchain (o.build toolchain v) := by
  obtain ⟨hvolume, hstdout⟩ := ofBuild_eq o toolchain v
  refine ⟨?_, ?_, hstdout, fun b => ofBuild_of_result_ok, fun e => ofBuild_of_result_error⟩
  · intro hcalls
    rw [hvolume, BuildRun.written, hcalls]
  · intro call hcall
    rw [hvolume]
    exact (BuildOptions.runs_build o toolchain v).volume_of_call call hcall

/-- A verdict is printed as it is, and only a success exits with zero. -/
theorem ofVerdict_of_load_ok (hload : v.load o.source = .ok f) :
    (Outcome.ofVerdict o v).stdout =
        Text.Utf8.encode ((f.verdict o.resolvedClassName).toJson.prettyText ++ "\n") ∧
      ((Outcome.ofVerdict o v).exitCode = 0 ↔ (f.verdict o.resolvedClassName).success = true) := by
  simp only [Outcome.ofVerdict, hload, Verdict.text, true_and]
  cases (f.verdict o.resolvedClassName).success with
  | false => decide
  | true => decide

/-- Printing the verdict changes no file and calls no toolchain, and the command that builds shows what the build
comes to. Both fail for the same reason when the source file cannot be loaded; otherwise the verdict that is
printed tells what the build comes to. -/
theorem run_json_predicts (a : Arguments) (toolchain : String → Toolchain) (v : Volume)
    (hmap : a.options.sourceMap = none) :
    (run { a with json := true } toolchain v).volume = v ∧
    (∀ other, run { a with json := true } other v = run { a with json := true } toolchain v) ∧
    (run { a with json := false } toolchain v).Shows (toolchain a.compiler)
      (a.options.build (toolchain a.compiler) v) ∧
    match v.load a.options.source with
    | .error e =>
      (∀ json, (run { a with json := json } toolchain v).exitCode = 1 ∧
        (run { a with json := json } toolchain v).stderr = errorText e) ∧
      (a.options.build (toolchain a.compiler) v).result = .error e
    | .ok _ => ∃ r : Verdict,
      (run { a with json := true } toolchain v).stdout = Text.Utf8.encode (r.toJson.prettyText ++ "\n") ∧
      Verdict.ofText? r.toJson.prettyText = some r ∧
      ((run { a with json := true } toolchain v).exitCode = 0 ↔ r.success = true) ∧
      r.Predicts a.options v (a.options.build (toolchain a.compiler) v) := by
  have hdry : ∀ other, run { a with json := true } other v = .ofVerdict a.options v := fun other => if_pos rfl
  have hreal : run { a with json := false } toolchain v = .ofBuild a.options (toolchain a.compiler) v :=
    if_neg Bool.false_ne_true
  refine ⟨?_, fun other => ?_, ?_, ?_⟩
  · rw [hdry, volume_ofVerdict]
  · rw [hdry, hdry]
  · rw [hreal]
    exact shows_ofBuild a.options (toolchain a.compiler) v
  · cases hload : v.load a.options.source with
    | error e =>
        obtain ⟨hresult, -⟩ := Emission.ofOptions_of_load_error hload
        have hstopped := (BuildOptions.runs_build a.options (toolchain a.compiler) v).result_of_error hresult
        refine ⟨fun json => ?_, hstopped⟩
        cases json with
        | true =>
            rw [hdry]
            exact ofVerdict_of_load_error hload
        | false =>
            rw [hreal]
            exact ofBuild_of_result_error hstopped
    | ok f =>
        obtain ⟨hstdout, hexit⟩ := ofVerdict_of_load_ok hload
        rw [← hdry toolchain] at hstdout hexit
        exact ⟨_, hstdout, Verdict.ofText?_text _, hexit, SourceFile.verdict_predicts hmap hload⟩

/-- The verdict on a program with one operator is a success, and so it is not rejected by the build. -/
theorem run_json_predicts_increment :
    ∃ (a : Arguments) (v : Volume) (r : Verdict), a.options.sourceMap = none ∧ r.success = true ∧
      (run { a with json := true } (.constant · (.ok (.ofCode 0))) v).stdout =
        Text.Utf8.encode (r.toJson.prettyText ++ "\n") ∧
      r.Predicts a.options v (a.options.build (.constant a.compiler (.ok (.ofCode 0))) v) ∧
      (run { a with json := false } (.constant · (.ok (.ofCode 0))) v).exitCode = 0 ∧
      r.IsWritten a.options (run { a with json := false } (.constant · (.ok (.ofCode 0))) v).volume := by
  obtain ⟨a, v, f, b, hmap, hload, hexit, hresult, hcalls⟩ : ∃ (a : Arguments) (v : Volume) (f : SourceFile)
      (b : BuildOutcome), a.options.sourceMap = none ∧ v.load a.options.source = .ok f ∧
      (run { a with json := true } (.constant · (.ok (.ofCode 0))) v).exitCode = 0 ∧
      (a.options.build (.constant a.compiler (.ok (.ofCode 0))) v).result = .ok b ∧
      (a.options.build (.constant a.compiler (.ok (.ofCode 0))) v).calls = [] :=
    ⟨⟨⟨"prog.bf", "bf.java", none, false, none⟩, "javac", false, "warn"⟩,
      ⟨[([.text "prog.bf".toList], .file 0o644 [0x2B])], []⟩, _, _, rfl, rfl, rfl, rfl, rfl⟩
  have hpredicts := run_json_predicts a (.constant · (.ok (.ofCode 0))) v hmap
  rw [hload] at hpredicts
  obtain ⟨-, -, hshows, r, hstdout, -, hsuccess, hpredicts⟩ := hpredicts
  have hwritten := (hpredicts.outcome b hresult).1
  rw [← hshows.volume_of_not_called hcalls] at hwritten
  exact ⟨a, v, r, hmap, hsuccess.mp hexit, hstdout, hpredicts, (hshows.done b hresult).1, hwritten⟩

end Command

end TapeToJava
