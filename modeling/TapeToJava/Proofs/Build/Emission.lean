import TapeToJava.Build.Emission
import TapeToJava.Proofs.Files.Staged
import TapeToJava.Proofs.Java.Scaffold

/-! What the writing of the outputs comes to. It fails with every file as it was, or it writes what was asked
for; or, when the path of the line map takes no file, it fails with the Java file written. -/

namespace TapeToJava

open Volume

/-! ### The texts -/

theorem SourceFile.head?_generate {f : SourceFile} {name : Java.ClassName} {g : Generated}
    (h : f.generate name = .ok g) : (fileBytes g.java.text).head? = some 0x69 := by
  unfold generate Java.CompilationUnit.ofTokens at h
  split at h
  · cases h
  · rename_i java hjava
    split at hjava
    · cases hjava
    · cases hjava
      cases h
      exact head?_fileBytes (Java.Scaffold.head?_wrap name _)

theorem Java.LineMap.head?_fileBytes_text (m : Java.LineMap) : (fileBytes m.text).head? = some 0x7B := by
  have htext : m.text.toList.head? = some '\x7b' := by
    rw [text, Json.Tree.prettyText, String.toList_ofList]
    rfl
  exact head?_fileBytes htext

/-- The file of a class is never that of its line map. -/
theorem SourceFile.fileBytes_text_ne_lineMap {f : SourceFile} {name : Java.ClassName} {g : Generated}
    (h : f.generate name = .ok g) (m : Java.LineMap) : fileBytes m.text ≠ fileBytes g.java.text := by
  intro heq
  have hmap := m.head?_fileBytes_text
  rw [heq, head?_generate h] at hmap
  exact absurd hmap (by decide)

/-! ### Writing them -/

/-- A place that takes the file of a path, and the mode that the file gets there. -/
structure Volume.Landing (v : Volume) (path : String) where
  place : Location
  mode : Nat
  takesFile : v.TakesFile path place
  modeFor_eq : v.modeFor path = .ok mode

namespace Volume.Landing

variable {v : Volume} {path : String}

/-- The file that holds a text. -/
def file (l : v.Landing path) (text : String) : Entry :=
  .file l.mode (fileBytes text)

theorem sameDirectories (l : v.Landing path) {w : Volume} (h : v.SameDirectories w) (text : String) :
    v.SameDirectories (w.insert l.place (l.file text)) :=
  h.trans (sameDirectories_insert (mt (h.hasDirectory_iff l.place).mpr l.takesFile.2) ..)

theorem readFile (l : v.Landing path) (text : String) :
    (v.insert l.place (l.file text)).readFile path = .ok (fileBytes text) := by
  rw [Volume.readFile, file, l.takesFile.stat_insert]

end Volume.Landing

namespace Emission

variable {o : BuildOptions} {g : Generated} {v : Volume}

/-- How the writing of the outputs of a class may end. -/
inductive Ends (o : BuildOptions) (g : Generated) (v : Volume) : Emission Unit → Prop
  | unchanged {path : String} {fault : Fault} (hpath : path = o.output ∨ o.sourceMap = some path) :
      Ends o g v ⟨.error (.files path fault), v, []⟩
  | java (hmap : o.sourceMap = none) (java : v.Landing o.output) :
      Ends o g v ⟨.ok (), v.insert java.place (java.file g.java.text), [BuildEvent.wroteJava o g]⟩
  | halfway {path : String} {fault : Fault} (hmap : o.sourceMap = some path)
      (hrefused : ∀ place, ¬v.TakesFile path place) (java : v.Landing o.output) :
      Ends o g v ⟨.error (.files path fault), v.insert java.place (java.file g.java.text),
        [BuildEvent.wroteJava o g]⟩
  | both {path : String} (hmap : o.sourceMap = some path) (java : v.Landing o.output)
      (lineMap : v.Landing path) :
      Ends o g v ⟨.ok (), (v.insert java.place (java.file g.java.text)).insert lineMap.place
        (lineMap.file g.java.lineMap.text), [BuildEvent.wroteJava o g, BuildEvent.wroteLineMap path]⟩

/-- Committing the line map of a class whose Java file has been committed. -/
theorem ends_commitLineMap {path : String} (hmap : o.sourceMap = some path) (java : v.Landing o.output)
    {s : Staged} {mode : Nat} (htarget : s.target = path) (htemporary : IsTemporary s.temporary)
    (hfree : v.get? s.temporary = none) (hmode : v.modeFor path = .ok mode) {rest : Emission Unit}
    (hrest : commitLineMap ((v.insert s.temporary (.file mode (fileBytes g.java.lineMap.text))).insert java.place
      (java.file g.java.text)) (some s) = rest) :
    Ends o g v { rest with events := BuildEvent.wroteJava o g :: rest.events } := by
  have hne : s.temporary ≠ java.place := by
    intro heq
    exact java.takesFile.not_isTemporary (heq ▸ htemporary)
  have hthere : ((v.insert s.temporary (.file mode (fileBytes g.java.lineMap.text))).insert java.place
      (java.file g.java.text)).get? s.temporary = some (.file mode (fileBytes g.java.lineMap.text)) := by
    rw [get?_insert_of_ne _ java.takesFile.ne_nil hne, get?_insert_self v htemporary.ne_nil]
  have herase : ((v.insert s.temporary (.file mode (fileBytes g.java.lineMap.text))).insert java.place
      (java.file g.java.text)).erase s.temporary = v.insert java.place (java.file g.java.text) := by
    rw [erase_insert_of_ne _ hne.symm, erase_insert_eq_self hfree]
  have htakes := (java.sameDirectories (.refl v) g.java.text).takesFile_iff path
  rw [commitLineMap] at hrest
  rcases commit_of_erase_eq hthere herase with ⟨fault, hrefused, hcommit⟩ | ⟨place, hplace, hcommit⟩
  · rw [hcommit, htarget] at hrest
    subst hrest
    rw [htarget] at hrefused
    exact .halfway hmap (fun place hplace => hrefused place ((htakes place).mp hplace)) java
  · rw [hcommit, htarget] at hrest
    subst hrest
    rw [htarget] at hplace
    exact .both hmap java ⟨place, mode, (htakes place).mpr hplace, hmode⟩

section Commits

variable {s : Staged} {mode : Nat} (hs : v.StagesAs o.output s mode)

include hs

/-- Committing the Java file of a class without a line map. -/
theorem ends_commitAll_none (hmap : o.sourceMap = none) :
    Ends o g v (commitAll o g (v.insert s.temporary (.file mode (fileBytes g.java.text))) s none) := by
  unfold commitAll
  rcases commit_of_erase_eq (hs.get?_insert _) (hs.erase_insert _) with
    ⟨fault, -, hcommit⟩ | ⟨place, htakes, hcommit⟩
  · rw [hcommit]
    exact .unchanged (Or.inl rfl)
  · rw [hcommit]
    rw [hs.target_eq] at htakes
    exact .java hmap ⟨place, mode, htakes, hs.modeFor_eq⟩

/-- Committing the Java file of a class, and then its line map. -/
theorem ends_commitAll_some {path : String} (hmap : o.sourceMap = some path) {s' : Staged} {mode' : Nat}
    (hs' : (v.insert s.temporary (.file mode (fileBytes g.java.text))).StagesAs path s' mode') :
    Ends o g v (commitAll o g ((v.insert s.temporary (.file mode (fileBytes g.java.text))).insert s'.temporary
      (.file mode' (fileBytes g.java.lineMap.text))) s (some s')) := by
  -- The second file is staged while the first one's temporary file is there, so it gets another.
  have hne : s'.temporary ≠ s.temporary := by
    intro heq
    have hfree := hs'.get?_eq_none
    rw [heq, hs.get?_insert] at hfree
    cases hfree
  have hfree : v.get? s'.temporary = none := by
    rw [← hs'.get?_eq_none, get?_insert_of_ne v hs.ne_nil hne]
  have hmode : v.modeFor path = .ok mode' := by
    rw [← hs.modeFor_insert, hs'.modeFor_eq]
  have hthere : ((v.insert s.temporary (.file mode (fileBytes g.java.text))).insert s'.temporary
      (.file mode' (fileBytes g.java.lineMap.text))).get? s.temporary =
        some (.file mode (fileBytes g.java.text)) := by
    rw [get?_insert_of_ne _ hs'.ne_nil hne.symm, hs.get?_insert]
  have herase : ((v.insert s.temporary (.file mode (fileBytes g.java.text))).insert s'.temporary
      (.file mode' (fileBytes g.java.lineMap.text))).erase s.temporary =
        v.insert s'.temporary (.file mode' (fileBytes g.java.lineMap.text)) := by
    rw [erase_insert_of_ne _ hne, hs.erase_insert]
  unfold commitAll
  rcases commit_of_erase_eq hthere herase with ⟨fault, -, hcommit⟩ | ⟨place, htakes, hcommit⟩
  · rw [hcommit]
    have hdiscard : discardLineMap (v.insert s'.temporary (.file mode' (fileBytes g.java.lineMap.text)))
        (some s') = v := erase_insert_eq_self hfree _
    simp only [hdiscard]
    exact .unchanged (Or.inl rfl)
  · rw [hcommit]
    have hsame : v.SameDirectories (v.insert s'.temporary (.file mode' (fileBytes g.java.lineMap.text))) :=
      sameDirectories_insert (not_hasDirectory_of_get?_eq_none hfree) mode' _
    rw [hs.target_eq] at htakes
    exact ends_commitLineMap hmap ⟨place, mode, (hsame.takesFile_iff _ place).mpr htakes, hs.modeFor_eq⟩
      hs'.target_eq hs'.isTemporary hfree hmode rfl

end Commits

/-- The outputs of a class are staged first; a file that cannot be staged leaves no trace of those before it. -/
theorem ends_ofGenerated (o : BuildOptions) (g : Generated) (v : Volume) : Ends o g v (ofGenerated o g v) := by
  unfold ofGenerated
  rcases stage_cases v o.output g.java.text with ⟨fault, hstage⟩ | ⟨s, mode, hs, hstage⟩
  · rw [hstage]
    exact .unchanged (Or.inl rfl)
  · rw [hstage]
    dsimp only
    unfold stageLineMap
    cases hmap : o.sourceMap with
    | none => exact ends_commitAll_none hs hmap
    | some path =>
        dsimp only
        rcases stage_cases (v.insert s.temporary (.file mode (fileBytes g.java.text))) path
          g.java.lineMap.text with ⟨fault, hstage'⟩ | ⟨s', mode', hs', hstage'⟩
        · rw [hstage']
          dsimp only
          rw [Volume.discard, hs.erase_insert]
          exact .unchanged (Or.inr hmap)
        · rw [hstage']
          exact ends_commitAll_some hs hmap hs'

/-- What is in the output file when the outputs of a class have been written. -/
theorem Ends.readFile_output {w : Volume} {events : List Log.Event} (hends : Ends o g v ⟨.ok (), w, events⟩) :
    ((∀ path, o.sourceMap = some path → v.place? path ≠ v.place? o.output) →
      w.readFile o.output = .ok (fileBytes g.java.text)) ∧
    ∀ path, o.sourceMap = some path → v.place? path = v.place? o.output →
      w.readFile o.output = .ok (fileBytes g.java.lineMap.text) := by
  cases hends with
  | java hmap java =>
      refine ⟨fun _ => java.readFile _, fun path hpath => ?_⟩
      rw [hmap] at hpath
      cases hpath
  | both hmap java lineMap =>
      have hplace := (lineMap.sameDirectories (java.sameDirectories (.refl v) g.java.text)
        g.java.lineMap.text).place?_eq o.output
      refine ⟨fun hne => ?_, fun path hpath heq => ?_⟩
      · have hplaces : java.place ≠ lineMap.place := by
          intro heq
          refine hne _ hmap ?_
          rw [java.takesFile.1, lineMap.takesFile.1, heq]
        have hthere := get?_insert_self v java.takesFile.ne_nil (java.file g.java.text)
        rw [← get?_insert_of_ne _ lineMap.takesFile.ne_nil hplaces (lineMap.file g.java.lineMap.text)] at hthere
        exact readFile_of_place? (hplace.symm.trans java.takesFile.1) hthere
      · rw [hmap] at hpath
        cases hpath
        rw [← heq, lineMap.takesFile.1] at hplace
        exact readFile_of_place? hplace.symm (get?_insert_self _ lineMap.takesFile.ne_nil _)

theorem Ends.readFile_lineMap {w : Volume} {events : List Log.Event} {path : String}
    (hends : Ends o g v ⟨.ok (), w, events⟩) (hmap : o.sourceMap = some path) :
    w.readFile path = .ok (fileBytes g.java.lineMap.text) := by
  cases hends with
  | java hnone =>
      rw [hmap] at hnone
      cases hnone
  | both hmap' java lineMap =>
      cases hmap.symm.trans hmap'
      have hplace := (lineMap.sameDirectories (java.sameDirectories (.refl v) g.java.text)
        g.java.lineMap.text).place?_eq path
      exact readFile_of_place? (hplace.symm.trans lineMap.takesFile.1)
        (get?_insert_self _ lineMap.takesFile.ne_nil _)

/-! ### From the source file on -/

section Source

variable {f : SourceFile}

theorem ofOptions_of_load_error {e : BuildError} (hload : v.load o.source = .error e) :
    (ofOptions o v).result = .error e ∧ (ofOptions o v).volume = v := by
  simp only [ofOptions, hload, and_self]

theorem ofOptions_of_generate_error {errors : Report} (hload : v.load o.source = .ok f)
    (hgenerate : f.generate o.resolvedClassName = .error errors) :
    (ofOptions o v).result = .error (.rejected errors) ∧ (ofOptions o v).volume = v := by
  simp only [ofOptions, hload, hgenerate, and_self]

/-- Once the class has been generated, only the writing of the outputs is left. -/
theorem ends_of_generate_ok (hload : v.load o.source = .ok f)
    (hgenerate : f.generate o.resolvedClassName = .ok g) :
    ∃ written, Ends o g v written ∧ (ofOptions o v).result = written.result.map (fun () => g) ∧
      (ofOptions o v).volume = written.volume := by
  refine ⟨ofGenerated o g v, ends_ofGenerated o g v, ?_, ?_⟩
  · simp only [ofOptions, hload, hgenerate]
  · simp only [ofOptions, hload, hgenerate]

end Source

/-- A source file is loaded and its class is generated before anything is written. -/
theorem ofOptions_cases (o : BuildOptions) (v : Volume) :
    ((∃ e, (ofOptions o v).result = .error e) ∧ (ofOptions o v).volume = v) ∨
    ∃ f g written, v.load o.source = .ok f ∧ f.generate o.resolvedClassName = .ok g ∧ Ends o g v written ∧
      (ofOptions o v).result = written.result.map (fun () => g) ∧ (ofOptions o v).volume = written.volume := by
  cases hload : v.load o.source with
  | error e =>
      obtain ⟨hresult, hvolume⟩ := ofOptions_of_load_error hload
      exact Or.inl ⟨⟨e, hresult⟩, hvolume⟩
  | ok f =>
      cases hgenerate : f.generate o.resolvedClassName with
      | error errors =>
          obtain ⟨hresult, hvolume⟩ := ofOptions_of_generate_error hload hgenerate
          exact Or.inl ⟨⟨_, hresult⟩, hvolume⟩
      | ok g =>
          obtain ⟨written, hwritten⟩ := ends_of_generate_ok hload hgenerate
          exact Or.inr ⟨f, g, written, rfl, hgenerate, hwritten⟩

theorem ends_of_result_ok (h : (ofOptions o v).result = .ok g) :
    ∃ f, v.load o.source = .ok f ∧ f.generate o.resolvedClassName = .ok g ∧
      ∃ events, Ends o g v ⟨.ok (), (ofOptions o v).volume, events⟩ := by
  rcases ofOptions_cases o v with
    ⟨⟨e, he⟩, -⟩ | ⟨f, g', ⟨result, w, events⟩, hload, hgenerate, hends, hresult, hvolume⟩
  · rw [he] at h
    cases h
  · rw [h] at hresult
    rw [hvolume]
    cases result with
    | error e => cases hresult
    | ok _ =>
        cases hresult
        exact ⟨f, hload, hgenerate, events, hends⟩

/-- Outputs that cannot all be written are not written, unless the line map is to go where no file can. -/
theorem volume_of_result_error {e : BuildError} (h : (ofOptions o v).result = .error e) :
    (ofOptions o v).volume = v ∨
      ∃ f g path fault, v.load o.source = .ok f ∧ f.generate o.resolvedClassName = .ok g ∧
        o.sourceMap = some path ∧ (∀ place, ¬v.TakesFile path place) ∧ e = .files path fault ∧
        ∃ java : v.Landing o.output, (ofOptions o v).volume = v.insert java.place (java.file g.java.text) := by
  rcases ofOptions_cases o v with ⟨-, hvolume⟩ | ⟨f, g, written, hload, hgenerate, hends, hresult, hvolume⟩
  · exact Or.inl hvolume
  · rw [h] at hresult
    rw [hvolume]
    cases hends with
    | unchanged => exact Or.inl rfl
    | java => cases hresult
    | halfway hmap hrefused java =>
        cases hresult
        exact Or.inr ⟨f, g, _, _, hload, hgenerate, hmap, hrefused, rfl, java, rfl⟩
    | both => cases hresult

end Emission

end TapeToJava
