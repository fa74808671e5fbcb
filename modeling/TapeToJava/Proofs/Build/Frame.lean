import TapeToJava.Proofs.Build.Completion
import TapeToJava.Proofs.Build.Run
import TapeToJava.Proofs.Files.Replacement

/-! What a build does to the files, however it ends. It replaces the output file as a whole, and then the file of
the line map, or it stops before one of them; nothing else is touched, and no temporary file is left. -/

namespace TapeToJava

open Volume

namespace Emission

variable {o : BuildOptions} {v w : Volume} {loc : Location} {p path : String}

/-- The files as a build may leave them: untouched, with the class in the output file, or with the line map in
its file too, which is committed last. -/
inductive Writes (o : BuildOptions) (v : Volume) : Volume → Prop
  | nothing : Writes o v v
  | java {f : SourceFile} {g : Generated} {w : Volume} (hload : v.load o.source = .ok f)
      (hgenerate : f.generate o.resolvedClassName = .ok g) (hjava : v.Replaces o.output g.java.text w) :
      Writes o v w
  | both {f : SourceFile} {g : Generated} {path : String} {u w : Volume} (hload : v.load o.source = .ok f)
      (hgenerate : f.generate o.resolvedClassName = .ok g) (hmap : o.sourceMap = some path)
      (hjava : v.Replaces o.output g.java.text u) (hlineMap : u.Replaces path g.java.lineMap.text w)
      (hemits : o.Emits g v w) : Writes o v w

theorem replaces_of_landing (l : v.Landing path) (text : String) :
    v.Replaces path text (v.insert l.place (l.file text)) :=
  ⟨l.place, l.mode, l.takesFile, rfl⟩

theorem replaces_of_landing_insert (java : v.Landing o.output) (l : v.Landing path) (text text' : String) :
    (v.insert java.place (java.file text)).Replaces path text'
      ((v.insert java.place (java.file text)).insert l.place (l.file text')) := by
  have hsame := java.sameDirectories (.refl v) text
  exact ⟨l.place, l.mode, (hsame.takesFile_iff path l.place).mp l.takesFile, rfl⟩

theorem writes_ofOptions (o : BuildOptions) (v : Volume) : Writes o v (ofOptions o v).volume := by
  rcases ofOptions_cases o v with ⟨-, hvolume⟩ | ⟨f, g, written, hload, hgenerate, hends, hresult, hvolume⟩
  · rw [hvolume]
    exact .nothing
  · cases hends with
    | unchanged =>
        rw [hvolume]
        exact .nothing
    | java _ java =>
        rw [hvolume]
        exact .java hload hgenerate (replaces_of_landing java _)
    | halfway _ _ java =>
        rw [hvolume]
        exact .java hload hgenerate (replaces_of_landing java _)
    | both hmap java lineMap =>
        have hemits := ofOptions_eq_ok_iff.mp ⟨hresult, hvolume⟩
        rw [hvolume]
        exact .both hload hgenerate hmap (replaces_of_landing java _) (replaces_of_landing_insert java lineMap _ _)
          hemits

namespace Writes

theorem get?_eq (h : Writes o v w) (houtput : v.place? o.output ≠ some loc)
    (hmap : ∀ path, o.sourceMap = some path → v.place? path ≠ some loc) : w.get? loc = v.get? loc := by
  cases h with
  | nothing => rfl
  | java _ _ hjava => exact hjava.get?_eq houtput
  | both _ _ hmap' hjava hlineMap =>
      have hplace := hmap _ hmap'
      rw [hjava.sameDirectories.place?_eq] at hplace
      rw [hlineMap.get?_eq hplace, hjava.get?_eq houtput]

theorem get?_temporary (h : Writes o v w) (hloc : IsTemporary loc) : w.get? loc = v.get? loc :=
  h.get?_eq (place?_ne_temporary hloc v o.output) fun path _ => place?_ne_temporary hloc v path

theorem sameAt (h : Writes o v w) (houtput : ¬v.NamesTarget p o.output)
    (hmap : ∀ path, o.sourceMap = some path → ¬v.NamesTarget p path) : v.SameAt w p := by
  cases h with
  | nothing => exact .refl v p
  | java _ _ hjava => exact hjava.sameAt_of_not_namesTarget houtput
  | both _ _ hmap' hjava hlineMap =>
      refine (hjava.sameAt_of_not_namesTarget houtput).trans (hlineMap.sameAt_of_not_namesTarget ?_)
      rw [hjava.namesTarget_iff]
      exact hmap _ hmap'

theorem stat_cases (h : Writes o v w) (p : String) :
    v.SameAt w p ∨ ∃ f g text mode, v.load o.source = .ok f ∧ f.generate o.resolvedClassName = .ok g ∧
      (text = g.java.text ∨ text = g.java.lineMap.text) ∧
      w.stat p = .ok (.file mode (Text.Utf8.encode text ++ [0x0A])) := by
  cases h with
  | nothing => exact Or.inl (.refl v p)
  | java hload hgenerate hjava =>
      rcases hjava.stat_cases p with ⟨mode, hstat⟩ | hsame
      · exact Or.inr ⟨_, _, _, mode, hload, hgenerate, Or.inl rfl, hstat⟩
      · exact Or.inl hsame
  | @both f g path u w hload hgenerate _ hjava hlineMap =>
      -- The line map is committed last: a path that names both files finds it.
      rcases hlineMap.stat_cases p with ⟨mode, hstat⟩ | hbehind
      · exact Or.inr ⟨f, g, _, mode, hload, hgenerate, Or.inr rfl, hstat⟩
      rcases hjava.stat_cases p with ⟨mode, hstat⟩ | hsame
      · exact Or.inr ⟨f, g, _, mode, hload, hgenerate, Or.inl rfl, (hbehind _).mpr hstat⟩
      · exact Or.inl (hsame.trans hbehind)

/-- With a line map to write, the files are as they were, or the class alone is in the output file, or the line
map has been committed behind the class. -/
theorem lineMap_last (h : Writes o v w) (hmap : o.sourceMap = some path) :
    w = v ∨
    (∃ f g, v.load o.source = .ok f ∧ f.generate o.resolvedClassName = .ok g ∧
      v.Replaces o.output g.java.text w) ∨
    ∃ f g u, v.load o.source = .ok f ∧ f.generate o.resolvedClassName = .ok g ∧
      o.CommitsLast g v path u w (ofOptions o v).events := by
  cases h with
  | nothing => exact Or.inl rfl
  | java hload hgenerate hjava => exact Or.inr (Or.inl ⟨_, _, hload, hgenerate, hjava⟩)
  | both hload hgenerate _ _ _ hemits =>
      obtain ⟨u, hlast⟩ := hemits.exists_commitsLast hmap
      exact Or.inr (Or.inr ⟨_, _, u, hload, hgenerate, hlast⟩)

/-- A file with the text of the line map was there before, or the line map has been committed behind the class:
the class alone begins with another character. -/
theorem commitsLast_of_stat {f : SourceFile} {g : Generated} {mode : Nat} (h : Writes o v w)
    (hmap : o.sourceMap = some path) (hload : v.load o.source = .ok f)
    (hgenerate : f.generate o.resolvedClassName = .ok g)
    (hstat : w.stat p = .ok (.file mode (Text.Utf8.encode g.java.lineMap.text ++ [0x0A]))) :
    v.stat p = .ok (.file mode (Text.Utf8.encode g.java.lineMap.text ++ [0x0A])) ∨
      ∃ u, o.CommitsLast g v path u w (ofOptions o v).events := by
  rcases h.lineMap_last hmap with rfl | ⟨f', g', hload', hgenerate', hjava⟩ | ⟨f', g', u, hload', hgenerate', hlast⟩
  · exact Or.inl hstat
  · cases hload.symm.trans hload'
    cases hgenerate.symm.trans hgenerate'
    rcases hjava.stat_cases p with ⟨mode', hjavaStat⟩ | hsame
    · have hbytes : fileBytes g.java.lineMap.text = fileBytes g.java.text :=
        (Entry.file.inj (Except.ok.inj (hstat.symm.trans hjavaStat))).2
      exact absurd hbytes (SourceFile.fileBytes_text_ne_lineMap hgenerate _)
    · exact Or.inl ((hsame _).mp hstat)
  · cases hload.symm.trans hload'
    cases hgenerate.symm.trans hgenerate'
    exact Or.inr ⟨u, hlast⟩

end Writes

end Emission

namespace BuildOptions

/-- The log of a build begins with what it tells about the files. -/
theorem events_prefix (o : BuildOptions) (toolchain : Toolchain) (v : Volume) :
    (Emission.ofOptions o v).events <+: (o.build toolchain v).events := by
  unfold build
  dsimp only
  split
  · exact List.prefix_rfl
  · split
    · split
      · exact List.prefix_append _ _
      · exact (List.prefix_append _ _).trans (List.prefix_append _ _)
    · exact List.prefix_rfl

/-- However a build ends, what the toolchain finds, or what is left when it is not called, is this. What is at any
place but those of the output file and of the line map is as it was, and so is what any path finds that names
neither of them; there are no other temporary files than before; what a path finds is what it found before or a
complete new file. With a line map to write, the files are as they were, or the class alone is in the output file,
or the line map has been committed behind the class, also when both go to one place: nowhere does the text of the
line map come up in another way. -/
theorem build_frame (o : BuildOptions) (toolchain : Toolchain) (v : Volume) :
    (∀ loc, v.place? o.output ≠ some loc → (∀ path, o.sourceMap = some path → v.place? path ≠ some loc) →
      (o.build toolchain v).written.get? loc = v.get? loc) ∧
    (∀ p, ¬v.NamesTarget p o.output → (∀ path, o.sourceMap = some path → ¬v.NamesTarget p path) →
      v.SameAt (o.build toolchain v).written p) ∧
    (∀ loc, IsTemporary loc → (o.build toolchain v).written.get? loc = v.get? loc) ∧
    (∀ p, v.SameAt (o.build toolchain v).written p ∨
      ∃ f g text mode, v.load o.source = .ok f ∧ f.generate o.resolvedClassName = .ok g ∧
        (text = g.java.text ∨ text = g.java.lineMap.text) ∧
        (o.build toolchain v).written.stat p = .ok (.file mode (Text.Utf8.encode text ++ [0x0A]))) ∧
    ∀ path, o.sourceMap = some path →
      ((o.build toolchain v).written = v ∨
        (∃ f g, v.load o.source = .ok f ∧ f.generate o.resolvedClassName = .ok g ∧
          v.Replaces o.output g.java.text (o.build toolchain v).written) ∨
        ∃ f g u, v.load o.source = .ok f ∧ f.generate o.resolvedClassName = .ok g ∧
          o.CommitsLast g v path u (o.build toolchain v).written (o.build toolchain v).events) ∧
      ∀ f g p mode, v.load o.source = .ok f → f.generate o.resolvedClassName = .ok g →
        (o.build toolchain v).written.stat p =
          .ok (.file mode (Text.Utf8.encode g.java.lineMap.text ++ [0x0A])) →
        v.stat p = .ok (.file mode (Text.Utf8.encode g.java.lineMap.text ++ [0x0A])) ∨
          ∃ u, o.CommitsLast g v path u (o.build toolchain v).written (o.build toolchain v).events := by
  have hwrites := Emission.writes_ofOptions o v
  rw [← (runs_build o toolchain v).written_eq] at hwrites
  refine ⟨fun _ => hwrites.get?_eq, fun _ => hwrites.sameAt, fun _ => hwrites.get?_temporary, hwrites.stat_cases,
    fun path hmap => ⟨?_, fun f g p mode hload hgenerate hstat => ?_⟩⟩
  · rcases hwrites.lineMap_last hmap with hsame | hjava | ⟨f, g, u, hload, hgenerate, hlast⟩
    · exact Or.inl hsame
    · exact Or.inr (Or.inl hjava)
    · exact Or.inr (Or.inr ⟨f, g, u, hload, hgenerate, hlast.of_prefix (o.events_prefix toolchain v)⟩)
  · rcases hwrites.commitsLast_of_stat hmap hload hgenerate hstat with hbefore | ⟨u, hlast⟩
    · exact Or.inl hbefore
    · exact Or.inr ⟨u, hlast.of_prefix (o.events_prefix toolchain v)⟩

end BuildOptions

end TapeToJava
