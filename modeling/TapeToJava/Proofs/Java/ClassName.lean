import TapeToJava.Build.Options
import TapeToJava.Java.Scaffold
import TapeToJava.Proofs.Files.Path

/-! The class name that an output path gives. It is the stem of the last piece that names something: directories in
front of it, pieces behind it that name nothing, and extensions do not matter, and where the path ends in two dots
there is no name at all. -/

namespace TapeToJava

open Text

namespace Path

variable {path name s ext : List Char}

theorem pieces_append_slash (directory : List Char) (h : '/' ∉ name) :
    pieces '/' (directory ++ '/' :: name) = pieces '/' directory ++ [name] := by
  rw [pieces_append, pieces_of_not_mem h]

theorem ascending_append_idle {idle : List Char} (h : idle = [] ∨ idle = ['.']) (path : List Char) :
    ascending (path ++ '/' :: idle) = ascending path := by
  have hslash : '/' ∉ idle := by
    rcases h with rfl | rfl
    · simp
    · simp
  rw [ascending, pieces_append_slash path hslash, List.reverse_append, List.reverse_singleton,
    List.singleton_append, dropIdle, if_pos h]
  · rfl
  · simpa using pieces_ne_nil '/' path

theorem stem_append_idle {idle : List Char} (h : idle = [] ∨ idle = ['.']) (path : List Char) :
    stem (path ++ '/' :: idle) = stem path := by
  rw [stem, fileName?, ascending_append_idle h, ← fileName?, ← stem]

theorem stem_append_dots (path : List Char) : stem (path ++ ['/', '.', '.']) = [] := by
  have hpieces : pieces '/' (path ++ ['/', '.', '.']) = pieces '/' path ++ [['.', '.']] :=
    pieces_append_slash path (by decide)
  rw [stem, fileName?, ascending_of_pieces hpieces (by decide) (by decide)]
  rfl

theorem slash_not_mem_of_fileName? (h : fileName? path = some name) : '/' ∉ name := by
  rw [fileName?] at h
  split at h
  · cases h
  · rename_i piece rest hascending
    split at h
    · cases h
    · cases h
      have hmem : name ∈ ascending path := hascending ▸ List.mem_cons_self
      have hpieces := (dropIdle_suffix _).subset hmem
      exact not_mem_of_mem_pieces (List.mem_reverse.mp hpieces)

theorem slash_not_mem_stem (path : List Char) : '/' ∉ stem path := by
  intro hmem
  rw [stem] at hmem
  cases hname : fileName? path with
  | none => simp [hname] at hmem
  | some name =>
      rw [hname, Option.getD_some] at hmem
      exact slash_not_mem_of_fileName? hname ((List.takeWhile_sublist _).mem hmem)

theorem fileName?_of_isName {before : List (List Char)} (hpieces : pieces '/' path = before ++ [name])
    (hname : Volume.isName name = true) : fileName? path = some name := by
  obtain ⟨hempty, hdot, hdots⟩ := Volume.isName_iff.mp hname
  rw [fileName?, ascending_of_pieces hpieces hempty hdot]
  simp only [hempty, hdot, hdots, or_self, if_false]

/-- What may stand behind a stem: nothing, or a dot and any text within the piece. -/
def IsExtension (ext : List Char) : Prop :=
  ext = [] ∨ ∃ e, ext = '.' :: e ∧ '/' ∉ e

section Extended

variable (hs : s ≠ []) (hslash : '/' ∉ s) (hdot : '.' ∉ s) (hext : IsExtension ext)

include hdot hext in
theorem takeWhile_extended : (s ++ ext).takeWhile (· != '.') = s := by
  have hall : ∀ c ∈ s, (c != '.') = true := by
    intro c hc
    rw [bne_iff_ne]
    rintro rfl
    exact hdot hc
  rw [List.takeWhile_append_of_pos hall]
  rcases hext with rfl | ⟨e, rfl, -⟩
  · simp
  · simp

include hs hdot in
theorem isName_extended (ext : List Char) : Volume.isName (s ++ ext) = true := by
  obtain ⟨c, cs, rfl⟩ := List.exists_cons_of_ne_nil hs
  have hc : c ≠ '.' := fun h => hdot (h ▸ List.mem_cons_self)
  rw [Volume.isName_iff]
  simp [hc]

include hslash hext in
theorem slash_not_mem_extended : '/' ∉ s ++ ext := by
  rcases hext with rfl | ⟨e, rfl, he⟩
  · simpa using hslash
  · simp [hslash, he]

include hs hslash hdot hext in
/-- A stem is found in a single name and behind any directory. -/
theorem stem_extended : stem (s ++ ext) = s ∧ ∀ directory, stem (directory ++ '/' :: (s ++ ext)) = s := by
  have hname := isName_extended hs hdot ext
  have hpiece := slash_not_mem_extended hslash hext
  constructor
  · have hpieces : pieces '/' (s ++ ext) = [] ++ [s ++ ext] := pieces_of_not_mem hpiece
    rw [stem, fileName?_of_isName hpieces hname, Option.getD_some, takeWhile_extended hdot hext]
  · intro directory
    have hpieces := pieces_append_slash directory hpiece
    rw [stem, fileName?_of_isName hpieces hname, Option.getD_some, takeWhile_extended hdot hext]

end Extended

/-- A text that the name of a file can begin with, up to its first dot. -/
structure IsStem (s : String) : Prop where
  nonempty : s ≠ ""
  slash : '/' ∉ s.toList
  dot : '.' ∉ s.toList

/-- A path whose last piece is a stem, with or without a directory in front of it and an extension behind it. -/
inductive HasStem (s : String) : String → Prop
  | bare : HasStem s s
  | extended (e : String) (he : '/' ∉ e.toList) : HasStem s (s ++ "." ++ e)
  | within (directory : String) : HasStem s (directory ++ "/" ++ s)
  | extendedWithin (directory e : String) (he : '/' ∉ e.toList) : HasStem s (directory ++ "/" ++ s ++ "." ++ e)

theorem HasStem.stem_eq {s path : String} (h : HasStem s path) (hs : IsStem s) : stem path.toList = s.toList := by
  have hne : s.toList ≠ [] := by simpa using hs.nonempty
  have hbare : IsExtension [] := Or.inl rfl
  have hdotted : ∀ e : String, '/' ∉ e.toList → IsExtension ('.' :: e.toList) := fun e he => Or.inr ⟨_, rfl, he⟩
  cases h with
  | bare => simpa using (stem_extended hne hs.slash hs.dot hbare).1
  | extended e he => simpa using (stem_extended hne hs.slash hs.dot (hdotted e he)).1
  | within directory => simpa using (stem_extended hne hs.slash hs.dot hbare).2 directory.toList
  | extendedWithin directory e he =>
      simpa using (stem_extended hne hs.slash hs.dot (hdotted e he)).2 directory.toList

end Path

namespace Java.ClassName

open TapeToJava.Path

theorem ofPath_congr {path path' : String} (h : stem path.toList = stem path'.toList) : ofPath path = ofPath path' := by
  rw [ofPath, ofPath, h]

theorem ofPath_of_hasStem {s path : String} (h : HasStem s path) (hs : IsStem s) : ofPath path = ⟨s⟩ := by
  rw [ofPath, h.stem_eq hs, String.ofList_toList]

/-- The name for an output path is the stem of its last piece, so that outputs with the same stem begin alike. -/
theorem ofPath_depends_on_stem :
    (∀ path, '/' ∉ (ofPath path).text.toList ∧ '.' ∉ (ofPath path).text.toList ∧
      ofPath (path ++ "/") = ofPath path ∧ ofPath (path ++ "/.") = ofPath path ∧ ofPath (path ++ "/..") = ⟨""⟩) ∧
    ∀ s, IsStem s → (∀ path, HasStem s path → ofPath path = ⟨s⟩) ∧
      ∀ o o' : BuildOptions, o.className = none → o'.className = none → HasStem s o.output → HasStem s o'.output →
        Scaffold.prologue o.resolvedClassName = Scaffold.prologue o'.resolvedClassName := by
  constructor
  · intro path
    have htext : (ofPath path).text.toList = stem path.toList := String.toList_ofList
    rw [htext]
    refine ⟨slash_not_mem_stem _, dot_not_mem_stem _, ofPath_congr ?_, ofPath_congr ?_, ?_⟩
    · simpa using stem_append_idle (Or.inl rfl) path.toList
    · simpa using stem_append_idle (Or.inr rfl) path.toList
    · rw [ofPath, show (path ++ "/..").toList = path.toList ++ ['/', '.', '.'] by simp, stem_append_dots]
  · intro s hs
    have hpath : ∀ path, HasStem s path → ofPath path = ⟨s⟩ := fun path h => ofPath_of_hasStem h hs
    refine ⟨hpath, fun o o' hname hname' houtput houtput' => ?_⟩
    rw [BuildOptions.resolvedClassName, BuildOptions.resolvedClassName, hname, hname']
    dsimp only
    rw [hpath _ houtput, hpath _ houtput']

/-- An output with two extensions in a hidden directory with dots, and one that stands alone. -/
theorem ofPath_depends_on_stem_hidden :
    IsStem "my-prog" ∧ HasStem "my-prog" ".out.d//my-prog.tar.java" ∧
      ofPath ".out.d//my-prog.tar.java" = ⟨"my-prog"⟩ ∧ ofPath ".out.d//my-prog.tar.java/." = ⟨"my-prog"⟩ ∧
      Scaffold.prologue (BuildOptions.resolvedClassName ⟨"a.bf", ".out.d//my-prog.tar.java", none, true, none⟩) =
        Scaffold.prologue (BuildOptions.resolvedClassName ⟨"b.bf", "my-prog", none, false, none⟩) := by
  have hs : IsStem "my-prog" := ⟨by decide, by decide, by decide⟩
  have hpath : HasStem "my-prog" ".out.d//my-prog.tar.java" := .extendedWithin ".out.d/" "tar.java" (by decide)
  obtain ⟨hany, hstem⟩ := ofPath_depends_on_stem
  obtain ⟨hname, hprologue⟩ := hstem "my-prog" hs
  obtain ⟨-, -, -, hdot, -⟩ := hany ".out.d//my-prog.tar.java"
  refine ⟨hs, hpath, hname _ hpath, ?_, hprologue _ _ rfl rfl hpath .bare⟩
  exact hdot.trans (hname _ hpath)

end Java.ClassName

end TapeToJava
