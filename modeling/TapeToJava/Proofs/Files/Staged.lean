import TapeToJava.Files.Staged
import TapeToJava.Proofs.Files.Volume

/-! What staging, committing and giving up do to a volume. A new temporary file has a name that occurs nowhere
in the volume, so paths lead where they led before; nothing but the temporary file and the target of a commit
is ever touched, and every failure takes the temporary file away again. -/

namespace TapeToJava.Volume

open Text

variable {v w : Volume} {loc next dir place : Location} {piece : List Char} {ps : List (List Char)}
  {path target text : String} {e : Entry} {mode : Nat} {s : Staged}

theorem head?_fileBytes {c : Char} (h : text.toList.head? = some c) :
    (fileBytes text).head? = (String.utf8EncodeChar c).head? := by
  obtain ⟨cs, hcs⟩ := List.head?_eq_some_iff.mp h
  have hne : String.utf8EncodeChar c ≠ [] := String.utf8EncodeChar_ne_nil
  obtain ⟨byte, bytes, hbytes⟩ := List.exists_cons_of_ne_nil hne
  rw [fileBytes, Utf8.encode, hcs, List.flatMap_cons, hbytes]
  rfl

/-! ### New temporary files -/

/-- Nothing is at a place or below it. -/
def Vacant (v : Volume) (loc : Location) : Prop :=
  ∀ k, loc <:+ k → v.get? k = none

theorem usedBy_le_freshId {x : Location × Entry} (hx : x ∈ v.entries) {name : Name} (hname : name ∈ x.1) :
    usedBy name ≤ v.freshId := by
  have hmem : usedBy name ∈ v.entries.flatMap fun x => x.1.map usedBy :=
    List.mem_flatMap.mpr ⟨x, hx, List.mem_map_of_mem hname⟩
  rw [freshId, List.foldl_max]
  exact Nat.le_trans (List.le_max?_getD_of_mem hmem) (Nat.le_max_right ..)

theorem vacant_fresh (v : Volume) (dir : Location) : v.Vacant (.temporary v.freshId :: dir) := by
  intro k hk
  have hname : Name.temporary v.freshId ∈ k := hk.subset List.mem_cons_self
  rw [get?, if_neg (List.ne_nil_of_mem hname), List.lookup_eq_none_iff]
  intro x hx
  rw [bne_iff_ne]
  rintro rfl
  have hle := usedBy_le_freshId hx hname
  rw [usedBy] at hle
  omega

theorem Vacant.get?_eq_none (h : v.Vacant loc) : v.get? loc = none :=
  h loc List.suffix_rfl

theorem Vacant.not_hasDirectory (h : v.Vacant loc) : ¬v.HasDirectory loc :=
  not_hasDirectory_of_get?_eq_none h.get?_eq_none

/-- A place that the file system has nothing at is not on a path, unless its last piece names it. -/
theorem walk_ne_vacant {id : Nat} (hvacant : v.Vacant (.temporary id :: dir)) (hps : ps ≠ []) :
    v.walk loc ps ≠ .ok (.temporary id :: dir) := by
  induction ps generalizing loc with
  | nil => exact absurd rfl hps
  | cons p ps ih =>
      intro h
      obtain ⟨next, hnext, hrest⟩ := walk_cons_eq_ok_iff.mp h
      cases ps with
      | cons q qs => exact ih (List.cons_ne_nil q qs) hrest
      | nil =>
          cases hrest
          obtain ⟨⟨mode, hloc⟩, ⟨-, rfl⟩ | ⟨-, htail⟩ | ⟨-, -, hname, -⟩⟩ := enter_eq_ok_iff.mp hnext
          · exact hvacant.not_hasDirectory ⟨mode, hloc⟩
          · have hbelow : v.get? loc = none := hvacant loc (htail ▸ List.tail_suffix loc)
            rw [hbelow] at hloc
            cases hloc
          · cases hname

section Temporary

variable {id : Nat} (hvacant : v.Vacant (.temporary id :: dir)) (mode : Nat) (bytes : List UInt8)

include hvacant

theorem enter_insert_temporary (loc : Location) (piece : List Char) :
    (v.insert (.temporary id :: dir) (.file mode bytes)).enter loc piece = v.enter loc piece := by
  unfold enter
  by_cases hloc : loc = .temporary id :: dir
  · subst hloc
    rw [get?_insert_self v (List.cons_ne_nil _ _), hvacant.get?_eq_none]
  · have hpiece : Name.text piece :: loc ≠ .temporary id :: dir := by
      intro h
      cases h
    rw [get?_insert_of_ne v (List.cons_ne_nil _ _) hloc, get?_insert_of_ne v (List.cons_ne_nil _ _) hpiece]

theorem walk_insert_temporary (loc : Location) (ps : List (List Char)) :
    (v.insert (.temporary id :: dir) (.file mode bytes)).walk loc ps = v.walk loc ps := by
  induction ps generalizing loc with
  | nil => rfl
  | cons p ps ih =>
      rw [walk, walk, enter_insert_temporary hvacant]
      cases v.enter loc p with
      | error fault => rfl
      | ok next => exact ih next

/-- A new temporary file is found at no path. -/
theorem stat_insert_temporary (path : String) :
    (v.insert (.temporary id :: dir) (.file mode bytes)).stat path = v.stat path := by
  have hlocate : (v.insert (.temporary id :: dir) (.file mode bytes)).locate path.toList =
      v.locate path.toList := by
    unfold locate
    cases checkPath path.toList with
    | error fault => rfl
    | ok _ => exact walk_insert_temporary hvacant mode bytes _ _
  rw [stat, stat, hlocate]
  cases hfound : v.locate path.toList with
  | error fault => rfl
  | ok loc =>
      have hloc : loc ≠ .temporary id :: dir := by
        rintro rfl
        unfold locate at hfound
        split at hfound
        · cases hfound
        · exact walk_ne_vacant hvacant (pieces_ne_nil '/' path.toList) hfound
      simp only [get?_insert_of_ne v (List.cons_ne_nil _ _) hloc]

theorem modeFor_insert_temporary (path : String) :
    (v.insert (.temporary id :: dir) (.file mode bytes)).modeFor path = v.modeFor path := by
  rw [modeFor, stat_insert_temporary hvacant, modeFor]

end Temporary

/-! ### Staging -/

/-- The permissions that a file at a path has, or those of a new file when nothing is there. -/
theorem modeFor_eq_ok_iff :
    v.modeFor path = .ok mode ↔
      (∃ e, v.stat path = .ok e ∧ mode = e.mode) ∨ (v.stat path = .error .notFound ∧ mode = newFileMode) := by
  unfold modeFor
  split
  · rename_i e hstat
    simp [hstat, eq_comm]
  · rename_i hstat
    simp [hstat, eq_comm]
  · rename_i fault hne hstat
    simp only [hstat]
    grind

theorem createTemporary_eq_ok {directory : List Char} {bytes : List UInt8} {temporary : Location}
    (h : v.createTemporary directory bytes = .ok (temporary, w)) :
    ∃ dir, v.locate directory = .ok dir ∧ v.HasDirectory dir ∧ temporary = .temporary v.freshId :: dir ∧
      w = v.insert temporary (.file temporaryMode bytes) := by
  unfold createTemporary at h
  split at h
  · cases h
  · rename_i hcheck
    split at h
    · cases h
    · split at h
      · cases h
      · rename_i dir hwalk
        cases h
        obtain ⟨hwalk, hdir⟩ := walk_append_idle_eq_ok_iff.mp hwalk
        exact ⟨dir, by simp only [locate, hcheck, hwalk], hdir, rfl, rfl⟩

/-- A temporary file stands at places of this form. -/
def IsTemporary (loc : Location) : Prop :=
  ∃ id dir, loc = .temporary id :: dir

theorem IsTemporary.ne_nil (h : IsTemporary loc) : loc ≠ [] := by
  obtain ⟨id, dir, rfl⟩ := h
  exact List.cons_ne_nil _ _

theorem TakesFile.not_isTemporary (h : v.TakesFile path place) : ¬IsTemporary place := by
  obtain ⟨name, dir, rfl⟩ := h.exists_eq_text
  rintro ⟨id, dir', hplace⟩
  cases hplace

/-- A file that can be staged for a target: its temporary file is a new one, in the directory of the target, and
it has the permissions that the target has. -/
structure StagesAs (v : Volume) (target : String) (s : Staged) (mode : Nat) : Prop where
  target_eq : s.target = target
  isTemporary : IsTemporary s.temporary
  vacant : v.Vacant s.temporary
  locate_eq : v.locate (Path.directory target.toList) = .ok s.temporary.tail
  modeFor_eq : v.modeFor target = .ok mode

namespace StagesAs

variable {mode' : Nat} {bytes : List UInt8}

theorem get?_eq_none (h : v.StagesAs target s mode) : v.get? s.temporary = none :=
  h.vacant.get?_eq_none

theorem ne_nil (h : v.StagesAs target s mode) : s.temporary ≠ [] :=
  h.isTemporary.ne_nil

theorem get?_insert (h : v.StagesAs target s mode) (e : Entry) :
    (v.insert s.temporary e).get? s.temporary = some e :=
  get?_insert_self v h.ne_nil e

theorem erase_insert (h : v.StagesAs target s mode) (e : Entry) :
    (v.insert s.temporary e).erase s.temporary = v :=
  erase_insert_eq_self h.get?_eq_none e

theorem modeFor_insert (h : v.StagesAs target s mode) (mode' : Nat) (bytes : List UInt8) (path : String) :
    (v.insert s.temporary (.file mode' bytes)).modeFor path = v.modeFor path := by
  obtain ⟨id, dir, htemporary⟩ := h.isTemporary
  rw [htemporary]
  exact modeFor_insert_temporary (htemporary ▸ h.vacant) mode' bytes path

end StagesAs

/-- Staging either fails and changes nothing, or adds a temporary file with the text. -/
theorem stage_cases (v : Volume) (target text : String) :
    (∃ fault, v.stage target text = (.error fault, v)) ∨
    ∃ s mode, v.StagesAs target s mode ∧
      v.stage target text = (.ok s, v.insert s.temporary (.file mode (fileBytes text))) := by
  unfold stage
  split
  · rename_i fault hcreate
    exact Or.inl ⟨fault, rfl⟩
  · rename_i temporary w hcreate
    obtain ⟨dir, hlocate, hdir, rfl, rfl⟩ := createTemporary_eq_ok hcreate
    have hvacant := vacant_fresh v dir
    rw [modeFor_insert_temporary hvacant]
    split
    · rename_i fault hmode
      exact Or.inl ⟨fault, by rw [discard, erase_insert_eq_self hvacant.get?_eq_none]⟩
    · rename_i mode hmode
      refine Or.inr ⟨⟨.temporary v.freshId :: dir, target⟩, mode, ⟨rfl, ⟨_, _, rfl⟩, hvacant, hlocate, hmode⟩, ?_⟩
      rw [setMode, get?_insert_self v (List.cons_ne_nil _ _)]
      simp only [Entry.withMode, insert_insert_self]

theorem stage_eq_ok (h : v.stage target text = (.ok s, w)) :
    ∃ mode, v.StagesAs target s mode ∧ w = v.insert s.temporary (.file mode (fileBytes text)) := by
  rcases stage_cases v target text with ⟨fault, hfail⟩ | ⟨s', mode, hs, hok⟩
  · rw [hfail] at h
    cases h
  · rw [hok] at h
    cases h
    exact ⟨mode, hs, rfl⟩

/-! ### Committing -/

/-- Committing either fails, because the target takes no file, and takes the temporary file away; or it moves
the temporary file to the place that the target names. -/
theorem commit_cases (hthere : v.get? s.temporary = some e) :
    (∃ fault, (∀ place, ¬v.TakesFile s.target place) ∧ v.commit s = (.error fault, v.erase s.temporary)) ∨
    ∃ place, v.TakesFile s.target place ∧ v.commit s = (.ok (), (v.erase s.temporary).insert place e) := by
  unfold commit
  split
  · rename_i fault hrename
    refine Or.inl ⟨fault, fun place htakes => ?_, rfl⟩
    rw [rename_eq_ok_iff.mpr ⟨place, e, htakes, hthere, rfl⟩] at hrename
    cases hrename
  · rename_i w hrename
    obtain ⟨place, e', htakes, hthere', rfl⟩ := rename_eq_ok_iff.mp hrename
    rw [hthere] at hthere'
    cases hthere'
    exact Or.inr ⟨place, htakes, rfl⟩

theorem sameDirectories_erase_file {bytes : List UInt8} (hthere : v.get? loc = some (.file mode bytes)) :
    v.SameDirectories (v.erase loc) := by
  apply sameDirectories_erase
  rintro ⟨m, hdir⟩
  rw [hthere] at hdir
  cases hdir

/-- Committing, told by the volume without the temporary file. -/
theorem commit_of_erase_eq {bytes : List UInt8} (hthere : v.get? s.temporary = some (.file mode bytes))
    (herase : v.erase s.temporary = w) :
    (∃ fault, (∀ place, ¬w.TakesFile s.target place) ∧ v.commit s = (.error fault, w)) ∨
    ∃ place, w.TakesFile s.target place ∧ v.commit s = (.ok (), w.insert place (.file mode bytes)) := by
  have htakes := (sameDirectories_erase_file hthere).takesFile_iff s.target
  rw [herase] at htakes
  rcases commit_cases hthere with ⟨fault, hrefused, hcommit⟩ | ⟨place, hplace, hcommit⟩
  · rw [herase] at hcommit
    exact Or.inl ⟨fault, fun place hplace => hrefused place ((htakes place).mpr hplace), hcommit⟩
  · rw [herase] at hcommit
    exact Or.inr ⟨place, (htakes place).mp hplace, hcommit⟩

/-- Writing either fails and changes nothing, or puts the text in the place that the target names, with the
permissions that the target has. -/
theorem write_cases (v : Volume) (target text : String) :
    (∃ fault, v.write target text = (.error fault, v)) ∨
    ∃ place mode, v.TakesFile target place ∧ v.modeFor target = .ok mode ∧
      v.write target text = (.ok (), v.insert place (.file mode (fileBytes text))) := by
  unfold write
  rcases stage_cases v target text with ⟨fault, hstage⟩ | ⟨s, mode, hs, hstage⟩
  · rw [hstage]
    exact Or.inl ⟨fault, rfl⟩
  · rw [hstage]
    rcases commit_of_erase_eq (hs.get?_insert _) (hs.erase_insert _) with
      ⟨fault, -, hcommit⟩ | ⟨place, htakes, hcommit⟩
    · exact Or.inl ⟨fault, hcommit⟩
    · rw [hs.target_eq] at htakes
      exact Or.inr ⟨place, mode, htakes, hs.modeFor_eq, hcommit⟩

end TapeToJava.Volume
