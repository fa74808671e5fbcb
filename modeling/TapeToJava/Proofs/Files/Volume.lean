import TapeToJava.Files.Volume

/-! Where paths lead in a volume that changes. A path leads through directories only, so what it names stays
the same as long as the directories stay; a file that is put in the place that a path names is the one found
at the path from then on. -/

namespace TapeToJava.Volume

open Text

variable {v w u : Volume} {loc next dir place : Location} {piece : List Char} {ps qs : List (List Char)}
  {path : List Char} {e : Entry}

/-! ### Entries after several changes -/

@[simp] theorem get?_nil (v : Volume) : v.get? [] = some (.directory directoryMode) :=
  if_pos rfl

theorem ne_nil_of_get?_eq_none (h : v.get? loc = none) : loc ≠ [] := by
  rintro rfl
  rw [get?_nil] at h
  cases h

theorem get?_insert_self (v : Volume) (hloc : loc ≠ []) (e : Entry) : (v.insert loc e).get? loc = some e := by
  rw [get?_insert v hloc, if_pos rfl]

theorem get?_insert_of_ne (v : Volume) (hloc : loc ≠ []) {k : Location} (hk : k ≠ loc) (e : Entry) :
    (v.insert loc e).get? k = v.get? k := by
  rw [get?_insert v hloc, if_neg hk]

theorem erase_eq_self (h : v.get? loc = none) : v.erase loc = v := by
  rw [get?, if_neg (ne_nil_of_get?_eq_none h), List.lookup_eq_none_iff] at h
  have hall : v.entries.filter (fun e => e.1 ≠ loc) = v.entries := by
    rw [List.filter_eq_self]
    intro e he
    exact decide_eq_true (Ne.symm (bne_iff_ne.mp (h e he)))
  rw [erase, hall]

theorem erase_insert_self (v : Volume) (loc : Location) (e : Entry) :
    (v.insert loc e).erase loc = v.erase loc := by
  simp [erase, insert]

theorem erase_insert_of_ne (v : Volume) {k : Location} (h : loc ≠ k) (e : Entry) :
    (v.insert loc e).erase k = (v.erase k).insert loc e := by
  simp [erase, insert, h, Bool.and_comm]

theorem insert_insert_self (v : Volume) (loc : Location) (e e' : Entry) :
    (v.insert loc e).insert loc e' = v.insert loc e' := by
  rw [insert, erase_insert_self]
  rfl

theorem erase_insert_eq_self (h : v.get? loc = none) (e : Entry) : (v.insert loc e).erase loc = v := by
  rw [erase_insert_self, erase_eq_self h]

/-! ### Directories -/

/-- There is a directory at a place. -/
def HasDirectory (v : Volume) (loc : Location) : Prop :=
  ∃ mode, v.get? loc = some (.directory mode)

theorem not_hasDirectory_of_get?_eq_none (h : v.get? loc = none) : ¬v.HasDirectory loc := by
  rintro ⟨mode, hdir⟩
  rw [h] at hdir
  cases hdir

/-- Two volumes have the same directories, and relative paths begin in the same one. -/
structure SameDirectories (v w : Volume) : Prop where
  workingDirectory_eq : v.workingDirectory = w.workingDirectory
  get?_iff : ∀ loc mode, v.get? loc = some (.directory mode) ↔ w.get? loc = some (.directory mode)

namespace SameDirectories

theorem refl (v : Volume) : v.SameDirectories v :=
  ⟨rfl, fun _ _ => Iff.rfl⟩

theorem symm (h : v.SameDirectories w) : w.SameDirectories v :=
  ⟨h.workingDirectory_eq.symm, fun loc mode => (h.get?_iff loc mode).symm⟩

theorem trans (h : v.SameDirectories w) (h' : w.SameDirectories u) : v.SameDirectories u :=
  ⟨h.workingDirectory_eq.trans h'.workingDirectory_eq,
    fun loc mode => (h.get?_iff loc mode).trans (h'.get?_iff loc mode)⟩

theorem hasDirectory_iff (h : v.SameDirectories w) (loc : Location) : v.HasDirectory loc ↔ w.HasDirectory loc :=
  exists_congr (h.get?_iff loc)

end SameDirectories

theorem sameDirectories_erase (h : ¬v.HasDirectory loc) : v.SameDirectories (v.erase loc) := by
  have hloc : loc ≠ [] := by
    rintro rfl
    exact h ⟨_, get?_nil v⟩
  refine ⟨rfl, fun k mode => ?_⟩
  rw [get?_erase v hloc]
  split
  · rename_i hk
    subst hk
    exact ⟨fun hk => absurd ⟨mode, hk⟩ h, fun hk => by cases hk⟩
  · exact Iff.rfl

theorem sameDirectories_insert (h : ¬v.HasDirectory loc) (mode : Nat) (bytes : List UInt8) :
    v.SameDirectories (v.insert loc (.file mode bytes)) := by
  have hloc : loc ≠ [] := by
    rintro rfl
    exact h ⟨_, get?_nil v⟩
  refine ⟨rfl, fun k m => ?_⟩
  rw [get?_insert v hloc]
  split
  · rename_i hk
    subst hk
    exact ⟨fun hk => absurd ⟨m, hk⟩ h, fun hk => by cases hk⟩
  · exact Iff.rfl

/-! ### Along a path -/

/-- A step along a path starts out from a directory, and a name that it takes must be there. -/
theorem enter_eq_ok_iff :
    v.enter loc piece = .ok next ↔ v.HasDirectory loc ∧
      (((piece = [] ∨ piece = ['.']) ∧ next = loc) ∨ (piece = ['.', '.'] ∧ next = loc.tail) ∨
        (isName piece = true ∧ byteLength piece ≤ maxName ∧ next = .text piece :: loc ∧
          (v.get? next).isSome)) := by
  unfold enter HasDirectory isName
  split
  · rename_i mode hdir
    grind
  · rename_i hdir
    grind

theorem walk_cons_eq_ok_iff :
    v.walk loc (piece :: ps) = .ok dir ↔ ∃ next, v.enter loc piece = .ok next ∧ v.walk next ps = .ok dir := by
  rw [walk]
  cases v.enter loc piece with
  | error fault => simp
  | ok next => simp

theorem walk_append_eq_ok_iff :
    v.walk loc (ps ++ qs) = .ok dir ↔ ∃ mid, v.walk loc ps = .ok mid ∧ v.walk mid qs = .ok dir := by
  induction ps generalizing loc with
  | nil => simp [walk]
  | cons p ps ih =>
      simp only [List.cons_append, walk_cons_eq_ok_iff, ih]
      constructor
      · rintro ⟨next, hnext, mid, hmid, hdir⟩
        exact ⟨mid, ⟨next, hnext, hmid⟩, hdir⟩
      · rintro ⟨mid, ⟨next, hnext, hmid⟩, hdir⟩
        exact ⟨next, hnext, mid, hmid, hdir⟩

/-- A path on which an empty piece follows leads to a directory. -/
theorem walk_append_idle_eq_ok_iff :
    v.walk loc (ps ++ [[]]) = .ok dir ↔ v.walk loc ps = .ok dir ∧ v.HasDirectory dir := by
  have hidle : ∀ mid, v.walk mid [[]] = .ok dir ↔ v.HasDirectory mid ∧ dir = mid := by
    intro mid
    rw [walk_cons_eq_ok_iff]
    constructor
    · rintro ⟨next, hnext, hdir⟩
      obtain ⟨hmid, hcases⟩ := enter_eq_ok_iff.mp hnext
      cases hdir
      rcases hcases with ⟨-, rfl⟩ | ⟨hpiece, -⟩ | ⟨hpiece, -⟩
      · exact ⟨hmid, rfl⟩
      · cases hpiece
      · exact absurd hpiece (by decide)
    · rintro ⟨hmid, rfl⟩
      exact ⟨dir, enter_eq_ok_iff.mpr ⟨hmid, Or.inl ⟨Or.inl rfl, rfl⟩⟩, rfl⟩
  rw [walk_append_eq_ok_iff]
  constructor
  · rintro ⟨mid, hmid, hdir⟩
    obtain ⟨hmid', rfl⟩ := (hidle mid).mp hdir
    exact ⟨hmid, hmid'⟩
  · rintro ⟨hwalk, hdir⟩
    exact ⟨dir, hwalk, (hidle dir).mpr ⟨hdir, rfl⟩⟩

theorem hasDirectory_of_walk (h : v.walk loc ps = .ok dir) (hdir : v.HasDirectory dir) : v.HasDirectory loc := by
  cases ps with
  | nil =>
      cases h
      exact hdir
  | cons p ps =>
      obtain ⟨next, hnext, -⟩ := walk_cons_eq_ok_iff.mp h
      exact (enter_eq_ok_iff.mp hnext).1

theorem SameDirectories.walk (hsame : v.SameDirectories w) (h : v.walk loc ps = .ok dir)
    (hdir : v.HasDirectory dir) : w.walk loc ps = .ok dir := by
  induction ps generalizing loc with
  | nil => exact h
  | cons p ps ih =>
      obtain ⟨next, hnext, hrest⟩ := walk_cons_eq_ok_iff.mp h
      obtain ⟨hloc, hcases⟩ := enter_eq_ok_iff.mp hnext
      refine walk_cons_eq_ok_iff.mpr ⟨next, enter_eq_ok_iff.mpr ⟨?_, ?_⟩, ih hrest⟩
      · exact (hsame.hasDirectory_iff loc).mp hloc
      rcases hcases with hstay | hup | ⟨hname, hlength, rfl, -⟩
      · exact Or.inl hstay
      · exact Or.inr (Or.inl hup)
      · -- The name leads on to a directory, which is also there in the other volume.
        obtain ⟨mode, hthere⟩ := (hsame.hasDirectory_iff _).mp (hasDirectory_of_walk hrest hdir)
        exact Or.inr (Or.inr ⟨hname, hlength, rfl, by rw [hthere]; rfl⟩)

theorem SameDirectories.origin_eq (hsame : v.SameDirectories w) (path : List Char) :
    v.origin path = w.origin path := by
  rw [origin, origin, hsame.workingDirectory_eq]

/-! ### The place that a path names -/

/-- The last piece of a path that no slash follows is looked for in the directory that the pieces in front of
it lead to. -/
theorem target_eq_ok_iff {t : Target} (hslash : t.slash = false) :
    v.target path = .ok t ↔ checkPath path = .ok () ∧ t.piece ≠ [] ∧ ∃ before,
      pieces '/' path = before ++ [t.piece] ∧ v.walk (v.origin path) before = .ok t.directory ∧
        v.HasDirectory t.directory := by
  obtain ⟨dir, piece, slash⟩ := t
  cases hslash
  have hreverse : ∀ before, pieces '/' path = before ++ [piece] ↔
      (pieces '/' path).reverse = piece :: before.reverse := by
    intro before
    rw [← List.reverse_inj, List.reverse_append, List.reverse_singleton, List.singleton_append]
  unfold target
  cases checkPath path with
  | error fault => simp
  | ok _ =>
      simp only [hreverse, true_and]
      cases (pieces '/' path).reverse with
      | nil => simp
      | cons p ps =>
          by_cases hp : p = []
          · -- An empty last piece stands behind a slash.
            subst hp
            constructor
            · intro h
              split at h
              · cases h
              · split at h
                · cases h
                · cases h
            · rintro ⟨hne, before, hbefore, -⟩
              cases hbefore
              exact absurd rfl hne
          · rw [List.dropWhile_cons_of_neg (by simpa using hp)]
            have hhead : ((p :: ps).head? == some []) = false := by simpa using hp
            simp only [hhead]
            constructor
            · intro h
              split at h
              · cases h
              · rename_i directory hwalk
                cases h
                obtain ⟨hwalk, hdir⟩ := walk_append_idle_eq_ok_iff.mp hwalk
                exact ⟨hp, ps.reverse, by rw [List.reverse_reverse], hwalk, hdir⟩
            · rintro ⟨-, before, hbefore, hwalk, hdir⟩
              cases hbefore
              rw [List.reverse_reverse, walk_append_idle_eq_ok_iff.mpr ⟨hwalk, hdir⟩]

/-- The place that a path names: the one where a file moved to the path will stand. A path that ends in a
slash, in a dot or in two dots names no such place. -/
def place? (v : Volume) (path : String) : Option Location :=
  match v.target path.toList with
  | .error _ => none
  | .ok t =>
    if isName t.piece ∧ byteLength t.piece ≤ maxName ∧ t.slash = false then some (.text t.piece :: t.directory)
    else none

theorem isName_iff : isName piece = true ↔ piece ≠ [] ∧ piece ≠ ['.'] ∧ piece ≠ ['.', '.'] := by
  simp [isName, and_assoc]

/-- A path names a place when its last piece is a name and those in front of it lead to a directory. -/
theorem place?_eq_some_iff {path : String} :
    v.place? path = some place ↔ ∃ before piece dir, checkPath path.toList = .ok () ∧
      pieces '/' path.toList = before ++ [piece] ∧ isName piece = true ∧ byteLength piece ≤ maxName ∧
      v.walk (v.origin path.toList) before = .ok dir ∧ v.HasDirectory dir ∧ place = .text piece :: dir := by
  constructor
  · intro h
    unfold place? at h
    split at h
    · cases h
    · rename_i t ht
      split at h
      · rename_i hpiece
        obtain ⟨hname, hlength, hslash⟩ := hpiece
        cases h
        obtain ⟨hcheck, -, before, hpieces, hwalk, hdir⟩ := (target_eq_ok_iff hslash).mp ht
        exact ⟨before, t.piece, t.directory, hcheck, hpieces, hname, hlength, hwalk, hdir, rfl⟩
      · cases h
  · rintro ⟨before, piece, dir, hcheck, hpieces, hname, hlength, hwalk, hdir, rfl⟩
    have hne : piece ≠ [] := by
      rintro rfl
      exact absurd hname (by decide)
    have htarget : v.target path.toList = .ok ⟨dir, piece, false⟩ :=
      (target_eq_ok_iff rfl).mpr ⟨hcheck, hne, before, hpieces, hwalk, hdir⟩
    simp only [place?, htarget, hname, hlength, and_self, if_true]

theorem SameDirectories.place?_eq (hsame : v.SameDirectories w) (path : String) :
    v.place? path = w.place? path := by
  have hone : ∀ {v w : Volume}, v.SameDirectories w → ∀ place, v.place? path = some place →
      w.place? path = some place := by
    intro v w hsame place h
    obtain ⟨before, piece, dir, hcheck, hpieces, hname, hlength, hwalk, hdir, hplace⟩ := place?_eq_some_iff.mp h
    refine place?_eq_some_iff.mpr ⟨before, piece, dir, hcheck, hpieces, hname, hlength, ?_,
      (hsame.hasDirectory_iff dir).mp hdir, hplace⟩
    rw [← hsame.origin_eq]
    exact hsame.walk hwalk hdir
  cases hw : w.place? path with
  | some place => exact hone hsame.symm place hw
  | none =>
      rw [Option.eq_none_iff_forall_ne_some]
      intro place hv
      rw [hone hsame place hv] at hw
      cases hw

/-- What is at the place that a path names is found at the path. -/
theorem stat_of_place? {path : String} (h : v.place? path = some place) (hthere : v.get? place = some e) :
    v.stat path = .ok e := by
  obtain ⟨before, piece, dir, hcheck, hpieces, hname, hlength, hwalk, hdir, rfl⟩ := place?_eq_some_iff.mp h
  have hstep : v.enter dir piece = .ok (.text piece :: dir) :=
    enter_eq_ok_iff.mpr ⟨hdir, Or.inr (Or.inr ⟨hname, hlength, rfl, by rw [hthere]; rfl⟩)⟩
  have hlocate : v.locate path.toList = .ok (.text piece :: dir) := by
    simp only [locate, hcheck]
    rw [hpieces, walk_append_eq_ok_iff]
    exact ⟨dir, hwalk, walk_cons_eq_ok_iff.mpr ⟨_, hstep, rfl⟩⟩
  simp only [stat, hlocate, hthere]

theorem readFile_of_place? {path : String} (h : v.place? path = some place) {mode : Nat} {bytes : List UInt8}
    (hthere : v.get? place = some (.file mode bytes)) : v.readFile path = .ok bytes := by
  simp only [readFile, stat_of_place? h hthere]

/-- A path takes a file when it names a place in which no directory is. -/
def TakesFile (v : Volume) (path : String) (place : Location) : Prop :=
  v.place? path = some place ∧ ¬v.HasDirectory place

theorem SameDirectories.takesFile_iff (hsame : v.SameDirectories w) (path : String) (place : Location) :
    v.TakesFile path place ↔ w.TakesFile path place := by
  rw [TakesFile, TakesFile, hsame.place?_eq, hsame.hasDirectory_iff]

theorem TakesFile.exists_eq_text {path : String} (h : v.TakesFile path place) :
    ∃ name dir, place = .text name :: dir := by
  obtain ⟨-, name, dir, -, -, -, -, -, -, hplace⟩ := place?_eq_some_iff.mp h.1
  exact ⟨name, dir, hplace⟩

theorem TakesFile.ne_nil {path : String} (h : v.TakesFile path place) : place ≠ [] := by
  obtain ⟨name, dir, rfl⟩ := h.exists_eq_text
  exact List.cons_ne_nil _ _

/-- A file put where the path takes it is what the path leads to. -/
theorem TakesFile.stat_insert {path : String} (h : v.TakesFile path place) (mode : Nat) (bytes : List UInt8) :
    (v.insert place (.file mode bytes)).stat path = .ok (.file mode bytes) := by
  have hsame := sameDirectories_insert h.2 mode bytes
  exact stat_of_place? ((hsame.place?_eq path).symm.trans h.1) (get?_insert_self v h.ne_nil _)

/-- A file is moved to a path when the path takes it. -/
theorem rename_eq_ok_iff {path : String} :
    v.rename loc path = .ok w ↔ ∃ place e, v.TakesFile path place ∧ v.get? loc = some e ∧
      w = (v.erase loc).insert place e := by
  unfold rename TakesFile place? HasDirectory
  cases v.target path.toList with
  | error fault => simp
  | ok t => grind

end TapeToJava.Volume
