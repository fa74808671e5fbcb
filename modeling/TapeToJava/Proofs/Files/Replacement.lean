import TapeToJava.Proofs.Files.Staged

/-! A file that is replaced as a whole. Paths that do not name it lead where they led before and find what they
found before; every path that names it finds the new file. -/

namespace TapeToJava.Volume

open Text

variable {v w u : Volume} {loc dir place : Location} {ps : List (List Char)} {p path text : String} {e : Entry}
  {mode : Nat} {bytes : List UInt8}

/-- A path names a place when it leads to it, or when a file moved to the path will stand there. -/
def Names (v : Volume) (p : String) (loc : Location) : Prop :=
  v.locate p.toList = .ok loc ∨ v.place? p = some loc

/-- A path names the file that another path gives a place to. -/
def NamesTarget (v : Volume) (p path : String) : Prop :=
  ∃ place, v.place? path = some place ∧ v.Names p place

/-- A path finds the same in two volumes: nothing, or an entry with the same mode and the same content. -/
def SameAt (v w : Volume) (p : String) : Prop :=
  ∀ e, w.stat p = .ok e ↔ v.stat p = .ok e

theorem SameAt.refl (v : Volume) (p : String) : v.SameAt v p :=
  fun _ => Iff.rfl

theorem SameAt.trans (h : v.SameAt w p) (h' : w.SameAt u p) : v.SameAt u p :=
  fun e => (h' e).trans (h e)

theorem stat_eq_ok_iff : v.stat p = .ok e ↔ ∃ loc, v.locate p.toList = .ok loc ∧ v.get? loc = some e := by
  unfold stat
  cases v.locate p.toList with
  | error fault => simp
  | ok loc =>
      cases hthere : v.get? loc with
      | none => simp [hthere]
      | some e' => simp [hthere]

theorem locate_eq_ok_iff :
    v.locate p.toList = .ok loc ↔
      checkPath p.toList = .ok () ∧ v.walk (v.origin p.toList) (pieces '/' p.toList) = .ok loc := by
  unfold locate
  cases checkPath p.toList with
  | error fault => simp
  | ok _ => simp

/-! ### Along a path -/

section Insert

variable (hplace : ¬v.HasDirectory place) (mode : Nat) (bytes : List UInt8)

include hplace

theorem ne_nil_of_not_hasDirectory : place ≠ [] := by
  rintro rfl
  exact hplace ⟨_, get?_nil v⟩

theorem isSome_get?_insert_iff (e : Entry) (k : Location) :
    ((v.insert place e).get? k).isSome = true ↔ k = place ∨ (v.get? k).isSome = true := by
  rw [get?_insert v (ne_nil_of_not_hasDirectory hplace)]
  split
  · rename_i hk
    exact iff_of_true rfl (Or.inl hk)
  · rename_i hk
    exact (or_iff_right hk).symm

/-- A new file adds one step to those along paths: its name, in its directory. -/
theorem enter_insert_eq_ok_iff {piece : List Char} {next : Location} :
    (v.insert place (.file mode bytes)).enter loc piece = .ok next ↔ v.enter loc piece = .ok next ∨
      (next = place ∧ v.HasDirectory loc ∧ isName piece = true ∧ byteLength piece ≤ maxName ∧
        place = .text piece :: loc) := by
  rw [enter_eq_ok_iff, enter_eq_ok_iff, isSome_get?_insert_iff hplace,
    ← (sameDirectories_insert hplace mode bytes).hasDirectory_iff]
  constructor
  · rintro ⟨hloc, hstay | hup | ⟨hname, hlength, hnext, rfl | hthere⟩⟩
    · exact Or.inl ⟨hloc, Or.inl hstay⟩
    · exact Or.inl ⟨hloc, Or.inr (Or.inl hup)⟩
    · exact Or.inr ⟨rfl, hloc, hname, hlength, hnext⟩
    · exact Or.inl ⟨hloc, Or.inr (Or.inr ⟨hname, hlength, hnext, hthere⟩)⟩
  · rintro (⟨hloc, hstay | hup | ⟨hname, hlength, hnext, hthere⟩⟩ | ⟨rfl, hloc, hname, hlength, hnext⟩)
    · exact ⟨hloc, Or.inl hstay⟩
    · exact ⟨hloc, Or.inr (Or.inl hup)⟩
    · exact ⟨hloc, Or.inr (Or.inr ⟨hname, hlength, hnext, Or.inr hthere⟩)⟩
    · exact ⟨hloc, Or.inr (Or.inr ⟨hname, hlength, hnext, Or.inl rfl⟩)⟩

theorem walk_insert_of_eq_ok (h : v.walk loc ps = .ok dir) :
    (v.insert place (.file mode bytes)).walk loc ps = .ok dir := by
  induction ps generalizing loc with
  | nil => exact h
  | cons piece ps ih =>
      obtain ⟨next, hnext, hrest⟩ := walk_cons_eq_ok_iff.mp h
      exact walk_cons_eq_ok_iff.mpr
        ⟨next, (enter_insert_eq_ok_iff hplace mode bytes).mpr (Or.inl hnext), ih hrest⟩

/-- Only as the last step can the one to a new file be taken, because no path leads on from a file. -/
theorem walk_of_insert (h : (v.insert place (.file mode bytes)).walk loc ps = .ok dir) :
    v.walk loc ps = .ok dir ∨ (dir = place ∧ ∃ before piece d, ps = before ++ [piece] ∧ isName piece = true ∧
      byteLength piece ≤ maxName ∧ v.walk loc before = .ok d ∧ v.HasDirectory d ∧ place = .text piece :: d) := by
  induction ps generalizing loc with
  | nil => exact Or.inl h
  | cons piece ps ih =>
      obtain ⟨next, hnext, hrest⟩ := walk_cons_eq_ok_iff.mp h
      rcases (enter_insert_eq_ok_iff hplace mode bytes).mp hnext with
        hnext | ⟨rfl, hloc, hname, hlength, hplace'⟩
      · rcases ih hrest with hrest | ⟨hdir, before, last, d, rfl, hname, hlength, hbefore, hd, hplace'⟩
        · exact Or.inl (walk_cons_eq_ok_iff.mpr ⟨next, hnext, hrest⟩)
        · exact Or.inr ⟨hdir, piece :: before, last, d, rfl, hname, hlength,
            walk_cons_eq_ok_iff.mpr ⟨next, hnext, hbefore⟩, hd, hplace'⟩
      · cases ps with
        | nil =>
            cases hrest
            exact Or.inr ⟨rfl, [], piece, loc, rfl, hname, hlength, rfl, hloc, hplace'⟩
        | cons q qs =>
            -- A further step would start out from the new file.
            obtain ⟨_, hfile, -⟩ := walk_cons_eq_ok_iff.mp hrest
            have hdir := (enter_eq_ok_iff.mp hfile).1
            exact absurd (((sameDirectories_insert hplace mode bytes).hasDirectory_iff _).mpr hdir) hplace

theorem locate_insert_of_eq_ok (h : v.locate p.toList = .ok loc) :
    (v.insert place (.file mode bytes)).locate p.toList = .ok loc := by
  obtain ⟨hcheck, hwalk⟩ := locate_eq_ok_iff.mp h
  exact locate_eq_ok_iff.mpr ⟨hcheck, walk_insert_of_eq_ok hplace mode bytes hwalk⟩

/-- A path that leads anywhere led there before, or the place that it gives is that of the new file. -/
theorem locate_of_insert (h : (v.insert place (.file mode bytes)).locate p.toList = .ok loc) :
    v.locate p.toList = .ok loc ∨ (loc = place ∧ v.place? p = some place) := by
  obtain ⟨hcheck, hwalk⟩ := locate_eq_ok_iff.mp h
  rcases walk_of_insert hplace mode bytes hwalk with
    hwalk | ⟨hloc, before, piece, d, hpieces, hname, hlength, hbefore, hd, hplace'⟩
  · exact Or.inl (locate_eq_ok_iff.mpr ⟨hcheck, hwalk⟩)
  · exact Or.inr ⟨hloc, place?_eq_some_iff.mpr
      ⟨before, piece, d, hcheck, hpieces, hname, hlength, hbefore, hd, hplace'⟩⟩

theorem names_insert_iff : (v.insert place (.file mode bytes)).Names p loc ↔ v.Names p loc := by
  rw [Names, Names, ← (sameDirectories_insert hplace mode bytes).place?_eq]
  constructor
  · rintro (h | h)
    · rcases locate_of_insert hplace mode bytes h with h | ⟨rfl, h⟩
      · exact Or.inl h
      · exact Or.inr h
    · exact Or.inr h
  · rintro (h | h)
    · exact Or.inl (locate_insert_of_eq_ok hplace mode bytes h)
    · exact Or.inr h

theorem stat_insert_of_names (h : v.Names p place) :
    (v.insert place (.file mode bytes)).stat p = .ok (.file mode bytes) := by
  have hthere := get?_insert_self v (ne_nil_of_not_hasDirectory hplace) (.file mode bytes)
  rcases h with h | h
  · exact stat_eq_ok_iff.mpr ⟨place, locate_insert_of_eq_ok hplace mode bytes h, hthere⟩
  · exact stat_of_place? (((sameDirectories_insert hplace mode bytes).place?_eq p).symm.trans h) hthere

theorem sameAt_insert_of_not_names (h : ¬v.Names p place) : v.SameAt (v.insert place (.file mode bytes)) p := by
  have hother : ∀ loc, v.locate p.toList = .ok loc →
      (v.insert place (.file mode bytes)).get? loc = v.get? loc := by
    intro loc hloc
    refine get?_insert_of_ne v (ne_nil_of_not_hasDirectory hplace) ?_ _
    rintro rfl
    exact h (Or.inl hloc)
  intro e
  rw [stat_eq_ok_iff, stat_eq_ok_iff]
  constructor
  · rintro ⟨loc, hloc, hthere⟩
    rcases locate_of_insert hplace mode bytes hloc with hloc | ⟨-, hnames⟩
    · exact ⟨loc, hloc, (hother loc hloc).symm.trans hthere⟩
    · exact absurd (Or.inr hnames) h
  · rintro ⟨loc, hloc, hthere⟩
    exact ⟨loc, locate_insert_of_eq_ok hplace mode bytes hloc, (hother loc hloc).trans hthere⟩

end Insert

/-! ### The file that a path takes -/

theorem place?_ne_temporary (h : IsTemporary loc) (v : Volume) (path : String) : v.place? path ≠ some loc := by
  obtain ⟨id, dir, rfl⟩ := h
  intro hplace
  obtain ⟨-, _, _, -, -, -, -, -, -, heq⟩ := place?_eq_some_iff.mp hplace
  cases heq

/-- A volume in which the file that a path gives a place to has been replaced by one that holds a text and a line
feed. -/
def Replaces (v : Volume) (path text : String) (w : Volume) : Prop :=
  ∃ place mode, v.TakesFile path place ∧ w = v.insert place (.file mode (Utf8.encode text ++ [0x0A]))

namespace Replaces

theorem sameDirectories (h : v.Replaces path text w) : v.SameDirectories w := by
  obtain ⟨place, mode, htakes, rfl⟩ := h
  exact sameDirectories_insert htakes.2 mode _

theorem get?_eq (h : v.Replaces path text w) (hloc : v.place? path ≠ some loc) : w.get? loc = v.get? loc := by
  obtain ⟨place, mode, htakes, rfl⟩ := h
  refine get?_insert_of_ne v htakes.ne_nil ?_ _
  rintro rfl
  exact hloc htakes.1

theorem namesTarget_iff (h : v.Replaces path text w) (p q : String) : w.NamesTarget p q ↔ v.NamesTarget p q := by
  have hplaces := h.sameDirectories.place?_eq q
  obtain ⟨place, mode, htakes, rfl⟩ := h
  simp only [NamesTarget, ← hplaces, names_insert_iff htakes.2]

theorem stat_of_namesTarget (h : v.Replaces path text w) (hp : v.NamesTarget p path) :
    ∃ mode, w.stat p = .ok (.file mode (Utf8.encode text ++ [0x0A])) := by
  obtain ⟨place, mode, htakes, rfl⟩ := h
  obtain ⟨place', hplace', hnames⟩ := hp
  cases htakes.1.symm.trans hplace'
  exact ⟨mode, stat_insert_of_names htakes.2 mode _ hnames⟩

theorem sameAt_of_not_namesTarget (h : v.Replaces path text w) (hp : ¬v.NamesTarget p path) : v.SameAt w p := by
  obtain ⟨place, mode, htakes, rfl⟩ := h
  exact sameAt_insert_of_not_names htakes.2 mode _ fun hnames => hp ⟨place, htakes.1, hnames⟩

/-- A path finds the new file, or what it found before. -/
theorem stat_cases (h : v.Replaces path text w) (p : String) :
    (∃ mode, w.stat p = .ok (.file mode (Utf8.encode text ++ [0x0A]))) ∨ v.SameAt w p := by
  by_cases hp : v.NamesTarget p path
  · exact Or.inl (h.stat_of_namesTarget hp)
  · exact Or.inr (h.sameAt_of_not_namesTarget hp)

end Replaces

end TapeToJava.Volume
