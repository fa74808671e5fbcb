import TapeToJava.Files.Path
import TapeToJava.Proofs.Files.Volume
import TapeToJava.Proofs.Text.Lines

/-! The directory that the text of a path gives for its last piece is the one in which that piece is looked
for: what is put beside the target of a path by its text stands beside the place that the path names. -/

namespace TapeToJava

open Text

namespace Path

/-! ### Pieces that name nothing -/

variable {piece first : List Char} {before ps : List (List Char)}

theorem getLast?_dropIdle (ps : List (List Char)) : (dropIdle ps).getLast? = ps.getLast? := by
  fun_induction dropIdle ps with
  | case1 => rfl
  | case2 first => rfl
  | case3 p ps hps hidle ih => rw [ih, List.getLast?_cons_of_ne_nil hps]
  | case4 => rfl

theorem dropIdle_suffix (ps : List (List Char)) : dropIdle ps <:+ ps := by
  fun_induction dropIdle ps with
  | case1 => exact List.suffix_rfl
  | case2 first => exact List.suffix_rfl
  | case3 p ps hps hidle ih => exact ih.trans (List.suffix_cons p ps)
  | case4 => exact List.suffix_rfl

theorem dropIdle_eq_nil_iff : dropIdle ps = [] ↔ ps = [] := by
  rw [← List.getLast?_eq_none_iff, getLast?_dropIdle, List.getLast?_eq_none_iff]

theorem dropIdle_of_ne (hempty : piece ≠ []) (hdot : piece ≠ ['.']) (ps : List (List Char)) :
    dropIdle (piece :: ps) = piece :: ps := by
  cases ps with
  | nil => rfl
  | cons p ps =>
      rw [dropIdle, if_neg (not_or.mpr ⟨hempty, hdot⟩)]
      exact List.cons_ne_nil p ps

theorem ascending_of_pieces {path : List Char} (hpieces : pieces '/' path = before ++ [piece])
    (hempty : piece ≠ []) (hdot : piece ≠ ['.']) : ascending path = piece :: before.reverse := by
  rw [ascending, hpieces, List.reverse_append, List.reverse_singleton, List.singleton_append,
    dropIdle_of_ne hempty hdot]

/-! ### Texts of paths -/

/-- A path is absolute when its first piece is empty and not the only one. -/
theorem head?_eq_slash_iff {path : List Char} (h : pieces '/' path = first :: ps) :
    path.head? = some '/' ↔ first = [] ∧ ps ≠ [] := by
  cases path with
  | nil =>
      cases h
      simp
  | cons c cs =>
      by_cases hc : c = '/'
      · subst hc
        rw [pieces_sep] at h
        cases h
        simp [pieces_ne_nil]
      · simp only [pieces, hc, if_false] at h
        split at h
        · cases h
          simp [hc]
        · cases h
          simp [hc]

theorem directory_of_pieces {path : List Char} (hpieces : pieces '/' path = [piece])
    (hname : Volume.isName piece = true) : directory path = ['.'] := by
  obtain ⟨hempty, hdot, -⟩ := Volume.isName_iff.mp hname
  have hascending := ascending_of_pieces (show pieces '/' path = [] ++ [piece] from hpieces) hempty hdot
  rw [directory, hascending, List.reverse_nil]

/-- The directory that a path gives for its last piece, by its pieces. -/
theorem pieces_directory {path : List Char} (hpieces : pieces '/' path = before ++ [piece])
    (hname : Volume.isName piece = true) (hbefore : before ≠ []) :
    (directory path = ['/'] ∧ dropIdle before.reverse = [[]]) ∨
      (dropIdle before.reverse ≠ [[]] ∧ pieces '/' (directory path) = (dropIdle before.reverse).reverse) := by
  obtain ⟨hempty, hdot, -⟩ := Volume.isName_iff.mp hname
  have hascending := ascending_of_pieces hpieces hempty hdot
  have hreverse : before.reverse ≠ [] := by simpa using hbefore
  obtain ⟨last, rest, hlast⟩ := List.exists_cons_of_ne_nil hreverse
  unfold directory
  rw [hascending, hlast]
  dsimp only
  split
  · rename_i hroot
    exact Or.inl ⟨rfl, hroot⟩
  · rename_i hroot
    refine Or.inr ⟨hroot, pieces_joined ?_ ?_⟩
    · simp [dropIdle_eq_nil_iff]
    · intro l hl
      have hl := (dropIdle_suffix _).subset (List.mem_reverse.mp hl)
      rw [← hlast, List.mem_reverse] at hl
      exact not_mem_of_mem_pieces (hpieces ▸ List.mem_append_left _ hl)

end Path

namespace Volume

variable {v : Volume} {loc dir place : Location}

/-- Pieces that name nothing do not move along a path. -/
theorem walk_dropIdle {ps : List (List Char)} (h : v.walk loc ps.reverse = .ok dir) (hdir : v.HasDirectory dir) :
    v.walk loc (Path.dropIdle ps).reverse = .ok dir := by
  fun_induction Path.dropIdle ps generalizing dir with
  | case1 => exact h
  | case2 first => exact h
  | case3 p ps hps hidle ih =>
      rw [List.reverse_cons, walk_append_eq_ok_iff] at h
      obtain ⟨mid, hmid, hlast⟩ := h
      obtain ⟨next, hnext, hend⟩ := walk_cons_eq_ok_iff.mp hlast
      cases hend
      obtain ⟨hmid', ⟨-, rfl⟩ | ⟨hup, -⟩ | ⟨hname, -⟩⟩ := enter_eq_ok_iff.mp hnext
      · exact ih hmid hmid'
      · rcases hidle with rfl | rfl
        · cases hup
        · cases hup
      · rcases hidle with rfl | rfl
        · exact absurd hname (by decide)
        · exact absurd hname (by decide)
  | case4 => exact h

theorem origin_congr {path path' : List Char} (h : path.head? = some '/' ↔ path'.head? = some '/') :
    v.origin path = v.origin path' := by
  simp only [origin, h]

/-- The directory that the text of a path gives leads to the directory of the place that the path names. -/
theorem walk_directory_of_place? {path : String} (h : v.place? path = some place) :
    v.walk (v.origin (Path.directory path.toList)) (pieces '/' (Path.directory path.toList)) = .ok place.tail := by
  obtain ⟨before, piece, dir, -, hpieces, hname, -, hwalk, hdir, rfl⟩ := place?_eq_some_iff.mp h
  rw [List.tail_cons]
  cases before with
  | nil =>
      have hrelative : ¬path.toList.head? = some '/' := fun hslash =>
        ((Path.head?_eq_slash_iff hpieces).mp hslash).2 rfl
      cases hwalk
      rw [Path.directory_of_pieces hpieces hname, v.origin_congr (iff_of_false (by simp) hrelative)]
      exact walk_cons_eq_ok_iff.mpr ⟨_, enter_eq_ok_iff.mpr ⟨hdir, Or.inl ⟨Or.inr rfl, rfl⟩⟩, rfl⟩
  | cons first before =>
      have habsolute : path.toList.head? = some '/' ↔ first = [] := by
        rw [Path.head?_eq_slash_iff hpieces]
        simp
      rw [← List.reverse_reverse (first :: before)] at hwalk
      have hidle := walk_dropIdle hwalk hdir
      have hlast := Path.getLast?_dropIdle (first :: before).reverse
      rw [List.getLast?_reverse, List.head?_cons] at hlast
      rcases Path.pieces_directory hpieces hname (List.cons_ne_nil _ _) with ⟨hroot, hdrop⟩ | ⟨hdrop, hrest⟩
      · rw [hdrop] at hlast hidle
        cases hlast
        rw [hroot, v.origin_congr (iff_of_true rfl (habsolute.mpr rfl))]
        exact walk_append_idle_eq_ok_iff.mpr ⟨hidle, hdir⟩
      · have horigin : (Path.directory path.toList).head? = some '/' ↔ path.toList.head? = some '/' := by
          obtain ⟨ps, hps⟩ := List.getLast?_eq_some_iff.mp hlast
          rw [hps, List.reverse_append, List.reverse_singleton, List.singleton_append] at hrest
          rw [Path.head?_eq_slash_iff hrest, habsolute]
          refine and_iff_left_of_imp ?_
          rintro rfl hnil
          rw [hps, List.reverse_eq_nil_iff.mp hnil] at hdrop
          exact hdrop rfl
        rw [hrest, v.origin_congr horigin, hidle]

theorem tail_of_place? {path : String} (h : v.place? path = some place)
    (hdir : v.locate (Path.directory path.toList) = .ok dir) : place.tail = dir := by
  unfold locate at hdir
  split at hdir
  · cases hdir
  · rw [walk_directory_of_place? h] at hdir
    cases hdir
    rfl

end Volume

end TapeToJava
