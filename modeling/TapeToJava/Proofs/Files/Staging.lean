import Mathlib.Data.List.Nodup
import Mathlib.Logic.Relation
import TapeToJava.Proofs.Files.Path
import TapeToJava.Proofs.Files.Staged

/-! Several staged files at a time. Files are staged, committed, given up and written in any order, for targets
that may be the same, while others change the files that are not temporary. Each call touches its own temporary
file and its own target only; so at every moment there is one temporary file for each staged file that has
neither been committed nor given up, and no other. -/

namespace TapeToJava

open Text Volume

namespace Volume

/-- A volume after some changes and no others: at the places listed it has what is listed, everywhere else
what was there. -/
structure Updates (v : Volume) (changes : List (Location × Option Entry)) (w : Volume) : Prop where
  workingDirectory_eq : w.workingDirectory = v.workingDirectory
  get?_eq : ∀ loc, w.get? loc = (changes.lookup loc).getD (v.get? loc)

/-- The mode of what is at a path, or 0644 if nothing is. -/
def HasMode (v : Volume) (path : String) (mode : Nat) : Prop :=
  (∃ e, v.stat path = .ok e ∧ mode = e.mode) ∨ (v.stat path = .error .notFound ∧ mode = 0o644)

/-- A volume with other files, but with the same temporary ones. -/
structure KeepsTemporaries (v w : Volume) : Prop where
  workingDirectory_eq : w.workingDirectory = v.workingDirectory
  get?_eq : ∀ loc, IsTemporary loc → w.get? loc = v.get? loc

end Volume

/-- A staged file that has neither been committed nor given up, with the text that was staged and the files as
they were then. -/
structure Held where
  staged : Staged
  text : String
  before : Volume
  deriving DecidableEq

/-- The files, and the staged files that are held. -/
structure Staging where
  volume : Volume
  held : List Held

namespace Staging

/-- One call for a staged file or a target, or a change by others. Calls for a staged file use it up. -/
inductive Step : Staging → Staging → Prop
  | stage {v w : Volume} {held : List Held} {target text : String} {s : Staged}
      (hstage : v.stage target text = (.ok s, w)) : Step ⟨v, held⟩ ⟨w, ⟨s, text, v⟩ :: held⟩
  | stageFails {v w : Volume} {held : List Held} {target text : String} {fault : Fault}
      (hstage : v.stage target text = (.error fault, w)) : Step ⟨v, held⟩ ⟨w, held⟩
  | commit {v w : Volume} {held : List Held} {h : Held} {result : Except Fault Unit} (hmem : h ∈ held)
      (hcommit : v.commit h.staged = (result, w)) : Step ⟨v, held⟩ ⟨w, held.erase h⟩
  | discard {v : Volume} {held : List Held} {h : Held} (hmem : h ∈ held) :
      Step ⟨v, held⟩ ⟨v.discard h.staged, held.erase h⟩
  | write {v w : Volume} {held : List Held} {target text : String} {result : Except Fault Unit}
      (hwrite : v.write target text = (result, w)) : Step ⟨v, held⟩ ⟨w, held⟩
  | outside {v w : Volume} {held : List Held} (hkeeps : v.KeepsTemporaries w) : Step ⟨v, held⟩ ⟨w, held⟩

/-- What can be reached from files of which none is staged. -/
def Reachable (v₀ : Volume) (s : Staging) : Prop :=
  Relation.ReflTransGen Step ⟨v₀, []⟩ s

/-- The temporary files that have come up are those of the staged files that are held, one each, with the text
that was staged and the mode that the target had. -/
structure Accounts (v₀ : Volume) (s : Staging) : Prop where
  nodup : (s.held.map (·.staged.temporary)).Nodup
  isTemporary : ∀ h ∈ s.held, IsTemporary h.staged.temporary
  get?_start : ∀ h ∈ s.held, v₀.get? h.staged.temporary = none
  get?_held : ∀ h ∈ s.held, ∃ mode, h.before.HasMode h.staged.target mode ∧
    s.volume.get? h.staged.temporary = some (.file mode (Utf8.encode h.text ++ [0x0A]))
  get?_other : ∀ loc, IsTemporary loc → (∀ h ∈ s.held, h.staged.temporary ≠ loc) →
    s.volume.get? loc = v₀.get? loc

end Staging

namespace Volume

variable {v w : Volume} {loc place : Location} {target text : String} {e : Entry} {mode : Nat} {s : Staged}
  {bytes : List UInt8}

theorem lookup_cons_change (changes : List (Location × Option Entry)) (loc k : Location) (change : Option Entry) :
    ((loc, change) :: changes).lookup k = if k = loc then some change else changes.lookup k := by
  rw [List.lookup_cons]
  by_cases hk : k = loc
  · rw [if_pos hk, beq_iff_eq.mpr hk]
  · rw [if_neg hk, beq_eq_false_iff_ne.mpr hk]

theorem updates_insert (hloc : loc ≠ []) (e : Entry) : v.Updates [(loc, some e)] (v.insert loc e) := by
  refine ⟨rfl, fun k => ?_⟩
  rw [get?_insert v hloc, lookup_cons_change, List.lookup_nil]
  split <;> rfl

theorem updates_erase (hloc : loc ≠ []) : v.Updates [(loc, none)] (v.erase loc) := by
  refine ⟨rfl, fun k => ?_⟩
  rw [get?_erase v hloc, lookup_cons_change, List.lookup_nil]
  split <;> rfl

theorem updates_insert_erase (hloc : loc ≠ []) (hplace : place ≠ []) (e : Entry) :
    v.Updates [(place, some e), (loc, none)] ((v.erase loc).insert place e) := by
  refine ⟨rfl, fun k => ?_⟩
  rw [get?_insert _ hplace, get?_erase v hloc, lookup_cons_change, lookup_cons_change, List.lookup_nil]
  split
  · rfl
  · split <;> rfl

theorem Updates.get?_of_not_mem {changes : List (Location × Option Entry)} (h : v.Updates changes w)
    (hloc : ∀ change ∈ changes, loc ≠ change.1) : w.get? loc = v.get? loc := by
  have hlookup : changes.lookup loc = none :=
    List.lookup_eq_none_iff.mpr fun change hchange => bne_iff_ne.mpr (hloc change hchange)
  rw [h.get?_eq, hlookup, Option.getD_none]

theorem hasMode_of_modeFor (h : v.modeFor target = .ok mode) : v.HasMode target mode :=
  modeFor_eq_ok_iff.mp h

theorem keepsTemporaries_insert (hplace : v.TakesFile target place) (e : Entry) :
    v.KeepsTemporaries (v.insert place e) := by
  refine ⟨rfl, fun loc hloc => get?_insert_of_ne v hplace.ne_nil ?_ e⟩
  rintro rfl
  exact hplace.not_isTemporary hloc

end Volume

namespace Staging

variable {v₀ v w : Volume} {held : List Held} {h : Held}

/-! ### One step -/

theorem Accounts.held_nodup (ha : Accounts v₀ ⟨v, held⟩) : held.Nodup :=
  ha.nodup.of_map

/-- A held file is told from the others by its temporary file. -/
theorem Accounts.temporary_ne (ha : Accounts v₀ ⟨v, held⟩) (hmem : h ∈ held) {h' : Held}
    (hmem' : h' ∈ held.erase h) : h'.staged.temporary ≠ h.staged.temporary := by
  intro heq
  obtain ⟨hne, hmem'⟩ := ha.held_nodup.mem_erase_iff.mp hmem'
  exact hne (List.inj_on_of_nodup_map ha.nodup hmem' hmem heq)

/-- Changes to files that are not temporary. -/
theorem Accounts.of_keeps (ha : Accounts v₀ ⟨v, held⟩) (hkeeps : v.KeepsTemporaries w) :
    Accounts v₀ ⟨w, held⟩ := by
  refine ⟨ha.nodup, ha.isTemporary, ha.get?_start, fun h hmem => ?_, fun loc hloc hother => ?_⟩
  · obtain ⟨mode, hmode, hthere⟩ := ha.get?_held h hmem
    exact ⟨mode, hmode, (hkeeps.get?_eq _ (ha.isTemporary h hmem)).trans hthere⟩
  · exact (hkeeps.get?_eq loc hloc).trans (ha.get?_other loc hloc hother)

/-- The temporary file of a held file goes, and all others stay. -/
theorem Accounts.release (ha : Accounts v₀ ⟨v, held⟩) (hmem : h ∈ held) (hgone : w.get? h.staged.temporary = none)
    (hkeeps : ∀ loc, IsTemporary loc → loc ≠ h.staged.temporary → w.get? loc = v.get? loc) :
    Accounts v₀ ⟨w, held.erase h⟩ := by
  refine ⟨(List.erase_sublist.map _).nodup ha.nodup, ?_, ?_, fun h' hmem' => ?_, fun loc hloc hother => ?_⟩
  · exact fun h' hmem' => ha.isTemporary h' (List.mem_of_mem_erase hmem')
  · exact fun h' hmem' => ha.get?_start h' (List.mem_of_mem_erase hmem')
  · obtain ⟨mode, hmode, hthere⟩ := ha.get?_held h' (List.mem_of_mem_erase hmem')
    have htemporary := ha.isTemporary h' (List.mem_of_mem_erase hmem')
    exact ⟨mode, hmode, (hkeeps _ htemporary (ha.temporary_ne hmem hmem')).trans hthere⟩
  · by_cases heq : loc = h.staged.temporary
    · rw [heq, hgone, ha.get?_start h hmem]
    · rw [hkeeps loc hloc heq]
      refine ha.get?_other loc hloc fun h' hmem' hloc' => ?_
      have hne : h' ≠ h := by
        rintro rfl
        exact heq hloc'.symm
      exact hother h' ((List.mem_erase_of_ne hne).mpr hmem') hloc'

/-- A temporary file comes up for a file that is staged. -/
theorem Accounts.take (ha : Accounts v₀ ⟨v, held⟩) {target text : String} {s : Staged} {mode : Nat}
    (hs : v.StagesAs target s mode) (hw : v.Updates [(s.temporary, some (.file mode (fileBytes text)))] w) :
    Accounts v₀ ⟨w, ⟨s, text, v⟩ :: held⟩ := by
  have hnew : ∀ h' ∈ held, h'.staged.temporary ≠ s.temporary := by
    intro h' hmem' heq
    obtain ⟨mode', -, hthere⟩ := ha.get?_held h' hmem'
    rw [heq, hs.get?_eq_none] at hthere
    cases hthere
  have hkeeps : ∀ loc, loc ≠ s.temporary → w.get? loc = v.get? loc := by
    intro loc hloc
    exact hw.get?_of_not_mem fun change hchange => List.mem_singleton.mp hchange ▸ hloc
  refine ⟨?_, ?_, ?_, ?_, fun loc hloc hother => ?_⟩
  · rw [List.map_cons, List.nodup_cons]
    refine ⟨fun hmem => ?_, ha.nodup⟩
    obtain ⟨h', hmem', heq⟩ := List.mem_map.mp hmem
    exact hnew h' hmem' heq
  · exact List.forall_mem_cons.mpr ⟨hs.isTemporary, ha.isTemporary⟩
  · have hstart := (ha.get?_other _ hs.isTemporary hnew).symm.trans hs.get?_eq_none
    exact List.forall_mem_cons.mpr ⟨hstart, ha.get?_start⟩
  · have hmode : v.HasMode s.target mode := by
      rw [hs.target_eq]
      exact hasMode_of_modeFor hs.modeFor_eq
    refine List.forall_mem_cons.mpr ⟨⟨mode, hmode, ?_⟩, fun h' hmem' => ?_⟩
    · rw [hw.get?_eq, lookup_cons_change, if_pos rfl]
      rfl
    · obtain ⟨mode', hmode', hthere⟩ := ha.get?_held h' hmem'
      exact ⟨mode', hmode', (hkeeps _ (hnew h' hmem')).trans hthere⟩
  · obtain ⟨hhead, htail⟩ := List.forall_mem_cons.mp hother
    rw [hkeeps loc (Ne.symm hhead), ha.get?_other loc hloc htail]

theorem accounts_start (v₀ : Volume) : Accounts v₀ ⟨v₀, []⟩ :=
  ⟨List.nodup_nil, List.forall_mem_nil _, List.forall_mem_nil _, List.forall_mem_nil _, fun _ _ _ => rfl⟩

/-- What becomes of the files when a held file is committed. -/
theorem Accounts.commit_cases (ha : Accounts v₀ ⟨v, held⟩) (hmem : h ∈ held) :
    (∃ fault w, v.commit h.staged = (.error fault, w) ∧ (∀ place, ¬v.TakesFile h.staged.target place) ∧
      v.Updates [(h.staged.temporary, none)] w) ∨
    ∃ place mode w, v.commit h.staged = (.ok (), w) ∧ v.TakesFile h.staged.target place ∧
      h.before.HasMode h.staged.target mode ∧
      v.Updates [(place, some (.file mode (fileBytes h.text))), (h.staged.temporary, none)] w ∧
      w.stat h.staged.target = .ok (.file mode (fileBytes h.text)) := by
  obtain ⟨mode, hmode, hthere⟩ := ha.get?_held h hmem
  have hne := (ha.isTemporary h hmem).ne_nil
  rcases Volume.commit_cases hthere with ⟨fault, hrefused, hcommit⟩ | ⟨place, htakes, hcommit⟩
  · exact Or.inl ⟨fault, _, hcommit, hrefused, updates_erase hne⟩
  · have htakes' := ((sameDirectories_erase_file hthere).takesFile_iff h.staged.target place).mp htakes
    exact Or.inr ⟨place, mode, _, hcommit, htakes, hmode, updates_insert_erase hne htakes.ne_nil _,
      htakes'.stat_insert mode _⟩

theorem Accounts.discard_updates (ha : Accounts v₀ ⟨v, held⟩) (hmem : h ∈ held) :
    v.Updates [(h.staged.temporary, none)] (v.discard h.staged) :=
  updates_erase (ha.isTemporary h hmem).ne_nil

theorem Accounts.release_of_updates (ha : Accounts v₀ ⟨v, held⟩) (hmem : h ∈ held)
    (hw : v.Updates [(h.staged.temporary, none)] w) : Accounts v₀ ⟨w, held.erase h⟩ := by
  refine ha.release hmem ?_ fun loc _ hloc => ?_
  · rw [hw.get?_eq, lookup_cons_change, if_pos rfl]
    rfl
  · exact hw.get?_of_not_mem fun change hchange => List.mem_singleton.mp hchange ▸ hloc

theorem Accounts.step {s s' : Staging} (ha : Accounts v₀ s) (hstep : Step s s') : Accounts v₀ s' := by
  cases hstep with
  | @stage v w held target text s hstage =>
      rcases stage_cases v target text with ⟨fault, hfail⟩ | ⟨s, mode, hs, hok⟩
      · rw [hfail] at hstage
        cases hstage
      · rw [hok] at hstage
        cases hstage
        exact ha.take hs (updates_insert hs.ne_nil _)
  | @stageFails v w held target text fault hstage =>
      rcases stage_cases v target text with ⟨fault', hfail⟩ | ⟨s, mode, -, hok⟩
      · rw [hfail] at hstage
        cases hstage
        exact ha
      · rw [hok] at hstage
        cases hstage
  | @commit v w held h result hmem hcommit =>
      rcases ha.commit_cases hmem with ⟨fault, w', hfail, -, hw⟩ | ⟨place, mode, w', hok, htakes, -, hw, -⟩
      · rw [hfail] at hcommit
        cases hcommit
        exact ha.release_of_updates hmem hw
      · rw [hok] at hcommit
        cases hcommit
        -- The target is no temporary file, so the commit cannot run into that of another held file.
        have hplace : ∀ loc, IsTemporary loc → loc ≠ place := by
          rintro loc hloc rfl
          exact htakes.not_isTemporary hloc
        refine ha.release hmem ?_ fun loc htemporary hloc => ?_
        · rw [hw.get?_eq, lookup_cons_change, if_neg (hplace _ (ha.isTemporary h hmem)), lookup_cons_change,
            if_pos rfl]
          rfl
        · refine hw.get?_of_not_mem (List.forall_mem_cons.mpr ⟨hplace loc htemporary, ?_⟩)
          exact fun change hchange => List.mem_singleton.mp hchange ▸ hloc
  | discard hmem => exact ha.release_of_updates hmem (ha.discard_updates hmem)
  | @write v w held target text result hwrite =>
      rcases write_cases v target text with ⟨fault, hfail⟩ | ⟨place, mode, htakes, -, hok⟩
      · rw [hfail] at hwrite
        cases hwrite
        exact ha
      · rw [hok] at hwrite
        cases hwrite
        exact ha.of_keeps (keepsTemporaries_insert htakes _)
  | outside hkeeps => exact ha.of_keeps hkeeps

/-! ### Any number of steps -/

theorem Reachable.accounts {s : Staging} (hreach : Reachable v₀ s) : Accounts v₀ s := by
  induction hreach with
  | refl => exact accounts_start v₀
  | tail _ hstep ih => exact ih.step hstep

/-- Wherever the steps have led, the temporary files are those of the files that are held, one each, and every
call keeps to its own: staging adds one temporary file, giving up takes it away, committing moves it to its
target if the target takes a file and takes it away otherwise, and writing replaces its target or does nothing. -/
theorem frame_of_reachable (hreach : Reachable v₀ ⟨v, held⟩) :
    Accounts v₀ ⟨v, held⟩ ∧
    (∀ target text, match v.stage target text with
      | (.error _, w) => w = v
      | (.ok s, w) => s.target = target ∧ IsTemporary s.temporary ∧ v.get? s.temporary = none ∧
          v.locate (Path.directory target.toList) = .ok s.temporary.tail ∧
          (∀ place, v.place? target = some place → place.tail = s.temporary.tail) ∧
          ∃ mode, v.HasMode target mode ∧
            v.Updates [(s.temporary, some (.file mode (Utf8.encode text ++ [0x0A])))] w) ∧
    (∀ h ∈ held, v.Updates [(h.staged.temporary, none)] (v.discard h.staged)) ∧
    (∀ h ∈ held, match v.commit h.staged with
      | (.error _, w) => (∀ place, ¬v.TakesFile h.staged.target place) ∧
          v.Updates [(h.staged.temporary, none)] w
      | (.ok (), w) => ∃ place mode, v.TakesFile h.staged.target place ∧
          h.before.HasMode h.staged.target mode ∧
          v.Updates [(place, some (.file mode (Utf8.encode h.text ++ [0x0A]))), (h.staged.temporary, none)] w ∧
          w.stat h.staged.target = .ok (.file mode (Utf8.encode h.text ++ [0x0A]))) ∧
    ∀ target text, match v.write target text with
      | (.error _, w) => w = v
      | (.ok (), w) => ∃ place mode, v.TakesFile target place ∧ v.HasMode target mode ∧
          v.Updates [(place, some (.file mode (Utf8.encode text ++ [0x0A])))] w ∧
          w.stat target = .ok (.file mode (Utf8.encode text ++ [0x0A])) := by
  have ha := hreach.accounts
  refine ⟨ha, fun target text => ?_, fun h hmem => ha.discard_updates hmem, fun h hmem => ?_,
    fun target text => ?_⟩
  · rcases stage_cases v target text with ⟨fault, hfail⟩ | ⟨s, mode, hs, hok⟩
    · rw [hfail]
    · rw [hok]
      exact ⟨hs.target_eq, hs.isTemporary, hs.get?_eq_none, hs.locate_eq,
        fun place hplace => tail_of_place? hplace hs.locate_eq, mode, hasMode_of_modeFor hs.modeFor_eq,
        updates_insert hs.ne_nil _⟩
  · rcases ha.commit_cases hmem with ⟨fault, w, hfail, hrefused, hw⟩ | ⟨place, mode, w, hok, hrest⟩
    · rw [hfail]
      exact ⟨hrefused, hw⟩
    · rw [hok]
      exact ⟨place, mode, hrest⟩
  · rcases write_cases v target text with ⟨fault, hfail⟩ | ⟨place, mode, htakes, hmode, hok⟩
    · rw [hfail]
    · rw [hok]
      exact ⟨place, mode, htakes, hasMode_of_modeFor hmode, updates_insert htakes.ne_nil _,
        htakes.stat_insert mode _⟩

/-- Two files are staged for a target with the mode 0600, and the first of them is committed before the second
one. -/
theorem frame_of_reachable_same_target :
    ∃ v h, Reachable ⟨[([.text ['a']], .file 0o600 [])], []⟩ ⟨v, [h]⟩ ∧ h.text = "second" ∧
      ∃ w, v.commit h.staged = (.ok (), w) ∧ w.stat "a" = .ok (.file 0o600 (Utf8.encode "second" ++ [0x0A])) := by
  obtain ⟨v, h, hreach, htext, htarget, hstat, w, hcommit⟩ :
      ∃ v h, Reachable ⟨[([.text ['a']], .file 0o600 [])], []⟩ ⟨v, [h]⟩ ∧ h.text = "second" ∧
        h.staged.target = "a" ∧ h.before.stat "a" = .ok (.file 0o600 []) ∧
        ∃ w, v.commit h.staged = (.ok (), w) :=
    ⟨_, _, ((Relation.ReflTransGen.refl.tail (.stage (show stage _ "a" "first" = _ from rfl))).tail
      (.stage (show stage _ "a" "second" = _ from rfl))).tail
      (.commit (List.mem_cons_of_mem _ List.mem_cons_self) rfl), rfl, rfl, rfl, _, rfl⟩
  obtain ⟨-, -, -, hcommits, -⟩ := frame_of_reachable hreach
  have hspec := hcommits h List.mem_cons_self
  rw [hcommit, htext, htarget] at hspec
  obtain ⟨place, mode, -, hmode, -, hfound⟩ := hspec
  rcases hmode with ⟨e, hthere, rfl⟩ | ⟨hnone, -⟩
  · rw [hstat] at hthere
    cases hthere
    exact ⟨v, h, hreach, htext, w, hcommit, hfound⟩
  · rw [hstat] at hnone
    cases hnone

end Staging

end TapeToJava
