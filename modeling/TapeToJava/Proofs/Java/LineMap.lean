import Mathlib.Data.List.Nodup
import TapeToJava.Java.LineMap

/-! Looking up a Java line by bisection. The window of the search keeps two facts: all entries behind it have
greater lines, and the entry it starts with, unless it is the first of all, does not. So the last entry that
is not beyond the line stands where the search ends. -/

namespace TapeToJava.Java

/-- Entries stand in ascending order of their lines, which need not be distinct. -/
def Ascending (entries : List LineEntry) : Prop :=
  entries.Pairwise fun e e' => e.javaLine ≤ e'.javaLine

theorem Ascending.le_of_getElem? {entries : List LineEntry} (h : Ascending entries) {i j : Nat}
    {e e' : LineEntry} (hij : i ≤ j) (hi : entries[i]? = some e) (hj : entries[j]? = some e') :
    e.javaLine ≤ e'.javaLine := by
  obtain ⟨hi', rfl⟩ := List.getElem?_eq_some_iff.mp hi
  obtain ⟨hj', rfl⟩ := List.getElem?_eq_some_iff.mp hj
  rcases Nat.lt_or_eq_of_le hij with hij | rfl
  · exact List.pairwise_iff_getElem.mp h i j hi' hj' hij
  · exact UInt32.le_refl _

namespace LineMap

variable {entries : List LineEntry} {line : UInt32}

/-- What is known of a window: it lies within the entries, the entry it starts with is the first of all or not
beyond the line, and all entries behind it are beyond the line. -/
structure Narrows (entries : List LineEntry) (line : UInt32) (base size : Nat) : Prop where
  pos : 0 < size
  le_length : base + size ≤ entries.length
  left : base = 0 ∨ ∃ e, entries[base]? = some e ∧ e.javaLine ≤ line
  right : ∀ j e, base + size ≤ j → entries[j]? = some e → line < e.javaLine

namespace Narrows

variable {base size : Nat} {e : LineEntry}

theorem toLeft (h : Narrows entries line base size) (hentries : Ascending entries) (hsize : 1 < size)
    (he : entries[base + size / 2]? = some e) (hline : line < e.javaLine) :
    Narrows entries line base (size - size / 2) := by
  refine ⟨by omega, ?_, h.left, ?_⟩
  · have hle := h.le_length
    omega
  · intro j e' hj he'
    exact UInt32.lt_of_lt_of_le hline (hentries.le_of_getElem? (by omega) he he')

theorem toRight (h : Narrows entries line base size) (hsize : 1 < size)
    (he : entries[base + size / 2]? = some e) (hline : ¬line < e.javaLine) :
    Narrows entries line (base + size / 2) (size - size / 2) := by
  have hle := h.le_length
  refine ⟨by omega, by omega, Or.inr ⟨e, he, UInt32.not_lt.mp hline⟩, ?_⟩
  intro j e' hj he'
  exact h.right j e' (by omega) he'

end Narrows

theorem narrows_bisect (hentries : Ascending entries) {base size : Nat}
    (h : Narrows entries line base size) : Narrows entries line (bisect entries line base size) 1 := by
  fun_induction bisect entries line base size with
  | case1 base size hsize =>
      have hone : size = 1 := Nat.le_antisymm hsize h.pos
      exact hone ▸ h
  | case2 base size hsize half hnone ih =>
      have hle := List.getElem?_eq_none_iff.mp hnone
      have hlength := h.le_length
      omega
  | case3 base size hsize half e he hline ih =>
      exact ih (h.toLeft hentries (Nat.lt_of_not_le hsize) he hline)
  | case4 base size hsize half e he hline ih =>
      exact ih (h.toRight (Nat.lt_of_not_le hsize) he hline)

variable {m : LineMap} {e : LineEntry}

theorem mem_of_find? (h : m.find? line = some e) : e ∈ m.entries ∧ e.javaLine = line := by
  obtain ⟨hget, hline⟩ := Option.filter_eq_some_iff.mp h
  exact ⟨List.mem_of_getElem? hget, eq_of_beq hline⟩

/-- A line that has an entry is found. -/
theorem exists_find? (hentries : Ascending m.entries) (he : e ∈ m.entries) (hline : e.javaLine = line) :
    ∃ e', m.find? line = some e' := by
  obtain ⟨i, hi, hget⟩ := List.getElem_of_mem he
  have hget : m.entries[i]? = some e := List.getElem?_eq_some_iff.mpr ⟨hi, hget⟩
  have hstart : Narrows m.entries line 0 m.entries.length := by
    refine ⟨Nat.lt_of_le_of_lt (Nat.zero_le i) hi, Nat.le_of_eq (Nat.zero_add _), Or.inl rfl, ?_⟩
    intro j e' hj he'
    rw [Nat.zero_add] at hj
    rw [List.getElem?_eq_none hj] at he'
    cases he'
  have hlast := narrows_bisect hentries hstart
  generalize hb : bisect m.entries line 0 m.entries.length = b at hlast
  obtain ⟨found, hfound⟩ : ∃ found, m.entries[b]? = some found :=
    ⟨_, List.getElem?_eq_getElem (Nat.lt_of_succ_le hlast.le_length)⟩
  -- The entry with the line does not stand behind the place found, and the entry there is not beyond it.
  have hle : i ≤ b := by
    apply Nat.le_of_not_lt
    intro hlt
    have hbeyond := hlast.right i e hlt hget
    rw [hline] at hbeyond
    exact UInt32.lt_irrefl _ hbeyond
  have hlower : line ≤ found.javaLine := by
    rw [← hline]
    exact hentries.le_of_getElem? hle hget hfound
  have hupper : found.javaLine ≤ line := by
    rcases hlast.left with hzero | ⟨e', he', hle'⟩
    · have hi0 : i = b := by omega
      rw [hi0, hfound] at hget
      cases hget
      rw [hline]
      exact UInt32.le_refl _
    · rw [hfound] at he'
      cases he'
      exact hle'
  refine ⟨found, ?_⟩
  rw [find?, hb, hfound]
  exact if_pos (beq_iff_eq.mpr (UInt32.le_antisymm hupper hlower))

/-- Where the entries have consecutive lines, the entry of a line stands at its distance from the first. -/
theorem find?_eq_getElem? {first : Nat}
    (hlines : ∀ i e, m.entries[i]? = some e → e.javaLine.toNat = first + i) (line : UInt32) :
    m.find? line = if first ≤ line.toNat then m.entries[line.toNat - first]? else none := by
  have hentries : Ascending m.entries := by
    apply List.pairwise_iff_getElem.mpr
    intro i j hi hj hij
    apply UInt32.le_iff_toNat_le.mpr
    rw [hlines i _ (List.getElem?_eq_getElem hi), hlines j _ (List.getElem?_eq_getElem hj)]
    omega
  cases hfind : m.find? line with
  | some e =>
      obtain ⟨hmem, hline⟩ := mem_of_find? hfind
      obtain ⟨i, hi⟩ := List.mem_iff_getElem?.mp hmem
      have hi' := hlines i e hi
      rw [hline] at hi'
      rw [if_pos (by omega), show line.toNat - first = i by omega, hi]
  | none =>
      split
      · rename_i hle
        cases he : m.entries[line.toNat - first]? with
        | none => rfl
        | some e =>
            have hline := hlines _ e he
            have heq : e.javaLine = line := UInt32.toNat_inj.mp (by omega)
            obtain ⟨e', he'⟩ := exists_find? hentries (List.mem_of_getElem? he) heq
            rw [hfind] at he'
            cases he'
      · rfl

/-! ### Bisecting and scanning -/

theorem find?_eq_none (h : ∀ e ∈ m.entries, e.javaLine ≠ line) : m.find? line = none := by
  cases hfind : m.find? line with
  | none => rfl
  | some e =>
      obtain ⟨hmem, hline⟩ := mem_of_find? hfind
      exact absurd hline (h e hmem)

theorem mem_of_scan? (h : m.scan? line = some e) : e ∈ m.entries ∧ e.javaLine = line := by
  rw [scan?] at h
  exact ⟨List.mem_of_find?_eq_some h, by simpa using List.find?_some h⟩

theorem find?_eq_scan? (hentries : Ascending m.entries) (hdistinct : (m.entries.map (·.javaLine)).Nodup) :
    m.find? line = m.scan? line := by
  cases hscan : m.scan? line with
  | none =>
      apply find?_eq_none
      intro e he
      simpa using List.find?_eq_none.mp hscan e he
  | some e =>
      obtain ⟨hmem, hline⟩ := mem_of_scan? hscan
      obtain ⟨e', hfind⟩ := exists_find? hentries hmem hline
      obtain ⟨hmem', hline'⟩ := mem_of_find? hfind
      have heq : e' = e := List.inj_on_of_nodup_map hdistinct hmem' hmem (hline'.trans hline.symm)
      rw [hfind, heq]

/-- The map with entries added one behind the other. -/
def pushAll (m : LineMap) (es : List LineEntry) : LineMap :=
  es.foldl push m

@[simp] theorem entries_pushAll (m : LineMap) (es : List LineEntry) : (m.pushAll es).entries = m.entries ++ es := by
  induction es generalizing m with
  | nil => simp [pushAll]
  | cons e es ih =>
      calc (m.pushAll (e :: es)).entries = ((m.push e).pushAll es).entries := rfl
        _ = m.entries ++ e :: es := by simp [ih]

/-- Of entries that were added in ascending order, bisection finds one with the line if there is any, and if the
lines are distinct, the one that is found by looking at the entries one after the other. -/
theorem find?_pushAll (source className : String) (es : List LineEntry) (hascending : Ascending es) (line : UInt32) :
    ((∃ e ∈ es, e.javaLine = line) →
      ∃ e ∈ es, e.javaLine = line ∧ (LineMap.pushAll ⟨source, className, []⟩ es).find? line = some e) ∧
    ((∀ e ∈ es, e.javaLine ≠ line) → (LineMap.pushAll ⟨source, className, []⟩ es).find? line = none) ∧
    ((es.map (·.javaLine)).Nodup →
      (LineMap.pushAll ⟨source, className, []⟩ es).find? line =
        (LineMap.pushAll ⟨source, className, []⟩ es).scan? line) := by
  generalize hm : LineMap.pushAll ⟨source, className, []⟩ es = m
  have hentries : m.entries = es := by simp [← hm]
  rw [← hentries] at hascending ⊢
  refine ⟨?_, find?_eq_none, find?_eq_scan? hascending⟩
  rintro ⟨e, he, hline⟩
  obtain ⟨found, hfind⟩ := exists_find? hascending he hline
  obtain ⟨hmem, hfound⟩ := mem_of_find? hfind
  exact ⟨found, hmem, hfound, hfind⟩

/-- Three entries, two of them with the same line, and no entry for the line behind it. -/
theorem find?_pushAll_repeated :
    ∃ es : List LineEntry, Ascending es ∧ (∃ e ∈ es, e.javaLine = 8) ∧
      (∃ e, (LineMap.pushAll ⟨"t.bf", "T", []⟩ es).find? 8 = some e ∧ e.javaLine = 8) ∧
      (LineMap.pushAll ⟨"t.bf", "T", []⟩ es).find? 9 = none := by
  obtain ⟨es, hascending, hmem, hgap⟩ : ∃ es : List LineEntry, Ascending es ∧ (∃ e ∈ es, e.javaLine = 8) ∧
      ∀ e ∈ es, e.javaLine ≠ 9 :=
    ⟨[⟨8, .increment, .point 1 1⟩, ⟨8, .print, .point 1 2⟩, ⟨10, .read, .point 2 1⟩], by unfold Ascending; decide,
      by decide, by decide⟩
  obtain ⟨e, -, hline, hfind⟩ := (find?_pushAll "t.bf" "T" es hascending 8).1 hmem
  obtain ⟨-, hnone, -⟩ := find?_pushAll "t.bf" "T" es hascending 9
  exact ⟨es, hascending, hmem, ⟨e, hfind, hline⟩, hnone hgap⟩

end LineMap

end TapeToJava.Java
