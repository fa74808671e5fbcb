import TapeToJava.Diagnostic.Report

/-! A report keeps the first findings of each kind and counts all of them. A finding is put behind those that are kept
already, as long as there is room; so whatever the report held before and however the two kinds are mixed, each list
goes on with the first of the new findings of its kind, as many as there was room for. Neither list and neither total
ever depends on the other kind. -/

namespace TapeToJava.Report

/-- A finding that is handed to a report. -/
inductive Finding where
  | error (d : Diagnostic)
  | warning (d : Diagnostic)
  deriving DecidableEq, Repr

namespace Finding

/-- The errors among findings. -/
def errors : List Finding → List Diagnostic
  | [] => []
  | error d :: fs => d :: errors fs
  | warning _ :: fs => errors fs

/-- The warnings among findings. -/
def warnings : List Finding → List Diagnostic
  | [] => []
  | error _ :: fs => warnings fs
  | warning d :: fs => d :: warnings fs

theorem mem_errors {d : Diagnostic} {fs : List Finding} : d ∈ errors fs ↔ .error d ∈ fs := by
  induction fs with
  | nil => simp [errors]
  | cons f fs ih => cases f <;> simp [errors, ih]

end Finding

/-- Takes in a finding. -/
def push (r : Report) : Finding → Report
  | .error d => r.pushError d
  | .warning d => r.pushWarning d

/-- Takes in findings, one after the other. -/
def pushAll (r : Report) (fs : List Finding) : Report :=
  fs.foldl push r

/-- Of findings for a list, the first ones are kept. -/
theorem foldl_keep (kept ds : List Diagnostic) :
    ds.foldl keep kept = kept ++ ds.take (capacity - kept.length) := by
  induction ds generalizing kept with
  | nil => rw [List.foldl_nil, List.take_nil, List.append_nil]
  | cons d ds ih =>
      rw [List.foldl_cons, ih]
      rcases Nat.lt_or_ge kept.length capacity with hroom | hfull
      · obtain ⟨room, hroom'⟩ := Nat.exists_eq_add_of_lt hroom
        have hbefore : capacity - kept.length = room + 1 := by omega
        have hbehind : capacity - (kept ++ [d]).length = room := by
          rw [List.length_append, List.length_singleton]
          omega
        rw [keep_of_lt d hroom, hbefore, hbehind, List.take_succ_cons, List.append_assoc, List.singleton_append]
      · rw [keep_of_le d hfull, Nat.sub_eq_zero_of_le hfull, List.take_zero, List.take_zero]

theorem add_one_add_ofNat (total : UInt64) (n : Nat) :
    total + 1 + UInt64.ofNat n = total + UInt64.ofNat (n + 1) := by
  rw [Nat.add_comm n 1, UInt64.ofNat_add, ← UInt64.add_assoc]
  rfl

/-- The two kinds are taken in apart from each other. -/
theorem pushAll_eq (r : Report) (fs : List Finding) :
    r.pushAll fs =
      { errors := (Finding.errors fs).foldl keep r.errors
        warnings := ((Finding.warnings fs).map Diagnostic.asWarning).foldl keep r.warnings
        totalErrors := r.totalErrors + UInt64.ofNat (Finding.errors fs).length
        totalWarnings := r.totalWarnings + UInt64.ofNat (Finding.warnings fs).length } := by
  induction fs generalizing r with
  | nil => simp [pushAll, Finding.errors, Finding.warnings]
  | cons f fs ih =>
      rw [show r.pushAll (f :: fs) = (r.push f).pushAll fs from rfl, ih]
      cases f with
      | error d => simp only [push, pushError, Finding.errors, Finding.warnings, List.foldl_cons, List.length_cons,
          add_one_add_ofNat]
      | warning d => simp only [push, pushWarning, Finding.errors, Finding.warnings, List.map_cons, List.foldl_cons,
          List.length_cons, add_one_add_ofNat]

/-- A total does not wrap while there is a number for it. -/
theorem toNat_add_ofNat {total : UInt64} {n : Nat} (h : total.toNat + n < UInt64.size) :
    (total + UInt64.ofNat n).toNat = total.toNat + n := by
  rw [UInt64.toNat_add, UInt64.toNat_ofNat_of_lt' (by omega)]
  exact Nat.mod_eq_of_lt h

theorem hasErrors_iff (r : Report) : r.hasErrors = true ↔ 0 < r.totalErrors.toNat := by
  rw [hasErrors, decide_eq_true_iff]
  exact UInt64.lt_iff_toNat_lt

/-- Whatever a report holds, it goes on with the first findings of each kind, up to twenty in all, the warnings as
warnings, and it counts every one. A report that starts empty has errors once an error was handed to it, and keeps as
many findings as it has counted, or twenty. -/
theorem pushAll_keeps_first (r : Report) (fs : List Finding)
    (herrors : r.totalErrors.toNat + (Finding.errors fs).length < UInt64.size)
    (hwarnings : r.totalWarnings.toNat + (Finding.warnings fs).length < UInt64.size) :
    (r.pushAll fs).errors = r.errors ++ (Finding.errors fs).take (20 - r.errors.length) ∧
    (r.pushAll fs).warnings =
      r.warnings ++ ((Finding.warnings fs).take (20 - r.warnings.length)).map
        (fun d => { d with severity := .warning }) ∧
    (r.pushAll fs).totalErrors.toNat = r.totalErrors.toNat + (Finding.errors fs).length ∧
    (r.pushAll fs).totalWarnings.toNat = r.totalWarnings.toNat + (Finding.warnings fs).length ∧
    (r = .empty →
      ((r.pushAll fs).hasErrors = true ↔ ∃ d, .error d ∈ fs) ∧
      (r.pushAll fs).errors.length = min 20 (r.pushAll fs).totalErrors.toNat ∧
      (r.pushAll fs).warnings.length = min 20 (r.pushAll fs).totalWarnings.toNat) := by
  have herr : (r.pushAll fs).errors = r.errors ++ (Finding.errors fs).take (20 - r.errors.length) := by
    rw [pushAll_eq]
    exact foldl_keep _ _
  have hwarn : (r.pushAll fs).warnings =
      r.warnings ++ ((Finding.warnings fs).take (20 - r.warnings.length)).map Diagnostic.asWarning := by
    rw [pushAll_eq, List.map_take]
    exact foldl_keep _ _
  have htotal : (r.pushAll fs).totalErrors.toNat = r.totalErrors.toNat + (Finding.errors fs).length := by
    rw [pushAll_eq]
    exact toNat_add_ofNat herrors
  have htotal' : (r.pushAll fs).totalWarnings.toNat = r.totalWarnings.toNat + (Finding.warnings fs).length := by
    rw [pushAll_eq]
    exact toNat_add_ofNat hwarnings
  refine ⟨herr, hwarn, htotal, htotal', ?_⟩
  rintro rfl
  rw [show Report.empty.totalErrors.toNat = 0 from rfl, Nat.zero_add] at htotal
  rw [show Report.empty.totalWarnings.toNat = 0 from rfl, Nat.zero_add] at htotal'
  refine ⟨?_, ?_, ?_⟩
  · rw [hasErrors_iff, htotal, List.length_pos_iff_exists_mem]
    exact exists_congr fun d => Finding.mem_errors
  · rw [htotal, herr, List.length_append, List.length_take]
    exact Nat.zero_add _
  · rw [htotal', hwarn, List.length_append, List.length_map, List.length_take]
    exact Nat.zero_add _

/-- A list with room for one more and totals of their own, as a report that was read back may have. -/
theorem pushAll_keeps_first_one_place :
    ∃ (r : Report) (fs : List Finding) (d : Diagnostic), r.errors.length = 19 ∧
      r.totalErrors.toNat + (Finding.errors fs).length < UInt64.size ∧
      r.totalWarnings.toNat + (Finding.warnings fs).length < UInt64.size ∧
      (r.pushAll fs).errors = r.errors ++ [d] ∧ (r.pushAll fs).totalErrors.toNat = 7 := by
  let d : Diagnostic := .ofCode "a.bf" .unmatchedBrackets "']' at 1:1 has no matching '['" (.point 1 1) "]"
  let later : Diagnostic := d.withSuggestion "Remove this ']'"
  let r : Report := ⟨List.replicate 19 later, [], 5, 3⟩
  let fs : List Finding := [.warning later, .error d, .error later]
  have herrors : r.totalErrors.toNat + (Finding.errors fs).length < UInt64.size := by decide
  have hwarnings : r.totalWarnings.toNat + (Finding.warnings fs).length < UInt64.size := by decide
  obtain ⟨hkept, -, htotal, -, -⟩ := pushAll_keeps_first r fs herrors hwarnings
  exact ⟨r, fs, d, rfl, herrors, hwarnings, hkept, htotal⟩

end TapeToJava.Report
