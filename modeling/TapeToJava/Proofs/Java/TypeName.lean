import Mathlib.Logic.Basic
import TapeToJava.Java.TypeName
import TapeToJava.Proofs.Diagnostic.Blame

/-! Which class names are warned about. Among ASCII names the check accepts the names that the language allows for
classes. It knows no word that is kept for declarations, though, and accepts these five as well, so that a class
of such a name is generated without a warning. -/

namespace TapeToJava.Java

/-- The list that names are checked against has all the words of the language, and no others. -/
theorem reservedWords_perm : reservedWords.Perm languageWords :=
  List.isPerm_iff.mp (by decide)

theorem le_toNat_of_isAlpha {c : Char} (h : c.isAlpha = true) : 'A'.toNat ≤ c.toNat := by
  have hcases : 'A'.toNat ≤ 'a'.toNat := by decide
  rcases (Bool.or_eq_true _ _).mp h with hupper | hlower
  · have hrange : 'A'.val ≤ c.val ∧ c.val ≤ 'Z'.val := of_decide_eq_true hupper
    exact UInt32.le_iff_toNat_le.mp hrange.1
  · have hrange : (decide ('a'.val ≤ c.val) && decide (c.val ≤ 'z'.val)) = true := hlower
    simp only [Bool.and_eq_true, decide_eq_true_eq] at hrange
    exact Nat.le_trans hcases (UInt32.le_iff_toNat_le.mp hrange.1)

theorem not_isDigit_of_isAlpha {c : Char} (h : c.isAlpha = true) : ¬c.isDigit = true := by
  intro hdigit
  have hle := Nat.le_trans (le_toNat_of_isAlpha h) (Char.isDigit_iff_toNat.mp hdigit).2
  exact absurd hle (by decide)

section Ascii

variable {c : Char}

theorem continuesIdentifier_iff_of_lt (h : c.toNat < 0x80) :
    continuesIdentifier c = true ↔ c.isAlphanum ∨ c = '_' ∨ c = '$' := by
  rw [continuesIdentifier, Text.isAlphanumeric_of_lt h, Char.isAlphanum]
  simp only [Bool.or_eq_true, beq_iff_eq, or_assoc]

theorem startsIdentifier_iff_of_lt (h : c.toNat < 0x80) :
    startsIdentifier c = true ↔ ¬c.isDigit ∧ continuesIdentifier c = true := by
  rw [continuesIdentifier_iff_of_lt h, startsIdentifier, Text.isAlphabetic_of_lt h, Char.isAlphanum]
  simp only [Bool.or_eq_true, beq_iff_eq, or_assoc]
  constructor
  · rintro (halpha | rfl | rfl)
    · exact ⟨not_isDigit_of_isAlpha halpha, Or.inl halpha⟩
    · exact ⟨by decide, by simp⟩
    · exact ⟨by decide, by simp⟩
  · rintro ⟨hstart, halpha | hdigit | hmark⟩
    · exact Or.inl halpha
    · exact absurd hdigit hstart
    · exact Or.inr hmark

end Ascii

namespace ClassName

variable {n : ClassName}

theorem isIdentifier_iff_of_ascii (hascii : ∀ c ∈ n.text.toList, c.toNat < 0x80) :
    n.isIdentifier = true ↔ n.text.toList ≠ [] ∧ (∀ c ∈ n.text.toList.head?, ¬c.isDigit) ∧
      (∀ c ∈ n.text.toList, c.isAlphanum ∨ c = '_' ∨ c = '$') ∧ n.text ∉ languageWords := by
  rw [isIdentifier, ← reservedWords_perm.mem_iff]
  cases hname : n.text.toList with
  | nil => simp
  | cons c cs =>
      rw [hname] at hascii
      obtain ⟨hc, hcs⟩ := List.forall_mem_cons.mp hascii
      have hrest : cs.all continuesIdentifier = true ↔ ∀ d ∈ cs, d.isAlphanum ∨ d = '_' ∨ d = '$' := by
        rw [List.all_eq_true]
        exact forall₂_congr fun d hd => continuesIdentifier_iff_of_lt (hcs d hd)
      simp only [Bool.and_eq_true, startsIdentifier_iff_of_lt hc, continuesIdentifier_iff_of_lt hc, hrest,
        List.forall_mem_cons, List.head?_cons, Option.mem_some_iff, forall_eq', Bool.not_eq_true',
        List.contains_eq_mem, decide_eq_false_iff_not, ne_eq, reduceCtorEq, not_false_eq_true, true_and,
        and_assoc]

/-- Words that are kept for declarations look like identifiers. -/
theorem isIdentifier_of_mem_declarationWords (h : n.text ∈ declarationWords) : n.isIdentifier = true := by
  have hall : ∀ w ∈ declarationWords, (ClassName.mk w).isIdentifier = true := by decide
  exact hall n.text h

theorem isIdentifier_iff_isTypeName_or (hascii : ∀ c ∈ n.text.toList, c.toNat < 0x80) :
    n.isIdentifier = true ↔ IsTypeName n.text ∨ n.text ∈ declarationWords := by
  by_cases hdeclaration : n.text ∈ declarationWords
  · exact iff_of_true (isIdentifier_of_mem_declarationWords hdeclaration) (Or.inr hdeclaration)
  · rw [isIdentifier_iff_of_ascii hascii, isTypeName_iff, or_iff_left hdeclaration]
    simp only [hdeclaration, not_false_eq_true, and_true]

theorem warnings_of_generate {f : SourceFile} {g : Generated} (h : f.generate n = .ok g) :
    g.warnings = .ofClassName f n := by
  rw [SourceFile.generate] at h
  split at h
  · cases h
  · cases h
    rfl

theorem ofClassName_of_not_isIdentifier (f : SourceFile) (h : ¬n.isIdentifier = true) :
    ∃ d, Report.ofClassName f n = ⟨[], [d], 0, 1⟩ ∧ d.file = f.name ∧ d.code.text = "E200" ∧
      d.severity = .warning := by
  have hcode : Code.invalidClassName.text = "E200" := by decide
  rw [Report.ofClassName, if_neg h]
  exact ⟨(Diagnostic.invalidClassName f n).asWarning, rfl, rfl, hcode, rfl⟩

/-- Among ASCII names the check accepts those that the language allows for classes, and those that are kept for
declarations, which it does not allow. A class is generated with a warning when its name is neither. -/
theorem isIdentifier_but_for_declarationWords (n : ClassName) (hascii : ∀ c ∈ n.text.toList, c.toNat < 0x80) :
    (n.isIdentifier = true ↔ IsTypeName n.text ∨ n.text ∈ declarationWords) ∧
    (n.text ∈ declarationWords → ¬IsTypeName n.text) ∧
    ∀ (f : SourceFile) (g : Generated), f.generate n = .ok g →
      (IsTypeName n.text ∨ n.text ∈ declarationWords → g.warnings = .empty) ∧
      (¬IsTypeName n.text → n.text ∉ declarationWords → ∃ d, g.warnings = ⟨[], [d], 0, 1⟩ ∧ d.file = f.name ∧
        d.code.text = "E200" ∧ d.severity = .warning) := by
  have haccepts := isIdentifier_iff_isTypeName_or hascii
  refine ⟨haccepts, fun hdeclaration htype => htype.notDeclaration hdeclaration, fun f g hgenerate => ?_⟩
  rw [warnings_of_generate hgenerate]
  constructor
  · intro hname
    exact if_pos (haccepts.mpr hname)
  · intro htype hdeclaration
    apply ofClassName_of_not_isIdentifier
    rw [haccepts]
    exact not_or.mpr ⟨htype, hdeclaration⟩

/-- A modifier is no name of a class, and a class of that name is generated with a warning. -/
theorem isIdentifier_but_for_declarationWords_modifier :
    (∀ c ∈ (ClassName.mk "strictfp").text.toList, c.toNat < 0x80) ∧
      (ClassName.mk "strictfp").isIdentifier = false ∧
      ∃ (f : SourceFile) (g : Generated) (d : Diagnostic), f.generate ⟨"strictfp"⟩ = .ok g ∧
        g.warnings = ⟨[], [d], 0, 1⟩ ∧ d.code.text = "E200" := by
  have hascii : ∀ c ∈ (ClassName.mk "strictfp").text.toList, c.toNat < 0x80 := by simp
  have htype : ¬IsTypeName "strictfp" := by decide
  have hdeclaration : "strictfp" ∉ declarationWords := by decide
  have hoperators : Token.operators (Lexed.ofText "").tokens = [] := rfl
  have hbalanced : Operator.IsBalanced (Token.operators (Lexed.ofText "").tokens) :=
    hoperators ▸ Operator.isBalanced_nil
  obtain ⟨-, g, hgenerate⟩ := SourceFile.check_of_balanced (f := ⟨"empty.bf", ""⟩) ⟨"strictfp"⟩
    (Body.ofTokens_eq_ok_iff.mpr ⟨hbalanced, rfl⟩)
  obtain ⟨haccepts, -, hwarnings⟩ := isIdentifier_but_for_declarationWords ⟨"strictfp"⟩ hascii
  obtain ⟨d, hd, -, hcode, -⟩ := (hwarnings _ g hgenerate).2 htype hdeclaration
  refine ⟨hascii, ?_, _, g, d, hgenerate, hd, hcode⟩
  rw [← Bool.not_eq_true, haccepts]
  exact not_or.mpr ⟨htype, hdeclaration⟩

/-- The name `record` is accepted, though the language does not allow it for a class. -/
theorem exists_isIdentifier_not_isTypeName :
    ¬∀ n : ClassName, (∀ c ∈ n.text.toList, c.toNat < 0x80) → (n.isIdentifier = true ↔ IsTypeName n.text) := by
  intro hall
  have hascii : ∀ c ∈ (ClassName.mk "record").text.toList, c.toNat < 0x80 := by simp
  have haccepted : (ClassName.mk "record").isIdentifier = true := isIdentifier_of_mem_declarationWords (by decide)
  have htype : IsTypeName "record" := (hall ⟨"record"⟩ hascii).mp haccepted
  exact htype.notDeclaration (by decide)

end ClassName

end TapeToJava.Java
