import TapeToJava.Proofs.Java.Block
import TapeToJava.Proofs.Text.Place
import TapeToJava.Java.CompilationUnit

/-! The lines of a whole class. The name of the class is spliced into its second line, so that a name with a
line feed would move all lines behind it; a Java identifier has none. -/

namespace TapeToJava.Java

open Text

theorem newline_not_mem_of_isIdentifier {name : ClassName} (h : name.isIdentifier = true) :
    '\n' ∉ name.text.toList := by
  intro hmem
  rw [ClassName.isIdentifier] at h
  cases hname : name.text.toList with
  | nil =>
      rw [hname] at hmem
      cases hmem
  | cons c cs =>
      rw [hname] at hmem
      simp only [hname, Bool.and_eq_true] at h
      obtain ⟨⟨hstart, hrest⟩, -⟩ := h
      rcases List.mem_cons.mp hmem with rfl | hmem
      · exact absurd hstart (by decide)
      · exact absurd (List.all_eq_true.mp hrest _ hmem) (by decide)

namespace Scaffold

theorem head?_wrap (name : ClassName) (body : String) : (wrap name body).toList.head? = some 'i' := by
  have hfirst : "import java.util.Scanner;\n".toList.head? = some 'i' := rfl
  unfold wrap prologue
  simp only [String.toList_append, List.head?_append, hfirst, Option.some_or]

theorem count_newline_prologue {name : ClassName} (h : '\n' ∉ name.text.toList) :
    (prologue name).toList.count '\n' = prologueLines := by
  have hname := List.count_eq_zero.mpr h
  unfold prologue
  simp only [String.toList_append, List.count_append, hname]
  cbv

/-- The lines of a class are six in front of the program, one for each operator, and three behind it. -/
theorem exists_lines_wrap {name : ClassName} (h : '\n' ∉ name.text.toList) (ops : List Operator) :
    ∃ before behind : List (List Char), before.length = prologueLines ∧ behind.length = 3 ∧
      lines (wrap name (String.ofList (Body.render ops))).toList =
        before ++ ops.map (fun op => (statement op).toList) ++ behind ++ [[]] := by
  have hprologue : (prologue name).toList.getLast? = some '\n' := by
    have hlast : "int ptr = 0;\n".toList.getLast? = some '\n' := by cbv
    unfold prologue
    rw [String.toList_append, List.getLast?_append, hlast, Option.some_or]
  obtain ⟨before, hbefore, hnew, hlength⟩ := exists_lines_of_getLast? hprologue
  have hepilogue : epilogue.toList.getLast? = some '\n' := by cbv
  obtain ⟨behind, hbehind, hnew', hlength'⟩ := exists_lines_of_getLast? hepilogue
  refine ⟨before, behind, hlength.trans (count_newline_prologue h), hlength'.trans (by cbv), ?_⟩
  have hlines := lines_flatMap_append hnew' []
  rw [List.append_nil, ← hbehind] at hlines
  rw [wrap, String.toList_append, String.toList_append, String.toList_ofList, hbefore, List.append_assoc,
    lines_flatMap_append hnew, Body.lines_render_append, hlines]
  simp only [List.append_assoc]
  rfl

end Scaffold

end TapeToJava.Java
