import TapeToJava.Proofs.Java.Trace
import TapeToJava.Proofs.Source.Operators

/-! The text of a class tells the name of the class and the operators of the program. The name is spliced in as
it is and may hold whole lines, those in front of the program among them; but the line of the pointer that
stands last in a text is always the one in front of the program, because no line behind it is equal to it. -/

namespace TapeToJava

open Text

/-- The last occurrence of an item splits a list in one way only. -/
theorem append_cons_inj_of_last {α : Type} {a : α} {xs xs' ys ys' : List α} (hys : a ∉ ys) (hys' : a ∉ ys')
    (h : xs ++ a :: ys = xs' ++ a :: ys') : xs = xs' ∧ ys = ys' := by
  rcases List.append_eq_append_iff.mp h with ⟨zs, rfl, hzs⟩ | ⟨zs, rfl, hzs⟩
  · cases zs with
    | nil => exact ⟨(List.append_nil xs).symm, (List.cons.inj hzs).2⟩
    | cons z zs =>
        obtain ⟨-, rfl⟩ := List.cons.inj hzs
        exact absurd (List.mem_append_right zs List.mem_cons_self) hys
  · cases zs with
    | nil => exact ⟨List.append_nil xs', (List.cons.inj hzs).2.symm⟩
    | cons z zs =>
        obtain ⟨-, rfl⟩ := List.cons.inj hzs
        exact absurd (List.mem_append_right zs List.mem_cons_self) hys'

namespace Java

theorem map_statement_inj_iff {ops ops' : List Operator} :
    ops.map (fun op => (statement op).toList) = ops'.map (fun op => (statement op).toList) ↔ ops = ops' :=
  List.map_inj_right fun _ _ hop => statement_injective (String.toList_inj.mp hop)

namespace Scaffold

/-! ### The lines of a class -/

/-- The lines between the one with the name of the class and the one with the pointer. -/
def headerLines : List (List Char) :=
  ["public static void main(String[] args) \x7b".toList, "byte[] mem = new byte[30000];".toList,
    "Scanner iostream = new Scanner(System.in);".toList]

/-- The line right in front of the program. -/
def pointerLine : List Char :=
  "int ptr = 0;".toList

/-- The lines behind the program. -/
def epilogueLines : List (List Char) :=
  ["iostream.close();".toList, "\x7d".toList, "\x7d".toList]

theorem toList_prologue (name : ClassName) :
    (prologue name).toList = "import java.util.Scanner;".toList ++
      '\n' :: (("public class ".toList ++ name.text.toList ++ " \x7b".toList) ++
        '\n' :: (headerLines ++ [pointerLine]).flatMap (· ++ ['\n'])) := by
  have hfirst : "import java.util.Scanner;\n".toList = "import java.util.Scanner;".toList ++ ['\n'] := by cbv
  have hrest : " \x7b\n".toList ++ ("public static void main(String[] args) \x7b\n".toList ++
      ("byte[] mem = new byte[".toList ++ ((toString tapeCells).toList ++ ("];\n".toList ++
        ("Scanner iostream = new Scanner(System.in);\n".toList ++ "int ptr = 0;\n".toList))))) =
      " \x7b".toList ++ '\n' :: (headerLines ++ [pointerLine]).flatMap (· ++ ['\n']) := by cbv
  unfold prologue
  simp only [String.toList_append, List.append_assoc, hrest]
  rw [hfirst]
  simp only [List.append_assoc, List.singleton_append]

theorem lines_epilogue : lines epilogue.toList = epilogueLines ++ [[]] := by
  have hepilogue : epilogue.toList = epilogueLines.flatMap (· ++ ['\n']) ++ [] := by cbv
  rw [hepilogue, lines_flatMap_append (by decide)]
  rfl

/-- The lines of a class, whatever its name is. -/
theorem lines_wrap (name : ClassName) (ops : List Operator) :
    lines (wrap name (String.ofList (Body.render ops))).toList =
      "import java.util.Scanner;".toList :: lines ("public class ".toList ++ name.text.toList ++ " \x7b".toList) ++
        headerLines ++ pointerLine :: (ops.map (fun op => (statement op).toList) ++ epilogueLines ++ [[]]) := by
  have hfirst : lines "import java.util.Scanner;".toList = ["import java.util.Scanner;".toList] := by cbv
  have hheader : ∀ l ∈ headerLines ++ [pointerLine], '\n' ∉ l := by decide
  rw [wrap, String.toList_append, String.toList_append, String.toList_ofList, toList_prologue]
  simp only [List.append_assoc, List.cons_append]
  rw [lines_append_newline, hfirst, ← List.append_assoc, ← List.append_assoc, lines_append_newline,
    lines_flatMap_append hheader, Body.lines_render_append, lines_epilogue]
  simp only [List.append_assoc, List.cons_append, List.nil_append]

/-! ### What the lines tell -/

theorem pointerLine_ne_statement (op : Operator) : pointerLine ≠ (statement op).toList := by
  cases op <;> decide

/-- Behind the line in front of the program stands no other line like it. -/
theorem pointerLine_not_mem (ops : List Operator) :
    pointerLine ∉ ops.map (fun op => (statement op).toList) ++ epilogueLines ++ [[]] := by
  intro h
  rw [List.append_assoc] at h
  rcases List.mem_append.mp h with h | h
  · obtain ⟨op, -, hop⟩ := List.mem_map.mp h
    exact pointerLine_ne_statement op hop.symm
  · exact absurd h (by decide)

theorem wrap_inj_iff {name name' : ClassName} {ops ops' : List Operator} :
    wrap name (String.ofList (Body.render ops)) = wrap name' (String.ofList (Body.render ops')) ↔
      name = name' ∧ ops = ops' := by
  constructor
  · intro h
    have hlines := congrArg (fun text => lines text.toList) h
    simp only [lines_wrap] at hlines
    -- A name may hold pointer lines too, so the texts are split at the last one.
    obtain ⟨hbefore, hbehind⟩ :=
      append_cons_inj_of_last (pointerLine_not_mem ops) (pointerLine_not_mem ops') hlines
    constructor
    · have hclass := lines_injective (List.cons.inj (List.append_cancel_right hbefore)).2
      have hname := List.append_cancel_left (List.append_cancel_right hclass)
      cases name
      cases name'
      exact congrArg ClassName.mk (String.toList_inj.mp hname)
    · exact map_statement_inj_iff.mp (List.append_cancel_right (List.append_cancel_right hbehind))
  · rintro ⟨rfl, rfl⟩
    rfl

end Scaffold

end Java

open Java

/-- The texts of two classes are equal exactly when the classes have the same name and the programs are the
same up to their comments. -/
theorem SourceFile.text_generate_eq_iff {f f' : SourceFile} {name name' : ClassName} {g g' : Generated}
    (h : f.generate name = .ok g) (h' : f'.generate name' = .ok g') :
    g.java.text = g'.java.text ↔ name = name' ∧ normalize f.text = normalize f'.text := by
  rw [(generate_eq_ok h).1, (generate_eq_ok h').1, Scaffold.wrap_inj_iff, normalize_eq_iff]

/-- A comment and another file name change nothing; a name that brings lines of a class along changes the
text. -/
theorem SourceFile.text_generate_eq_iff_comment :
    ∃ g g' g'', (SourceFile.mk "a.bf" "add one: +").generate ⟨"A"⟩ = .ok g ∧
      (SourceFile.mk "b.bf" "\n+").generate ⟨"A"⟩ = .ok g' ∧
      (SourceFile.mk "c.bf" "").generate ⟨"A \x7b\nint ptr = 0;\nmem[ptr]++;\nclass A"⟩ = .ok g'' ∧
      g.java.text = g'.java.text ∧ g.java.text ≠ g''.java.text := by
  obtain ⟨g, g', g'', h, h', h''⟩ : ∃ g g' g'',
      (SourceFile.mk "a.bf" "add one: +").generate ⟨"A"⟩ = .ok g ∧
      (SourceFile.mk "b.bf" "\n+").generate ⟨"A"⟩ = .ok g' ∧
      (SourceFile.mk "c.bf" "").generate ⟨"A \x7b\nint ptr = 0;\nmem[ptr]++;\nclass A"⟩ = .ok g'' :=
    ⟨_, _, _, rfl, rfl, rfl⟩
  refine ⟨g, g', g'', h, h', h'', (text_generate_eq_iff h h').mpr ⟨rfl, by decide⟩, fun heq => ?_⟩
  obtain ⟨hname, -⟩ := (text_generate_eq_iff h h'').mp heq
  exact absurd hname (by decide)

end TapeToJava
