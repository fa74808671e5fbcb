import TapeToJava.Proofs.Bracket.Matching
import TapeToJava.Proofs.Java.Body
import TapeToJava.Proofs.Source.Token
import TapeToJava.Verdict

/-! Checking a text, generating its class and giving a verdict on it all blame the same bracket, which is the
one that matching the characters of the text with a stack would blame. The place in the finding goes through
32-bit lines and columns, and the line that is quoted is looked up again by its number; for a text that is
not too long, the bracket stands in the quoted line at the place named. -/

namespace TapeToJava

open Text

/-- A finding blames the character at an index of a text for a fault in its brackets. -/
structure Diagnostic.Blames (d : Diagnostic) (f : SourceFile) (x : Char × Nat) (fault : Span → Imbalance) :
    Prop where
  file_eq : d.file = f.name
  severity_eq : d.severity = .error
  code_eq : d.code.text = "E100"
  message_eq : d.message = (fault d.span).detail
  char_eq : f.text.toList[x.2]? = some x.1
  line_eq : d.span.line.toNat = lineAt f.text.toList x.2
  column_eq : d.span.column.toNat = columnAt f.text.toList x.2
  sourceLine_eq : f.line? d.span.line = some d.sourceLine
  quoted_eq : d.sourceLine.toList[d.span.column.toNat - 1]? = some x.1

namespace SourceFile

/-- What matching with a stack finds among the characters of a text, each with its index. -/
def matching (f : SourceFile) : Matching.Result (Char × Nat) :=
  Matching.run (fun x => Operator.ofChar? x.1) f.text.toList.zipIdx

/-- The report that comes of generating a class: on the fault, or else on the class. -/
def report (f : SourceFile) (name : Java.ClassName) : Report :=
  match f.generate name with
  | .error errors => errors
  | .ok g => g.warnings

section Entries

variable {f : SourceFile}

theorem errors_report (f : SourceFile) (name : Java.ClassName) :
    (f.report name).errors = f.check.errors ∧ (f.report name).totalErrors = f.check.totalErrors ∧
      (f.verdict name).errors = f.report name := by
  rw [report, check, verdict, generate, Java.CompilationUnit.ofTokens]
  cases Java.Body.ofTokens (Lexed.ofText f.text).tokens with
  | error fault => exact ⟨rfl, rfl, rfl⟩
  | ok body =>
      show (Report.ofClassName f name).errors = _ ∧ (Report.ofClassName f name).totalErrors = _ ∧ _
      rw [Report.ofClassName]
      split
      · exact ⟨rfl, rfl, rfl⟩
      · exact ⟨rfl, rfl, rfl⟩

theorem generate_of_imbalance (name : Java.ClassName) {fault : Imbalance}
    (h : Java.Body.ofTokens (Lexed.ofText f.text).tokens = .error fault) :
    f.generate name = .error f.check ∧ f.check = ⟨[.unmatchedBracket f fault], [], 1, 0⟩ := by
  rw [generate, check, Java.CompilationUnit.ofTokens, h]
  exact ⟨rfl, rfl⟩

theorem check_of_balanced (name : Java.ClassName) {body : Java.Body}
    (h : Java.Body.ofTokens (Lexed.ofText f.text).tokens = .ok body) :
    f.check = .empty ∧ ∃ g, f.generate name = .ok g := by
  rw [generate, check, Java.CompilationUnit.ofTokens, h]
  exact ⟨rfl, _, rfl⟩

end Entries

/-- The finding about a token blames the character that the token was read from. -/
theorem blames_unmatchedBracket {f : SourceFile} (hlength : f.text.length < UInt32.size - 1) {x : Char × Nat}
    {t : Token} (hx : x ∈ f.text.toList.zipIdx) (ht : Token.ofIndexed? f.text.toList x = some t)
    (fault : Span → Imbalance) (hfault : ∀ span, (fault span).span = span) :
    (Diagnostic.unmatchedBracket f (fault t.span)).Blames f x fault ∧
      (Diagnostic.unmatchedBracket f (fault t.span)).span = t.span := by
  obtain ⟨hop, hspan⟩ := Token.ofIndexed?_eq_some_iff.mp ht
  have hchar : f.text.toList[x.2]? = some x.1 := List.mem_zipIdx_iff_getElem?.mp hx
  have hi : x.2 < f.text.toList.length := (List.getElem?_eq_some_iff.mp hchar).1
  have hlength' : f.text.length < UInt32.size := by omega
  have hline := Cursor.toNat_line_ofIndex hi (by rwa [String.length_toList])
  have hcolumn := Cursor.toNat_column_ofIndex hi (by rwa [String.length_toList])
  have hcharAt := charAt?_operator hlength' (hop ▸ hchar)
  rw [← hspan] at hline hcolumn hcharAt
  obtain ⟨quoted, hquoted, hcharAt⟩ := Option.bind_eq_some_iff.mp hcharAt
  have hcolumn0 : t.span.column ≠ 0 := by
    intro hzero
    rw [hzero, columnAt] at hcolumn
    cases hcolumn
  rw [if_neg hcolumn0] at hcharAt
  have hsource : (Diagnostic.unmatchedBracket f (fault t.span)).sourceLine = quoted := by
    show (f.line? (fault t.span).span.line).getD "" = quoted
    rw [hfault, hquoted, Option.getD_some]
  have hd : (Diagnostic.unmatchedBracket f (fault t.span)).span = t.span := hfault t.span
  have hcode : Code.unmatchedBrackets.text = "E100" := by decide
  refine ⟨⟨rfl, rfl, hcode, ?_, hchar, ?_, ?_, ?_, ?_⟩, hd⟩
  · rw [hd]
    rfl
  · rw [hd, hline]
  · rw [hd, hcolumn]
  · rw [hd, hsource, hquoted]
  · rw [hd, hsource, hcharAt, hop]

/-- A fault at a token comes out of all entry points as a single finding. -/
theorem exists_blames (f : SourceFile) (name : Java.ClassName) (hlength : f.text.length < UInt32.size - 1)
    {x : Char × Nat} {t : Token} (hx : x ∈ f.text.toList.zipIdx)
    (ht : Token.ofIndexed? f.text.toList x = some t) (fault : Span → Imbalance)
    (hfault : ∀ span, (fault span).span = span)
    (h : imbalance? (Lexed.ofText f.text).tokens = some (fault t.span)) :
    f.generate name = .error f.check ∧ ∃ d, f.check = ⟨[d], [], 1, 0⟩ ∧
      Java.Body.ofTokens (Lexed.ofText f.text).tokens = .error (fault d.span) ∧ d.Blames f x fault := by
  have herror := Java.Body.ofTokens_eq_error_iff.mpr h
  obtain ⟨hgenerate, hcheck⟩ := generate_of_imbalance name herror
  obtain ⟨hblames, hspan⟩ := blames_unmatchedBracket hlength hx ht fault hfault
  refine ⟨hgenerate, _, hcheck, ?_, hblames⟩
  rw [hspan, herror]

theorem matching_append_of_stray {f : SourceFile} {x : Char × Nat} (h : f.matching = .stray x)
    (tail : String) : (SourceFile.mk f.name (f.text ++ tail)).matching = .stray x := by
  show Matching.run _ (f.text ++ tail).toList.zipIdx = _
  rw [String.toList_append, List.zipIdx_append]
  exact Matching.runFrom_append_of_stray h _

/-- Matching the characters of a text comes to matching its tokens. -/
theorem matching_tokens (f : SourceFile) :
    (∀ x, f.matching = .stray x → ∃ t, Token.ofIndexed? f.text.toList x = some t ∧
      Matching.run (some ∘ Token.operator) (Lexed.ofText f.text).tokens = .stray t) ∧
    ∀ stack, f.matching = .rest stack → ∃ ts, stack.map (Token.ofIndexed? f.text.toList) = ts.map some ∧
      Matching.run (some ∘ Token.operator) (Lexed.ofText f.text).tokens = .rest ts := by
  rw [Lexed.tokens_ofText]
  apply Matching.runFrom_filterMap
  · intro x
    rw [Token.ofIndexed?]
    cases Operator.ofChar? x.1 <;> rfl
  · rfl

/-- All entry points report the same errors. There is none if a stack matches all brackets of a text;
otherwise there is one, which blames the first closing bracket that meets an empty stack, or else the opening
bracket at the bottom of the stack that is left. -/
theorem check_blames (f : SourceFile) (name : Java.ClassName) (hlength : f.text.length < UInt32.size - 1) :
    ((f.report name).errors = f.check.errors ∧ (f.report name).totalErrors = f.check.totalErrors ∧
      (f.verdict name).errors = f.report name) ∧
    (f.matching = .rest [] → f.check = .empty ∧ ∃ g, f.generate name = .ok g) ∧
    (∀ x, f.matching = .stray x →
      x.1 = ']' ∧ (∀ tail, (SourceFile.mk f.name (f.text ++ tail)).matching = .stray x) ∧
      f.generate name = .error f.check ∧ ∃ d, f.check = ⟨[d], [], 1, 0⟩ ∧
        Java.Body.ofTokens (Lexed.ofText f.text).tokens = .error (.strayClose d.span) ∧
        d.Blames f x .strayClose) ∧
    ∀ stack x, f.matching = .rest stack → stack.getLast? = some x →
      x.1 = '[' ∧ f.generate name = .error f.check ∧ ∃ d, f.check = ⟨[d], [], 1, 0⟩ ∧
        Java.Body.ofTokens (Lexed.ofText f.text).tokens = .error (.unclosed stack.length d.span) ∧
        d.Blames f x (.unclosed stack.length) := by
  obtain ⟨hstray, hrest⟩ := matching_tokens f
  refine ⟨errors_report f name, ?_, ?_, ?_⟩
  · intro h
    obtain ⟨ts, hts, hrun⟩ := hrest [] h
    rw [List.map_eq_nil_iff.mp hts.symm] at hrun
    have hnone := Matching.imbalance?_of_rest_nil hrun
    exact check_of_balanced name (Java.Body.ofTokens_eq_ok_iff.mpr ⟨imbalance?_eq_none_iff.mp hnone, rfl⟩)
  · intro x h
    obtain ⟨t, ht, hrun⟩ := hstray x h
    obtain ⟨hx, hop⟩ := Matching.mem_of_runFrom_stray h
    have himbalance := Matching.imbalance?_of_stray hrun
    exact ⟨Operator.ofChar?_eq_some_iff.mp hop, matching_append_of_stray h,
      exists_blames f name hlength hx ht .strayClose (fun _ => rfl) himbalance⟩
  · intro stack x h hlast
    obtain ⟨ts, hts, hrun⟩ := hrest stack h
    have hmem : x ∈ stack := List.mem_of_getLast? hlast
    obtain ⟨hx, hop⟩ := (Matching.mem_of_runFrom_rest h hmem).resolve_left List.not_mem_nil
    have hlasts : some (Token.ofIndexed? f.text.toList x) = ts.getLast?.map some := by
      rw [← List.getLast?_map, ← hts, List.getLast?_map, hlast, Option.map_some]
    obtain ⟨t, htlast, ht⟩ := Option.map_eq_some_iff.mp hlasts.symm
    have hheight : ts.length = stack.length := by
      rw [← List.length_map some, ← hts, List.length_map]
    have himbalance := Matching.imbalance?_of_rest hrun htlast
    rw [hheight] at himbalance
    exact ⟨Operator.ofChar?_eq_some_iff.mp hop,
      exists_blames f name hlength hx ht.symm (.unclosed stack.length) (fun _ => rfl) himbalance⟩

/-- A text with a closed loop, a carriage return at the end of its first line, and two loops left open. -/
theorem check_blames_two_open :
    "[-]\r\n+[>[".length < UInt32.size - 1 ∧ ∃ d,
      (SourceFile.mk "open.bf" "[-]\r\n+[>[").check = ⟨[d], [], 1, 0⟩ ∧
        d.Blames ⟨"open.bf", "[-]\r\n+[>["⟩ ('[', 6) (.unclosed 2) := by
  have hlength : "[-]\r\n+[>[".length < UInt32.size - 1 := by decide
  obtain ⟨-, -, -, hrest⟩ := check_blames ⟨"open.bf", "[-]\r\n+[>["⟩ ⟨"Open"⟩ hlength
  obtain ⟨-, -, d, hcheck, -, hblames⟩ := hrest [('[', 8), ('[', 6)] ('[', 6) (by decide) rfl
  exact ⟨hlength, d, hcheck, hblames⟩

end SourceFile

end TapeToJava
