import TapeToJava.Java.Block
import TapeToJava.Proofs.Java.Body
import TapeToJava.Proofs.Text.Lines

/-! The body of a program read back as nested blocks. The blocks that are open while it is read are as many
as the loops that the check counts, so an accepted program is read to its end with no block left open; and
the block that comes out has the operators of the program, with their brackets. -/

namespace TapeToJava

/-- The operator that an action comes from. -/
def Machine.Action.operator : Machine.Action → Operator
  | .moveRight => .moveRight
  | .moveLeft => .moveLeft
  | .increment => .increment
  | .decrement => .decrement
  | .print => .print
  | .read => .read

/-- What the line of an operator does in a block. -/
def Operator.line : Operator → Java.Line
  | .moveRight => .simple .moveRight
  | .moveLeft => .simple .moveLeft
  | .increment => .simple .increment
  | .decrement => .simple .decrement
  | .print => .simple .print
  | .read => .simple .read
  | .loopOpen => .opening
  | .loopClose => .closing

theorem Operator.eq_of_line_eq_simple {op : Operator} {a : Machine.Action} (h : op.line = .simple a) :
    op = a.operator := by
  cases op <;> cases h <;> rfl

namespace Java

theorem Line.ofText?_statement (op : Operator) : Line.ofText? (statement op) = some op.line := by
  cases op <;> rfl

/-- The operators of items, with a pair of brackets around each loop. -/
def Item.operators : List Item → List Operator
  | [] => []
  | .action a :: rest => a.operator :: operators rest
  | .loop body :: rest => .loopOpen :: (operators body ++ .loopClose :: operators rest)

/-- Items are built from nothing by putting an action or a whole loop in front. -/
@[elab_as_elim] theorem Item.induction {motive : List Item → Prop} (nil : motive [])
    (action : ∀ a rest, motive rest → motive (.action a :: rest))
    (loop : ∀ body rest, motive body → motive rest → motive (.loop body :: rest)) :
    ∀ items, motive items
  | [] => nil
  | .action a :: rest => action a rest (Item.induction nil action loop rest)
  | .loop body :: rest =>
      loop body rest (Item.induction nil action loop body) (Item.induction nil action loop rest)

theorem Item.operators_append (xs ys : List Item) :
    operators (xs ++ ys) = operators xs ++ operators ys := by
  induction xs with
  | nil => rw [List.nil_append, operators, List.nil_append]
  | cons x xs ih =>
      cases x with
      | action a => rw [List.cons_append, operators, operators, ih, List.cons_append]
      | loop body =>
          rw [List.cons_append, operators, operators, ih, List.cons_append, List.append_assoc,
            List.cons_append]

namespace OpenBlocks

/-- The operators that have been read in front of the blocks that are open: each of these was opened behind
the items so far of the one around it. -/
def leading : List (List Item) → List Operator
  | [] => []
  | items :: around => leading around ++ (Item.operators items.reverse ++ [.loopOpen])

/-- The operators that have been read. -/
def operators (b : OpenBlocks) : List Operator :=
  leading b.around ++ Item.operators b.items.reverse

/-! ### Reading follows the check -/

/-- The line of a token that the check lets through is read, at the same depth. -/
theorem step_line {b : OpenBlocks} {loops next : OpenLoops} {t : Token}
    (hdepth : b.around.length = loops.depth) (h : loops.step t = .ok next) :
    ∃ b', b.step t.operator.line = some b' ∧ b'.around.length = next.depth ∧
      b'.operators = b.operators ++ [t.operator] := by
  rcases OpenLoops.step_eq_ok h with ⟨hop, hnext, -⟩ | ⟨hop, hnext, -⟩ | ⟨hopen, hclose, rfl⟩
  · refine ⟨⟨[], b.items :: b.around⟩, by rw [hop]; rfl, ?_, ?_⟩
    · rw [List.length_cons, hdepth, hnext]
    · simp only [operators, leading, hop, List.reverse_nil, Item.operators, List.append_nil, List.append_assoc]
  · obtain ⟨items, around⟩ := b
    cases around with
    | nil =>
        have hzero : 0 = loops.depth := hdepth
        omega
    | cons outer around =>
        refine ⟨⟨.loop items.reverse :: outer, around⟩, by rw [hop]; rfl, ?_, ?_⟩
        · have hsucc : around.length + 1 = loops.depth := hdepth
          show around.length = next.depth
          omega
        · simp only [operators, leading, hop, List.reverse_cons, Item.operators_append, Item.operators,
            List.append_assoc, List.cons_append, List.nil_append]
  · cases hline : t.operator.line with
    | opening => cases hop : t.operator <;> simp_all [Operator.line]
    | closing => cases hop : t.operator <;> simp_all [Operator.line]
    | simple a =>
        refine ⟨⟨.action a :: b.items, b.around⟩, rfl, hdepth, ?_⟩
        simp only [operators, List.reverse_cons, Item.operators_append, Item.operators, List.append_assoc,
          Operator.eq_of_line_eq_simple hline]

theorem run_cons_statement {b b' : OpenBlocks} {op : Operator} (h : b.step op.line = some b')
    (rest : List (List Char)) : b.run ((statement op).toList :: rest) = b'.run rest := by
  rw [run, String.ofList_toList, Line.ofText?_statement]
  simp only [h]

theorem run_statements {b : OpenBlocks} {loops last : OpenLoops} {ts : List Token}
    (hdepth : b.around.length = loops.depth) (h : loops.scan ts = .ok last) :
    ∃ b', b.run ((Token.operators ts).map fun op => (statement op).toList) = some b' ∧
      b'.around.length = last.depth ∧ b'.operators = b.operators ++ Token.operators ts := by
  induction ts generalizing b loops with
  | nil =>
      cases h
      exact ⟨b, rfl, hdepth, (List.append_nil _).symm⟩
  | cons t ts ih =>
      cases hstep : loops.step t with
      | error fault => rw [OpenLoops.scan_cons_error hstep] at h; cases h
      | ok next =>
          rw [OpenLoops.scan_cons_ok hstep] at h
          obtain ⟨b₁, hb₁, hdepth₁, hops₁⟩ := step_line hdepth hstep
          obtain ⟨b₂, hb₂, hdepth₂, hops₂⟩ := ih hdepth₁ h
          refine ⟨b₂, ?_, hdepth₂, ?_⟩
          · rw [Token.operators_cons, List.map_cons, run_cons_statement hb₁, hb₂]
          · rw [hops₂, hops₁, Token.operators_cons, List.append_assoc, List.singleton_append]

end OpenBlocks

/-! ### The whole body -/

theorem Body.render_eq_flatMap (ops : List Operator) :
    Body.render ops = (ops.map fun op => (statement op).toList).flatMap (· ++ ['\n']) := by
  rw [Body.render, List.flatMap_map]

theorem Body.lines_render_append (ops : List Operator) (rest : List Char) :
    Text.lines (Body.render ops ++ rest) = ops.map (fun op => (statement op).toList) ++ Text.lines rest := by
  rw [Body.render_eq_flatMap]
  apply Text.lines_flatMap_append
  intro l hl
  obtain ⟨op, -, rfl⟩ := List.mem_map.mp hl
  exact newline_not_mem_statement op

/-- The body of an accepted program spells a block, and the block has the operators of the program. -/
theorem exists_block?_render {tokens : List Token}
    (h : Operator.IsBalanced (Token.operators tokens)) :
    ∃ block, block? (Body.render (Token.operators tokens)) = some block ∧
      Item.operators block = Token.operators tokens := by
  have hnone := imbalance?_eq_none_iff.mpr h
  rw [imbalance?] at hnone
  cases hscan : OpenLoops.start.scan tokens with
  | error fault => rw [hscan] at hnone; cases hnone
  | ok last =>
      rw [hscan] at hnone
      have hdepth := (OpenLoops.unclosed?_eq_none_iff (OpenLoops.remembers_start.scan hscan)).mp hnone
      obtain ⟨b, hb, hb', hops⟩ := OpenBlocks.run_statements (show OpenBlocks.start.around.length = 0 from rfl) hscan
      obtain ⟨items, around⟩ := b
      rw [hdepth] at hb'
      have haround : around = [] := List.eq_nil_of_length_eq_zero hb'
      subst haround
      simp only [OpenBlocks.operators, OpenBlocks.leading, OpenBlocks.start, List.reverse_nil, Item.operators,
        List.nil_append] at hops
      refine ⟨items.reverse, ?_, hops⟩
      have hlines := Body.lines_render_append (Token.operators tokens) []
      rw [List.append_nil] at hlines
      have hreverse : (Text.lines (Body.render (Token.operators tokens))).reverse =
          [] :: ((Token.operators tokens).map fun op => (statement op).toList).reverse := by
        rw [hlines, List.reverse_append]
        rfl
      simp only [block?, hreverse, List.reverse_reverse, hb]

end Java

end TapeToJava
