import TapeToJava.Proofs.Bracket.Balance

/-! The body of an accepted program. Writing and checking happen in one pass; here the pass is taken apart
into the check of the brackets and the lines of the operators, and the programs with a body are found to be
the balanced ones. -/

namespace TapeToJava.Java

open Operator

theorem Draft.run_eq (d : Draft) (ts : List Token) :
    d.run ts = (d.loops.scan ts).map fun last =>
      ⟨d.text ++ String.ofList (Body.render (Token.operators ts)), last⟩ := by
  induction ts generalizing d with
  | nil =>
      rw [Draft.run, OpenLoops.scan, Token.operators_nil, Body.render_nil, String.ofList_nil, Except.map,
        String.append_empty]
  | cons t ts ih =>
      cases hstep : d.loops.step t with
      | error fault =>
          rw [OpenLoops.scan_cons_error hstep, Draft.run, Draft.add, hstep]
          rfl
      | ok loops =>
          rw [OpenLoops.scan_cons_ok hstep, Draft.run, Draft.add, hstep]
          show Draft.run _ ts = _
          rw [ih]
          congr 1
          funext last
          rw [Token.operators_cons, Body.render_cons]
          congr 1
          apply String.toList_inj.mp
          simp only [String.toList_append, String.toList_ofList, List.append_assoc]
          rfl

namespace Body

/-- Checking while writing comes to checking first and writing afterwards. -/
theorem ofTokens_eq (tokens : List Token) :
    ofTokens tokens =
      match imbalance? tokens with
      | some fault => .error fault
      | none => .ok ⟨String.ofList (render (Token.operators tokens)), tokens.length⟩ := by
  rw [ofTokens, Draft.run_eq, imbalance?, show Draft.start.loops = OpenLoops.start from rfl]
  cases OpenLoops.start.scan tokens with
  | error fault => rfl
  | ok last =>
      cases hlast : last.unclosed? with
      | some fault => simp only [Except.map, hlast]
      | none => simp only [Except.map, hlast, Draft.start, String.empty_append]

theorem ofTokens_eq_error_iff {tokens : List Token} {fault : Imbalance} :
    ofTokens tokens = .error fault ↔ imbalance? tokens = some fault := by
  rw [ofTokens_eq]
  cases imbalance? tokens <;> simp

theorem ofTokens_eq_ok_iff {tokens : List Token} {body : Body} :
    ofTokens tokens = .ok body ↔
      IsBalanced (Token.operators tokens) ∧
        body = ⟨String.ofList (render (Token.operators tokens)), tokens.length⟩ := by
  rw [← imbalance?_eq_none_iff, ofTokens_eq]
  cases imbalance? tokens <;> simp [eq_comm]

theorem ofList_render (tokens : List Token) :
    String.ofList (render (Token.operators tokens)) =
      String.join (tokens.map fun t => statement t.operator ++ "\n") := by
  apply String.toList_inj.mp
  rw [String.toList_ofList, String.toList_join, List.flatMap_map, render, Token.operators, List.flatMap_map]
  congr 1
  funext t
  rw [String.toList_append]
  rfl

theorem count_newline_render (ops : List Operator) : (render ops).count '\n' = ops.length := by
  induction ops with
  | nil => rfl
  | cons op ops ih =>
      have hline := List.count_eq_zero.mpr (newline_not_mem_statement op)
      rw [render_cons, List.count_append, List.count_cons_self, hline, ih, List.length_cons, Nat.zero_add]

/-- A program has a body exactly when it is balanced. The body has the line of each token, in order, each
with a line feed behind it. All along the depth is what has been opened less what has been closed, and the
spans have no part in any of this. -/
theorem ofTokens_ok_iff_isBalanced (tokens : List Token) :
    ((∃ body, ofTokens tokens = .ok body) ↔ IsBalanced (Token.operators tokens)) ∧
    (∀ body, ofTokens tokens = .ok body →
      body.text = String.join (tokens.map fun t => statement t.operator ++ "\n") ∧
      body.lineCount = tokens.length ∧ body.text.toList.count '\n' = tokens.length) ∧
    (∀ n d, Draft.start.run (tokens.take n) = .ok d →
      (d.loops.depth : Int) =
        opened ((Token.operators tokens).take n) - closed ((Token.operators tokens).take n)) ∧
    ∀ others, Token.operators others = Token.operators tokens →
      (ofTokens others).toOption = (ofTokens tokens).toOption := by
  refine ⟨⟨?_, ?_⟩, ?_, ?_, ?_⟩
  · rintro ⟨body, h⟩
    exact (ofTokens_eq_ok_iff.mp h).1
  · intro h
    exact ⟨_, ofTokens_eq_ok_iff.mpr ⟨h, rfl⟩⟩
  · intro body h
    obtain ⟨-, rfl⟩ := ofTokens_eq_ok_iff.mp h
    refine ⟨ofList_render tokens, rfl, ?_⟩
    rw [String.toList_ofList, count_newline_render, Token.length_operators]
  · intro n d h
    rw [Draft.run_eq] at h
    cases hscan : OpenLoops.start.scan (tokens.take n) with
    | error fault => simp [Draft.start, hscan, Except.map] at h
    | ok last =>
        have hdepth := OpenLoops.depth_scan hscan
        rw [OpenLoops.depth_start, Token.operators_take] at hdepth
        simp only [Draft.start, hscan, Except.map, Except.ok.injEq] at h
        rw [← h]
        show (last.depth : Int) = _
        omega
  · intro others h
    have hlength : others.length = tokens.length := by
      rw [← Token.length_operators, h, Token.length_operators]
    have hnone : imbalance? others = none ↔ imbalance? tokens = none := by
      rw [imbalance?_eq_none_iff, imbalance?_eq_none_iff, h]
    rw [ofTokens_eq, ofTokens_eq, h, hlength]
    cases hothers : imbalance? others with
    | none =>
        rw [hnone.mp hothers]
    | some fault =>
        cases htokens : imbalance? tokens with
        | none => rw [hnone.mpr htokens] at hothers; cases hothers
        | some fault' => rfl

end Body

end TapeToJava.Java
