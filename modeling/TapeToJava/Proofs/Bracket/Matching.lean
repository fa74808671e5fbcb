import TapeToJava.Bracket.Matching
import TapeToJava.Proofs.Bracket.Balance

/-! The check blames the bracket that matching with a stack would blame. What the check keeps stands for a
stack: the depth for its height, and the remembered place for the bracket at its bottom, since the bottom is
replaced only when the stack has been empty. Matching does not depend on what is matched besides the
brackets, so it may be done on the characters of a text as well as on its tokens, or on mere indices: programs
with the same operators have the same fault at the same index. -/

namespace TapeToJava

namespace OpenLoops

/-- What is kept of the loops stands for a stack of the brackets that are open. -/
structure Tracks (loops : OpenLoops) (stack : List Token) : Prop where
  depth_eq : loops.depth = stack.length
  outermost_eq : ∀ t, stack.getLast? = some t → loops.outermost = some t.span

theorem tracks_start : start.Tracks [] :=
  ⟨rfl, fun t h => by cases h⟩

namespace Tracks

variable {loops : OpenLoops} {stack : List Token} {t : Token}

theorem step_loopOpen (h : loops.Tracks stack) (ht : t.operator = .loopOpen) :
    ∃ next, loops.step t = .ok next ∧ next.Tracks (t :: stack) := by
  refine ⟨_, by rw [step, ht], ?_, ?_⟩
  · rw [h.depth_eq, List.length_cons]
  · intro bottom hbottom
    cases stack with
    | nil =>
        cases hbottom
        exact if_pos h.depth_eq
    | cons top below =>
        rw [List.getLast?_cons_cons] at hbottom
        have hdepth : loops.depth ≠ 0 := by
          rw [h.depth_eq]
          exact Nat.succ_ne_zero _
        rw [if_neg hdepth]
        exact h.outermost_eq bottom hbottom

theorem step_loopClose {top : Token} (h : loops.Tracks (top :: stack)) (ht : t.operator = .loopClose) :
    ∃ next, loops.step t = .ok next ∧ next.Tracks stack := by
  have hdepth : loops.depth = stack.length + 1 := h.depth_eq
  refine ⟨⟨stack.length, loops.outermost⟩, ?_, rfl, ?_⟩
  · simp only [step, ht, hdepth]
  · intro bottom hbottom
    cases stack with
    | nil => cases hbottom
    | cons next below => exact h.outermost_eq bottom (by rwa [List.getLast?_cons_cons])

theorem step_other (h : loops.Tracks stack) (hopen : t.operator ≠ .loopOpen) (hclose : t.operator ≠ .loopClose) :
    ∃ next, loops.step t = .ok next ∧ next.Tracks stack := by
  refine ⟨loops, ?_, h⟩
  unfold step
  split
  · contradiction
  · contradiction
  · rfl

end Tracks

end OpenLoops

namespace Matching

section Equations

variable {α : Type} {operator? : α → Option Operator} {x : α}

theorem runFrom_loopOpen (hx : operator? x = some .loopOpen) (stack xs : List α) :
    runFrom operator? stack (x :: xs) = runFrom operator? (x :: stack) xs := by
  simp only [runFrom, hx]

theorem runFrom_loopClose_nil (hx : operator? x = some .loopClose) (xs : List α) :
    runFrom operator? [] (x :: xs) = .stray x := by
  simp only [runFrom, hx]

theorem runFrom_loopClose_cons (hx : operator? x = some .loopClose) (top : α) (stack xs : List α) :
    runFrom operator? (top :: stack) (x :: xs) = runFrom operator? stack xs := by
  simp only [runFrom, hx]

theorem runFrom_other (hopen : operator? x ≠ some .loopOpen) (hclose : operator? x ≠ some .loopClose)
    (stack xs : List α) : runFrom operator? stack (x :: xs) = runFrom operator? stack xs := by
  simp only [runFrom]

end Equations

section Membership

variable {α : Type} {operator? : α → Option Operator} {x : α} {stack xs : List α}

theorem mem_of_runFrom_stray (h : runFrom operator? stack xs = .stray x) :
    x ∈ xs ∧ operator? x = some .loopClose := by
  fun_induction runFrom operator? stack xs with
  | case1 stack => cases h
  | case2 stack y ys hopen ih => exact (ih h).imp_left (List.mem_cons_of_mem y)
  | case3 y ys hclose =>
      cases h
      exact ⟨List.mem_cons_self, hclose⟩
  | case4 y ys hclose top below ih => exact (ih h).imp_left (List.mem_cons_of_mem y)
  | case5 stack y ys hopen hclose ih => exact (ih h).imp_left (List.mem_cons_of_mem y)

/-- What stands behind a stray closing bracket has no part in the result. -/
theorem runFrom_append_of_stray (h : runFrom operator? stack xs = .stray x) (ys : List α) :
    runFrom operator? stack (xs ++ ys) = .stray x := by
  fun_induction runFrom operator? stack xs with
  | case1 stack => cases h
  | case2 stack y zs hopen ih =>
      rw [List.cons_append, runFrom_loopOpen hopen]
      exact ih h
  | case3 y zs hclose =>
      rw [List.cons_append, runFrom_loopClose_nil hclose]
      exact h
  | case4 y zs hclose top below ih =>
      rw [List.cons_append, runFrom_loopClose_cons hclose]
      exact ih h
  | case5 stack y zs hopen hclose ih =>
      rw [List.cons_append, runFrom_other hopen hclose]
      exact ih h

theorem mem_of_runFrom_rest {rest : List α} (h : runFrom operator? stack xs = .rest rest) (hx : x ∈ rest) :
    x ∈ stack ∨ x ∈ xs ∧ operator? x = some .loopOpen := by
  fun_induction runFrom operator? stack xs with
  | case1 stack =>
      cases h
      exact Or.inl hx
  | case2 stack y ys hopen ih =>
      rcases ih h with hmem | hmem
      · rcases List.mem_cons.mp hmem with rfl | hmem
        · exact Or.inr ⟨List.mem_cons_self, hopen⟩
        · exact Or.inl hmem
      · exact Or.inr (hmem.imp_left (List.mem_cons_of_mem y))
  | case3 y ys hclose => cases h
  | case4 y ys hclose top below ih =>
      exact (ih h).imp (List.mem_cons_of_mem top) (And.imp_left (List.mem_cons_of_mem y))
  | case5 stack y ys hopen hclose ih => exact (ih h).imp_right (And.imp_left (List.mem_cons_of_mem y))

end Membership

/-- The result of matching is that of a scan which keeps what stands for the stack. -/
theorem scan_eq_of_tracks {loops : OpenLoops} {stack : List Token} (h : loops.Tracks stack) (ts : List Token) :
    (∀ t, runFrom (some ∘ Token.operator) stack ts = .stray t →
      loops.scan ts = .error (.strayClose t.span)) ∧
    ∀ rest, runFrom (some ∘ Token.operator) stack ts = .rest rest →
      ∃ last, loops.scan ts = .ok last ∧ last.Tracks rest := by
  induction ts generalizing loops stack with
  | nil =>
      refine ⟨fun t ht => (by cases ht), fun rest hrest => ?_⟩
      cases hrest
      exact ⟨loops, rfl, h⟩
  | cons t ts ih =>
      by_cases hopen : t.operator = .loopOpen
      · have hopen' : (some ∘ Token.operator) t = some .loopOpen := congrArg some hopen
        obtain ⟨next, hnext, htracks⟩ := h.step_loopOpen hopen
        rw [runFrom_loopOpen hopen', OpenLoops.scan_cons_ok hnext]
        exact ih htracks
      by_cases hclose : t.operator = .loopClose
      · have hclose' : (some ∘ Token.operator) t = some .loopClose := congrArg some hclose
        cases stack with
        | nil =>
            have hstep := OpenLoops.step_eq_error_iff.mpr ⟨hclose, h.depth_eq, rfl⟩
            rw [runFrom_loopClose_nil hclose', OpenLoops.scan_cons_error hstep]
            refine ⟨fun t' ht' => ?_, fun rest hrest => by cases hrest⟩
            cases ht'
            rfl
        | cons top below =>
            obtain ⟨next, hnext, htracks⟩ := h.step_loopClose hclose
            rw [runFrom_loopClose_cons hclose', OpenLoops.scan_cons_ok hnext]
            exact ih htracks
      · have hopen' : (some ∘ Token.operator) t ≠ some .loopOpen := fun heq => hopen (Option.some.inj heq)
        have hclose' : (some ∘ Token.operator) t ≠ some .loopClose := fun heq => hclose (Option.some.inj heq)
        obtain ⟨next, hnext, htracks⟩ := h.step_other hopen hclose
        rw [runFrom_other hopen' hclose', OpenLoops.scan_cons_ok hnext]
        exact ih htracks

section Tokens

variable {tokens : List Token}

theorem imbalance?_of_stray {t : Token} (h : run (some ∘ Token.operator) tokens = .stray t) :
    imbalance? tokens = some (.strayClose t.span) := by
  rw [imbalance?, (scan_eq_of_tracks OpenLoops.tracks_start tokens).1 t h]

theorem imbalance?_of_rest_nil (h : run (some ∘ Token.operator) tokens = .rest []) :
    imbalance? tokens = none := by
  obtain ⟨last, hscan, htracks⟩ := (scan_eq_of_tracks OpenLoops.tracks_start tokens).2 [] h
  have hdepth : last.depth = 0 := htracks.depth_eq
  rw [imbalance?, hscan]
  exact (OpenLoops.unclosed?_eq_none_iff (OpenLoops.remembers_start.scan hscan)).mpr hdepth

theorem imbalance?_of_rest {stack : List Token} {t : Token}
    (h : run (some ∘ Token.operator) tokens = .rest stack) (ht : stack.getLast? = some t) :
    imbalance? tokens = some (.unclosed stack.length t.span) := by
  obtain ⟨last, hscan, htracks⟩ := (scan_eq_of_tracks OpenLoops.tracks_start tokens).2 stack h
  have hdepth : stack.length ≠ 0 := by
    intro hlength
    rw [List.eq_nil_of_length_eq_zero hlength] at ht
    cases ht
  rw [imbalance?, hscan]
  simp only [OpenLoops.unclosed?, htracks.outermost_eq t ht, htracks.depth_eq, if_pos hdepth]

end Tokens

/-! ### Matching on items of two kinds -/

section FilterMap

variable {α β : Type} {f : α → Option Operator} {g : β → Option Operator} {item? : α → Option β}

/-- Items that are no operators may be left out, and the others may be replaced by items of another kind.
The stacks correspond from top to bottom. -/
theorem runFrom_filterMap (hf : ∀ x, f x = (item? x).bind g) {stack : List α} {stack' : List β}
    (hstack : stack.map item? = stack'.map some) (xs : List α) :
    (∀ x, runFrom f stack xs = .stray x →
      ∃ y, item? x = some y ∧ runFrom g stack' (xs.filterMap item?) = .stray y) ∧
    ∀ rest, runFrom f stack xs = .rest rest →
      ∃ rest', rest.map item? = rest'.map some ∧ runFrom g stack' (xs.filterMap item?) = .rest rest' := by
  induction xs generalizing stack stack' with
  | nil =>
      refine ⟨fun x hx => (by cases hx), fun rest hrest => ?_⟩
      cases hrest
      exact ⟨stack', hstack, rfl⟩
  | cons x xs ih =>
      have hx := hf x
      cases hitem : item? x with
      | none =>
          rw [hitem, Option.bind_none] at hx
          rw [List.filterMap_cons_none hitem,
            runFrom_other (by rw [hx]; exact Option.some_ne_none _ ∘ Eq.symm)
              (by rw [hx]; exact Option.some_ne_none _ ∘ Eq.symm)]
          exact ih hstack
      | some y =>
          rw [hitem, Option.bind_some] at hx
          rw [List.filterMap_cons_some hitem]
          by_cases hopen : g y = some .loopOpen
          · rw [runFrom_loopOpen hopen, runFrom_loopOpen (hx.trans hopen)]
            apply ih
            rw [List.map_cons, List.map_cons, hitem, hstack]
          by_cases hclose : g y = some .loopClose
          · cases stack with
            | nil =>
                have hnil : stack' = [] := List.map_eq_nil_iff.mp hstack.symm
                subst hnil
                rw [runFrom_loopClose_nil hclose, runFrom_loopClose_nil (hx.trans hclose)]
                refine ⟨fun x' hx' => ?_, fun rest hrest => by cases hrest⟩
                cases hx'
                exact ⟨y, hitem, rfl⟩
            | cons top below =>
                cases stack' with
                | nil => cases hstack
                | cons top' below' =>
                    rw [runFrom_loopClose_cons hclose, runFrom_loopClose_cons (hx.trans hclose)]
                    exact ih (List.cons.inj hstack).2
          · rw [runFrom_other hopen hclose,
              runFrom_other (fun h => hopen (hx.symm.trans h)) (fun h => hclose (hx.symm.trans h))]
            exact ih hstack

/-- The item at the bottom of a stack, among those of the other kind. -/
theorem getLast?_of_map_eq {stack : List α} {stack' : List β} {x : α} (h : stack.map item? = stack'.map some)
    (hx : stack.getLast? = some x) : ∃ y, item? x = some y ∧ stack'.getLast? = some y := by
  have hlast : some (item? x) = stack'.getLast?.map some := by
    rw [← List.getLast?_map, ← h, List.getLast?_map, hx, Option.map_some]
  obtain ⟨y, hy, heq⟩ := Option.map_eq_some_iff.mp hlast.symm
  exact ⟨y, heq.symm, hy⟩

end FilterMap

/-! ### Matching on indices -/

section Indices

variable {ops : List Operator} {tokens others : List Token}

theorem filterMap_getElem?_range (tokens : List Token) :
    (List.range tokens.length).filterMap (tokens[·]?) = tokens := by
  have hmap : (List.range tokens.length).map (tokens[·]?) = tokens.map some := by
    apply List.ext_getElem
    · rw [List.length_map, List.length_range, List.length_map]
    · intro i hi hi'
      rw [List.length_map] at hi'
      rw [List.getElem_map, List.getElem_map, List.getElem_range, List.getElem?_eq_getElem hi']
  calc (List.range tokens.length).filterMap (tokens[·]?)
      = ((List.range tokens.length).map (tokens[·]?)).filterMap id := by rw [List.filterMap_map]; rfl
    _ = (tokens.map some).filterMap id := by rw [hmap]
    _ = tokens := by rw [List.filterMap_map]; exact List.filterMap_some

/-- Matching the indices of operators tells of every program with these operators which of its tokens is at
fault. -/
theorem imbalance?_of_indices (h : Token.operators tokens = ops) :
    (∀ i : Nat, run (ops[·]?) (List.range ops.length) = .stray i →
      ∃ t : Token, tokens[i]? = some t ∧ imbalance? tokens = some (.strayClose t.span)) ∧
    (run (ops[·]?) (List.range ops.length) = .rest [] → imbalance? tokens = none) ∧
    ∀ (stack : List Nat) (i : Nat), run (ops[·]?) (List.range ops.length) = .rest stack →
      stack.getLast? = some i →
      ∃ t : Token, tokens[i]? = some t ∧ imbalance? tokens = some (.unclosed stack.length t.span) := by
  subst h
  have hitem : ∀ i : Nat, (Token.operators tokens)[i]? = (tokens[i]?).bind (some ∘ Token.operator) := by
    intro i
    rw [Token.operators, List.getElem?_map]
    cases tokens[i]? <;> rfl
  have hstart : ([] : List Nat).map (tokens[·]?) = ([] : List Token).map some := rfl
  obtain ⟨hstray, hrest⟩ := runFrom_filterMap hitem hstart (List.range tokens.length)
  rw [filterMap_getElem?_range] at hstray hrest
  rw [Token.length_operators]
  refine ⟨fun i hi => ?_, fun hnil => ?_, fun stack i hstack hi => ?_⟩
  · obtain ⟨t, ht, hrun⟩ := hstray i hi
    exact ⟨t, ht, imbalance?_of_stray hrun⟩
  · obtain ⟨ts, hts, hrun⟩ := hrest [] hnil
    rw [List.map_eq_nil_iff.mp hts.symm] at hrun
    exact imbalance?_of_rest_nil hrun
  · obtain ⟨ts, hts, hrun⟩ := hrest stack hstack
    obtain ⟨t, ht, hlast⟩ := getLast?_of_map_eq hts hi
    have hheight : ts.length = stack.length := by rw [← List.length_map some, ← hts, List.length_map]
    refine ⟨t, ht, ?_⟩
    rw [← hheight]
    exact imbalance?_of_rest hrun hlast

/-- Two programs with the same operators are both balanced, or they have the same fault at the same index. -/
theorem imbalance?_of_operators_eq (h : Token.operators tokens = Token.operators others) :
    (imbalance? tokens = none ∧ imbalance? others = none) ∨
    ∃ (i : Nat) (t t' : Token), tokens[i]? = some t ∧ others[i]? = some t' ∧
      ((imbalance? tokens = some (.strayClose t.span) ∧ imbalance? others = some (.strayClose t'.span)) ∨
        ∃ depth, imbalance? tokens = some (.unclosed depth t.span) ∧
          imbalance? others = some (.unclosed depth t'.span)) := by
  obtain ⟨hstray, hnil, hrest⟩ := imbalance?_of_indices h
  obtain ⟨hstray', hnil', hrest'⟩ := imbalance?_of_indices (rfl : Token.operators others = _)
  cases hrun : run ((Token.operators others)[·]?) (List.range (Token.operators others).length) with
  | stray i =>
      obtain ⟨t, ht, hfault⟩ := hstray i hrun
      obtain ⟨t', ht', hfault'⟩ := hstray' i hrun
      exact Or.inr ⟨i, t, t', ht, ht', Or.inl ⟨hfault, hfault'⟩⟩
  | rest stack =>
      cases hlast : stack.getLast? with
      | none =>
          rw [List.getLast?_eq_none_iff.mp hlast] at hrun
          exact Or.inl ⟨hnil hrun, hnil' hrun⟩
      | some i =>
          obtain ⟨t, ht, hfault⟩ := hrest stack i hrun hlast
          obtain ⟨t', ht', hfault'⟩ := hrest' stack i hrun hlast
          exact Or.inr ⟨i, t, t', ht, ht', Or.inr ⟨stack.length, hfault, hfault'⟩⟩

end Indices

end Matching

end TapeToJava
