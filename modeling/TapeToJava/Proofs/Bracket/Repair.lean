import TapeToJava.Bracket.Matching
import TapeToJava.Proofs.Java.Body

/-! What the check blames can be mended. Where a closing bracket is stray no loop is open, so that without it the
check goes on as behind it; and behind an opening bracket that is blamed some loop is open all along, so that a
closing bracket put right behind it lowers every later depth by one. Each of the two edits takes one bracket from
those without a partner, and therefore as many edits are needed as there are such brackets. -/

namespace TapeToJava

namespace OpenLoops

variable {loops next last : OpenLoops} {t : Token} {ts more : List Token} {n depth : Nat}

/-! ### How many loops are open at an index -/

theorem scan_append_ok (h : loops.scan ts = .ok next) (more : List Token) :
    loops.scan (ts ++ more) = next.scan more := by
  induction ts generalizing loops with
  | nil =>
      cases h
      rfl
  | cons t ts ih =>
      cases hstep : loops.step t with
      | error fault => rw [scan_cons_error hstep] at h; cases h
      | ok behind =>
          rw [scan_cons_ok hstep] at h
          rw [List.cons_append, scan_cons_ok hstep]
          exact ih h

/-- The pass gets past the first `n` tokens, and `depth` loops are open then. -/
def OpenAt (loops : OpenLoops) (ts : List Token) (n depth : Nat) : Prop :=
  ∃ next, loops.scan (ts.take n) = .ok next ∧ next.depth = depth

theorem openAt_zero_iff : loops.OpenAt ts 0 depth ↔ loops.depth = depth := by
  constructor
  · rintro ⟨next, hnext, rfl⟩
    cases hnext
    rfl
  · intro h
    exact ⟨loops, rfl, h⟩

theorem openAt_cons (h : loops.step t = .ok next) : loops.OpenAt (t :: ts) (n + 1) depth ↔ next.OpenAt ts n depth := by
  rw [OpenAt, OpenAt, List.take_succ_cons, scan_cons_ok h]

theorem openAt_append (h : loops.scan ts = .ok next) :
    loops.OpenAt (ts ++ more) (ts.length + n) depth ↔ next.OpenAt more n depth := by
  rw [OpenAt, OpenAt, List.take_length_add_append, scan_append_ok h]

theorem OpenAt.unique {depth' : Nat} (h : loops.OpenAt ts n depth) (h' : loops.OpenAt ts n depth') :
    depth = depth' := by
  obtain ⟨next, hnext, rfl⟩ := h
  obtain ⟨next', hnext', rfl⟩ := h'
  rw [hnext] at hnext'
  cases hnext'
  rfl

/-! ### The two kinds of fault -/

/-- The pass stops at the first closing bracket in front of which no loop is open. -/
theorem scan_eq_error_iff {fault : Imbalance} :
    loops.scan ts = .error fault ↔
      ∃ (i : Nat) (t : Token), ts[i]? = some t ∧ t.operator = .loopClose ∧ loops.OpenAt ts i 0 ∧
        fault = .strayClose t.span := by
  constructor
  · intro h
    induction ts generalizing loops with
    | nil => cases h
    | cons t ts ih =>
        cases hstep : loops.step t with
        | error fault' =>
            rw [scan_cons_error hstep] at h
            cases h
            obtain ⟨hop, hdepth, hfault⟩ := step_eq_error_iff.mp hstep
            exact ⟨0, t, rfl, hop, openAt_zero_iff.mpr hdepth, hfault⟩
        | ok next =>
            rw [scan_cons_ok hstep] at h
            obtain ⟨i, t', ht', hop, hopen, hfault⟩ := ih h
            exact ⟨i + 1, t', ht', hop, (openAt_cons hstep).mpr hopen, hfault⟩
  · rintro ⟨i, t, ht, hop, ⟨next, hnext, hdepth⟩, hfault⟩
    obtain ⟨hi, rfl⟩ := List.getElem?_eq_some_iff.mp ht
    have hstep : next.step ts[i] = .error fault := step_eq_error_iff.mpr ⟨hop, hdepth, hfault⟩
    rw [← List.take_append_drop i ts, scan_append_ok hnext, List.drop_eq_getElem_cons hi]
    exact scan_cons_error hstep _

/-- Where the place that is remembered in the end comes from: it is that of the last bracket that opened a loop while
no other one was open, or else some loop has been open from the start on. -/
theorem outermost_cases (h : loops.scan ts = .ok last) (hdepth : last.depth ≠ 0) :
    ((∀ n, ∃ d, loops.OpenAt ts n (d + 1)) ∧ last.outermost = loops.outermost) ∨
    ∃ (p : Nat) (t : Token), ts[p]? = some t ∧ t.operator = .loopOpen ∧ loops.OpenAt ts p 0 ∧
      (∀ n, p < n → ∃ d, loops.OpenAt ts n (d + 1)) ∧ last.outermost = some t.span := by
  induction ts generalizing loops with
  | nil =>
      cases h
      obtain ⟨d, hd⟩ := Nat.exists_eq_succ_of_ne_zero hdepth
      exact Or.inl ⟨fun n => ⟨d, last, by rw [List.take_nil]; rfl, hd⟩, rfl⟩
  | cons t ts ih =>
      cases hstep : loops.step t with
      | error fault => rw [scan_cons_error hstep] at h; cases h
      | ok next =>
          rw [scan_cons_ok hstep] at h
          rcases ih h with ⟨hopen, hplace⟩ | ⟨p, t', ht', hop, hzero, hopen, hplace⟩
          · -- Some loop is open all along behind the first token; the question is whether one was open before.
            have hbehind : ∀ n, 0 < n → ∃ d, loops.OpenAt (t :: ts) n (d + 1) := by
              intro n hn
              obtain ⟨m, rfl⟩ := Nat.exists_eq_succ_of_ne_zero (Nat.ne_of_gt hn)
              exact (hopen m).imp fun d hd => (openAt_cons hstep).mpr hd
            obtain ⟨d, hd⟩ := hopen 0
            have hnext : next.depth = d + 1 := openAt_zero_iff.mp hd
            have hcases := step_eq_ok hstep
            by_cases hbefore : loops.depth = 0
            · rw [if_pos hbefore] at hcases
              rcases hcases with ⟨hop, -, hstored⟩ | ⟨-, hclosed, -⟩ | ⟨-, -, rfl⟩
              · exact Or.inr ⟨0, t, rfl, hop, openAt_zero_iff.mpr hbefore, hbehind, hplace.trans hstored⟩
              · omega
              · omega
            · rw [if_neg hbefore] at hcases
              have hstored : next.outermost = loops.outermost := by
                rcases hcases with ⟨-, -, hstored⟩ | ⟨-, -, hstored⟩ | ⟨-, -, rfl⟩
                · exact hstored
                · exact hstored
                · rfl
              refine Or.inl ⟨fun n => ?_, hplace.trans hstored⟩
              cases n with
              | zero => exact (Nat.exists_eq_succ_of_ne_zero hbefore).imp fun d hd => openAt_zero_iff.mpr hd
              | succ m => exact hbehind _ (Nat.succ_pos m)
          · refine Or.inr ⟨p + 1, t', ht', hop, (openAt_cons hstep).mpr hzero, fun n hn => ?_, hplace⟩
            obtain ⟨m, rfl⟩ := Nat.exists_eq_succ_of_ne_zero (Nat.ne_zero_of_lt hn)
            obtain ⟨d, hd⟩ := hopen m (Nat.lt_of_succ_lt_succ hn)
            exact ⟨d, (openAt_cons hstep).mpr hd⟩

/-- A pass during which some loop is always open can be made with one loop less. -/
theorem scan_of_lower {lower : OpenLoops} (h : loops.scan ts = .ok last)
    (hopen : ∀ n, ∃ d, loops.OpenAt ts n (d + 1)) (hlower : lower.depth + 1 = loops.depth) :
    ∃ last', lower.scan ts = .ok last' ∧ last'.depth + 1 = last.depth := by
  induction ts generalizing loops lower with
  | nil =>
      cases h
      exact ⟨lower, rfl, hlower⟩
  | cons t ts ih =>
      cases hstep : loops.step t with
      | error fault => rw [scan_cons_error hstep] at h; cases h
      | ok next =>
          rw [scan_cons_ok hstep] at h
          have hrest : ∀ n, ∃ d, next.OpenAt ts n (d + 1) := fun n =>
            (hopen (n + 1)).imp fun d hd => (openAt_cons hstep).mp hd
          obtain ⟨d, hd⟩ := hrest 0
          have hnext : next.depth = d + 1 := openAt_zero_iff.mp hd
          have hdepth := depth_step hstep
          cases hlowerStep : lower.step t with
          | error fault =>
              obtain ⟨hop, hzero, -⟩ := step_eq_error_iff.mp hlowerStep
              rw [hop, show Operator.closed [.loopClose] = 1 from rfl,
                show Operator.opened [.loopClose] = 0 from rfl] at hdepth
              omega
          | ok next' =>
              have hdepth' := depth_step hlowerStep
              rw [scan_cons_ok hlowerStep]
              exact ih h hrest (by omega)

end OpenLoops

open OpenLoops

/-- Token `i` is a closing bracket, and no loop is open in front of it. -/
structure StrayAt (tokens : List Token) (i : Nat) (t : Token) : Prop where
  getElem?_eq : tokens[i]? = some t
  operator_eq : t.operator = .loopClose
  before : start.OpenAt tokens i 0

/-- Token `p` is an opening bracket with no loop open in front of it and some loop open ever after, `depth` of them in
the end. -/
structure UnclosedAt (tokens : List Token) (depth p : Nat) (t : Token) : Prop where
  getElem?_eq : tokens[p]? = some t
  operator_eq : t.operator = .loopOpen
  before : start.OpenAt tokens p 0
  behind : ∀ n, p < n → ∃ d, start.OpenAt tokens n (d + 1)
  last : start.OpenAt tokens tokens.length depth

section Faults

variable {tokens : List Token} {depth i p : Nat} {t : Token}

theorem UnclosedAt.depth_ne_zero (h : UnclosedAt tokens depth p t) : depth ≠ 0 := by
  have hp : p < tokens.length := (List.getElem?_eq_some_iff.mp h.getElem?_eq).1
  obtain ⟨d, hd⟩ := h.behind _ hp
  rw [h.last.unique hd]
  exact Nat.succ_ne_zero d

theorem UnclosedAt.index_unique {depth' p' : Nat} {t' : Token} (h : UnclosedAt tokens depth p t)
    (h' : UnclosedAt tokens depth' p' t') : p = p' := by
  rcases Nat.lt_trichotomy p p' with hlt | heq | hlt
  · obtain ⟨d, hd⟩ := h.behind p' hlt
    cases h'.before.unique hd
  · exact heq
  · obtain ⟨d, hd⟩ := h'.behind p hlt
    cases h.before.unique hd

theorem exists_unclosedAt {last : OpenLoops} (h : start.scan tokens = .ok last) (hdepth : last.depth ≠ 0) :
    ∃ p t, UnclosedAt tokens last.depth p t ∧ last.outermost = some t.span := by
  rcases outermost_cases h hdepth with ⟨hopen, -⟩ | ⟨p, t, ht, hop, hzero, hopen, hplace⟩
  · obtain ⟨d, hd⟩ := hopen 0
    cases openAt_zero_iff.mp hd
  · exact ⟨p, t, ⟨ht, hop, hzero, hopen, last, by rw [List.take_length, h], rfl⟩, hplace⟩

theorem StrayAt.imbalance?_eq (h : StrayAt tokens i t) : imbalance? tokens = some (.strayClose t.span) := by
  rw [imbalance?, scan_eq_error_iff.mpr ⟨i, t, h.getElem?_eq, h.operator_eq, h.before, rfl⟩]

theorem UnclosedAt.imbalance?_eq (h : UnclosedAt tokens depth p t) :
    imbalance? tokens = some (.unclosed depth t.span) := by
  obtain ⟨last, hlast, rfl⟩ := h.last
  rw [List.take_length] at hlast
  obtain ⟨p', t', h', hplace⟩ := exists_unclosedAt hlast h.depth_ne_zero
  have htoken := h'.getElem?_eq
  rw [← h.index_unique h', h.getElem?_eq] at htoken
  cases htoken
  rw [imbalance?, hlast]
  simp only [unclosed?, hplace, if_pos h.depth_ne_zero]

/-- A program is accepted, or it has a stray bracket, or it has one that is never closed. -/
theorem imbalance?_cases (tokens : List Token) :
    (imbalance? tokens = none ∧ start.OpenAt tokens tokens.length 0) ∨
    (∃ i t, StrayAt tokens i t) ∨ ∃ depth p t, UnclosedAt tokens depth p t := by
  cases hscan : start.scan tokens with
  | error fault =>
      obtain ⟨i, t, ht, hop, hopen, -⟩ := scan_eq_error_iff.mp hscan
      exact Or.inr (Or.inl ⟨i, t, ht, hop, hopen⟩)
  | ok last =>
      by_cases hdepth : last.depth = 0
      · refine Or.inl ⟨?_, last, by rw [List.take_length, hscan], hdepth⟩
        rw [imbalance?, hscan]
        exact (unclosed?_eq_none_iff (remembers_start.scan hscan)).mpr hdepth
      · obtain ⟨p, t, h, -⟩ := exists_unclosedAt hscan hdepth
        exact Or.inr (Or.inr ⟨last.depth, p, t, h⟩)

theorem exists_strayAt {span : Span} (h : imbalance? tokens = some (.strayClose span)) :
    ∃ i t, StrayAt tokens i t ∧ t.span = span := by
  rcases imbalance?_cases tokens with ⟨hnone, -⟩ | ⟨i, t, ht⟩ | ⟨depth, p, t, ht⟩
  · rw [hnone] at h
    cases h
  · rw [ht.imbalance?_eq] at h
    cases h
    exact ⟨i, t, ht, rfl⟩
  · rw [ht.imbalance?_eq] at h
    cases h

theorem exists_unclosedAt_of_imbalance {span : Span} (h : imbalance? tokens = some (.unclosed depth span)) :
    ∃ p t, UnclosedAt tokens depth p t ∧ t.span = span := by
  rcases imbalance?_cases tokens with ⟨hnone, -⟩ | ⟨i, t, ht⟩ | ⟨depth, p, t, ht⟩
  · rw [hnone] at h
    cases h
  · rw [ht.imbalance?_eq] at h
    cases h
  · rw [ht.imbalance?_eq] at h
    cases h
    exact ⟨p, t, ht, rfl⟩

end Faults

/-! ### One edit -/

section Edits

variable {tokens before behind : List Token} {depth i p : Nat} {t c : Token}

theorem exists_split (h : tokens[i]? = some t) :
    ∃ before behind, tokens = before ++ t :: behind ∧ before.length = i := by
  obtain ⟨hi, rfl⟩ := List.getElem?_eq_some_iff.mp h
  refine ⟨tokens.take i, tokens.drop (i + 1), ?_, List.length_take_of_le (Nat.le_of_lt hi)⟩
  rw [← List.drop_eq_getElem_cons hi, List.take_append_drop]

theorem eraseIdx_split (before behind : List Token) (t : Token) :
    (before ++ t :: behind).eraseIdx before.length = before ++ behind := by
  rw [List.eraseIdx_append_of_length_le (Nat.le_refl _), Nat.sub_self, List.eraseIdx_cons_zero]

theorem insertIdx_split (before behind : List Token) (t c : Token) :
    (before ++ t :: behind).insertIdx (before.length + 1) c = before ++ t :: c :: behind :=
  List.modifyTailIdx_add (List.cons c) 1 before (t :: behind)

/-- A stray bracket, with what stands in front of it and behind it. -/
theorem StrayAt.exists_split (h : StrayAt tokens i t) :
    ∃ before behind next, tokens = before ++ t :: behind ∧ before.length = i ∧
      start.scan before = .ok next ∧ next.depth = 0 := by
  obtain ⟨before, behind, rfl, rfl⟩ := TapeToJava.exists_split h.getElem?_eq
  obtain ⟨next, hnext, hdepth⟩ := h.before
  rw [List.take_left] at hnext
  exact ⟨before, behind, next, rfl, rfl, hnext, hdepth⟩

/-- Without its stray bracket a program is checked up to where the bracket was; so the next one stands behind. -/
theorem StrayAt.le_of_eraseIdx {j : Nat} {t' : Token} (h : StrayAt tokens i t)
    (h' : StrayAt (tokens.eraseIdx i) j t') : i ≤ j := by
  obtain ⟨before, behind, next, rfl, rfl, hnext, -⟩ := h.exists_split
  rw [eraseIdx_split] at h'
  refine Nat.le_of_not_lt fun hlt => ?_
  have htoken : before[j]? = some t' := by
    rw [← List.getElem?_append_left hlt]
    exact h'.getElem?_eq
  have hzero : start.OpenAt before j 0 := by
    obtain ⟨loops, hloops, hdepth⟩ := h'.before
    rw [List.take_append_of_le_length (Nat.le_of_lt hlt)] at hloops
    exact ⟨loops, hloops, hdepth⟩
  have herror := scan_eq_error_iff.mpr ⟨j, t', htoken, h'.operator_eq, hzero, rfl⟩
  rw [hnext] at herror
  cases herror

/-- A closing bracket right behind the one that is blamed closes it, and every later depth is lower by one. -/
theorem UnclosedAt.scan_insertIdx (h : UnclosedAt tokens depth p t) (hc : c.operator = .loopClose) :
    start.OpenAt (tokens.insertIdx (p + 1) c) (p + 2) 0 ∧
      ∃ last, start.scan (tokens.insertIdx (p + 1) c) = .ok last ∧ last.depth + 1 = depth := by
  obtain ⟨before, behind, rfl, rfl⟩ := exists_split h.getElem?_eq
  obtain ⟨loops, hloops, hzero⟩ := h.before
  rw [List.take_left] at hloops
  obtain ⟨opened, hopened, hone⟩ : ∃ opened, loops.step t = .ok opened ∧ opened.depth = 1 := by
    rw [step, h.operator_eq]
    exact ⟨_, rfl, congrArg (· + 1) hzero⟩
  obtain ⟨closed, hclosed, hnone⟩ : ∃ closed, opened.step c = .ok closed ∧ closed.depth = 0 := by
    rw [step, hc, hone]
    exact ⟨_, rfl, rfl⟩
  obtain ⟨last, hlast, hdepth⟩ := h.last
  rw [List.take_length, scan_append_ok hloops, scan_cons_ok hopened] at hlast
  have hbehind : ∀ n, ∃ d, opened.OpenAt behind n (d + 1) := by
    intro n
    obtain ⟨d, hd⟩ := h.behind (before.length + (n + 1)) (by omega)
    rw [openAt_append hloops, openAt_cons hopened] at hd
    exact ⟨d, hd⟩
  have hlower : closed.depth + 1 = opened.depth := by rw [hnone, hone]
  obtain ⟨last', hlast', hdepth'⟩ := scan_of_lower hlast hbehind hlower
  rw [insertIdx_split]
  refine ⟨?_, last', ?_, hdepth'.trans hdepth⟩
  · rw [openAt_append hloops, openAt_cons hopened, openAt_cons hclosed]
    exact openAt_zero_iff.mpr hnone
  · rw [scan_append_ok hloops, scan_cons_ok hopened, scan_cons_ok hclosed, hlast']

end Edits

/-! ### Repeated edits -/

/-- One of the edits that a fault suggests: a stray bracket is taken out, or a closing bracket is put right behind one
that is never closed. -/
inductive Repair : List Token → List Token → Prop
  | remove {tokens : List Token} {i : Nat} {t : Token} (h : StrayAt tokens i t) : Repair tokens (tokens.eraseIdx i)
  | close {tokens : List Token} {depth p : Nat} {t : Token} (c : Token) (h : UnclosedAt tokens depth p t)
      (hc : c.operator = .loopClose) : Repair tokens (tokens.insertIdx (p + 1) c)

/-- Several edits, one after the other. -/
inductive Repairs : Nat → List Token → List Token → Prop
  | none (tokens : List Token) : Repairs 0 tokens tokens
  | more {n : Nat} {tokens next last : List Token} (h : Repair tokens next) (hs : Repairs n next last) :
      Repairs (n + 1) tokens last

namespace Matching

section Equations

variable {α : Type} {operator? : α → Option Operator} {x : α}

theorem unmatchedFrom_loopOpen (hx : operator? x = some .loopOpen) (stack xs : List α) :
    unmatchedFrom operator? stack (x :: xs) = unmatchedFrom operator? (x :: stack) xs := by
  simp only [unmatchedFrom, hx]

theorem unmatchedFrom_loopClose_nil (hx : operator? x = some .loopClose) (xs : List α) :
    unmatchedFrom operator? [] (x :: xs) = x :: unmatchedFrom operator? [] xs := by
  simp only [unmatchedFrom, hx]

theorem unmatchedFrom_loopClose_cons (hx : operator? x = some .loopClose) (top : α) (stack xs : List α) :
    unmatchedFrom operator? (top :: stack) (x :: xs) = unmatchedFrom operator? stack xs := by
  simp only [unmatchedFrom, hx]

theorem unmatchedFrom_other (hopen : operator? x ≠ some .loopOpen) (hclose : operator? x ≠ some .loopClose)
    (stack xs : List α) : unmatchedFrom operator? stack (x :: xs) = unmatchedFrom operator? stack xs := by
  simp only [unmatchedFrom]

end Equations

/-- The brackets without a partner among tokens. -/
def unmatchedTokens (tokens : List Token) : List Token :=
  unmatched (some ∘ Token.operator) tokens

open OpenLoops

section Tokens

variable {loops next last : OpenLoops} {tokens stack ts : List Token} {depth i p : Nat} {t c : Token}

/-- Where the check gets to, matching has a stack as high as the depth. -/
theorem exists_unmatchedFrom_append (h : loops.scan ts = .ok next) (hdepth : loops.depth = stack.length)
    (more : List Token) :
    ∃ stack', next.depth = stack'.length ∧
      unmatchedFrom (some ∘ Token.operator) stack (ts ++ more) =
        unmatchedFrom (some ∘ Token.operator) stack' more := by
  induction ts generalizing loops stack with
  | nil =>
      cases h
      exact ⟨stack, hdepth, rfl⟩
  | cons t ts ih =>
      cases hstep : loops.step t with
      | error fault => rw [scan_cons_error hstep] at h; cases h
      | ok behind =>
          rw [scan_cons_ok hstep] at h
          rw [List.cons_append]
          rcases step_eq_ok hstep with ⟨hop, hnext, -⟩ | ⟨hop, hnext, -⟩ | ⟨hopen, hclose, rfl⟩
          · have hop' : (some ∘ Token.operator) t = some .loopOpen := congrArg some hop
            rw [unmatchedFrom_loopOpen hop']
            exact ih h (by rw [hnext, hdepth, List.length_cons])
          · cases stack with
            | nil => rw [hdepth, List.length_nil] at hnext; cases hnext
            | cons top below =>
                have hop' : (some ∘ Token.operator) t = some .loopClose := congrArg some hop
                rw [unmatchedFrom_loopClose_cons hop']
                rw [List.length_cons] at hdepth
                exact ih h (by omega)
          · have hopen' : (some ∘ Token.operator) t ≠ some .loopOpen := fun heq => hopen (Option.some.inj heq)
            have hclose' : (some ∘ Token.operator) t ≠ some .loopClose := fun heq => hclose (Option.some.inj heq)
            rw [unmatchedFrom_other hopen' hclose']
            exact ih h hdepth

theorem unmatchedTokens_append (h : start.scan ts = .ok next) (hdepth : next.depth = 0) (more : List Token) :
    unmatchedTokens (ts ++ more) = unmatchedTokens more := by
  have hempty : start.depth = ([] : List Token).length := rfl
  obtain ⟨stack, hstack, heq⟩ := exists_unmatchedFrom_append h hempty more
  rw [List.eq_nil_of_length_eq_zero (hstack.symm.trans hdepth)] at heq
  exact heq

theorem length_unmatchedTokens (h : start.OpenAt tokens tokens.length depth) :
    (unmatchedTokens tokens).length = depth := by
  obtain ⟨last, hlast, rfl⟩ := h
  rw [List.take_length] at hlast
  have hempty : start.depth = ([] : List Token).length := rfl
  obtain ⟨stack, hstack, heq⟩ := exists_unmatchedFrom_append hlast hempty []
  rw [List.append_nil] at heq
  rw [unmatchedTokens, unmatched, heq, unmatchedFrom, List.length_reverse, hstack]

theorem unmatchedTokens_of_strayAt (h : StrayAt tokens i t) :
    unmatchedTokens tokens = t :: unmatchedTokens (tokens.eraseIdx i) := by
  obtain ⟨before, behind, next, rfl, rfl, hnext, hdepth⟩ := h.exists_split
  have hop : (some ∘ Token.operator) t = some .loopClose := congrArg some h.operator_eq
  rw [eraseIdx_split, unmatchedTokens_append hnext hdepth, unmatchedTokens_append hnext hdepth]
  exact unmatchedFrom_loopClose_nil hop behind

theorem imbalance?_eq_none_iff_unmatchedTokens : imbalance? tokens = none ↔ (unmatchedTokens tokens).length = 0 := by
  rcases imbalance?_cases tokens with ⟨hnone, hzero⟩ | ⟨i, t, h⟩ | ⟨depth, p, t, h⟩
  · simp only [hnone, length_unmatchedTokens hzero]
  · simp only [h.imbalance?_eq, unmatchedTokens_of_strayAt h, List.length_cons, reduceCtorEq, Nat.succ_ne_zero]
  · simp only [h.imbalance?_eq, length_unmatchedTokens h.last, reduceCtorEq, h.depth_ne_zero]

end Tokens

end Matching

open Matching

section Repairs

variable {tokens next last : List Token} {n : Nat}

/-- An edit leaves one bracket less without a partner. -/
theorem Repair.length_unmatchedTokens (h : Repair tokens next) :
    (unmatchedTokens next).length + 1 = (unmatchedTokens tokens).length := by
  cases h with
  | remove h => rw [unmatchedTokens_of_strayAt h, List.length_cons]
  | close c h hc =>
      obtain ⟨-, last, hlast, hdepth⟩ := h.scan_insertIdx hc
      have hopen : start.OpenAt (tokens.insertIdx _ c) (tokens.insertIdx _ c).length last.depth :=
        ⟨last, by rw [List.take_length, hlast], rfl⟩
      rw [Matching.length_unmatchedTokens hopen, Matching.length_unmatchedTokens h.last, hdepth]

theorem Repairs.length_unmatchedTokens (h : Repairs n tokens last) :
    (unmatchedTokens last).length + n = (unmatchedTokens tokens).length := by
  induction h with
  | none tokens => rfl
  | more h hs ih =>
      rw [← h.length_unmatchedTokens, ← ih]
      rfl

theorem exists_repair (h : imbalance? tokens ≠ none) : ∃ next, Repair tokens next := by
  rcases imbalance?_cases tokens with ⟨hnone, -⟩ | ⟨i, t, ht⟩ | ⟨depth, p, t, ht⟩
  · exact absurd hnone h
  · exact ⟨_, .remove ht⟩
  · exact ⟨_, .close ⟨.loopClose, t.span⟩ ht rfl⟩

end Repairs

namespace Java.Body

/-- A program is refused for its token `i`, which is then a stray closing bracket, or an opening bracket that is never
closed. Without the stray bracket it is accepted, or refused for a later one, or for a loop that is left open. With a
closing bracket right behind the one that is never closed, one loop less is left open, and if that is still one, the
bracket to blame comes later. Repeating such edits leads to an accepted program, with exactly as many of them as there
are brackets without a partner. -/
theorem ofTokens_repaired (tokens : List Token) :
    (∀ span, ofTokens tokens = .error (.strayClose span) → ∃ i t, StrayAt tokens i t ∧ t.span = span) ∧
    (∀ i t, StrayAt tokens i t →
      ofTokens tokens = .error (.strayClose t.span) ∧
      ((∃ body, ofTokens (tokens.eraseIdx i) = .ok body) ∨
        (∃ j t', i ≤ j ∧ StrayAt (tokens.eraseIdx i) j t' ∧
          ofTokens (tokens.eraseIdx i) = .error (.strayClose t'.span)) ∨
        ∃ depth span, ofTokens (tokens.eraseIdx i) = .error (.unclosed depth span))) ∧
    (∀ depth span, ofTokens tokens = .error (.unclosed depth span) →
      ∃ p t, UnclosedAt tokens depth p t ∧ t.span = span) ∧
    (∀ depth p t c, UnclosedAt tokens depth p t → c.operator = .loopClose →
      ofTokens tokens = .error (.unclosed depth t.span) ∧
      (depth = 1 → ∃ body, ofTokens (tokens.insertIdx (p + 1) c) = .ok body) ∧
      (depth ≠ 1 → ∃ q t', p + 1 < q ∧ UnclosedAt (tokens.insertIdx (p + 1) c) (depth - 1) q t' ∧
        ofTokens (tokens.insertIdx (p + 1) c) = .error (.unclosed (depth - 1) t'.span))) ∧
    ∀ n last, Repairs n tokens last →
      n ≤ (unmatchedTokens tokens).length ∧
      ((∃ body, ofTokens last = .ok body) ↔ n = (unmatchedTokens tokens).length) ∧
      ((∀ body, ofTokens last ≠ .ok body) → ∃ next, Repair last next) := by
  have hok : ∀ ts, (∃ body, ofTokens ts = .ok body) ↔ imbalance? ts = none := by
    intro ts
    rw [ofTokens_eq]
    cases imbalance? ts <;> simp
  refine ⟨?_, ?_, ?_, ?_, ?_⟩
  · intro span h
    exact exists_strayAt (ofTokens_eq_error_iff.mp h)
  · intro i t h
    refine ⟨ofTokens_eq_error_iff.mpr h.imbalance?_eq, ?_⟩
    rcases imbalance?_cases (tokens.eraseIdx i) with ⟨hnone, -⟩ | ⟨j, t', h'⟩ | ⟨depth, p, t', h'⟩
    · exact Or.inl ((hok _).mpr hnone)
    · exact Or.inr (Or.inl ⟨j, t', h.le_of_eraseIdx h', h', ofTokens_eq_error_iff.mpr h'.imbalance?_eq⟩)
    · exact Or.inr (Or.inr ⟨depth, t'.span, ofTokens_eq_error_iff.mpr h'.imbalance?_eq⟩)
  · intro depth span h
    exact exists_unclosedAt_of_imbalance (ofTokens_eq_error_iff.mp h)
  · intro depth p t c h hc
    obtain ⟨hzero, last, hlast, hdepth⟩ := h.scan_insertIdx hc
    refine ⟨ofTokens_eq_error_iff.mpr h.imbalance?_eq, fun hone => ?_, fun hmore => ?_⟩
    · rw [hok, imbalance?, hlast]
      exact (unclosed?_eq_none_iff (remembers_start.scan hlast)).mpr (by omega)
    · obtain ⟨q, t', h', -⟩ := exists_unclosedAt hlast (by omega)
      rw [show last.depth = depth - 1 by omega] at h'
      refine ⟨q, t', ?_, h', ofTokens_eq_error_iff.mpr h'.imbalance?_eq⟩
      -- Behind the new bracket no loop is open, so the one to blame is not in front of it.
      refine Nat.lt_of_not_le fun hle => ?_
      obtain ⟨d, hd⟩ := h'.behind (p + 2) (by omega)
      cases hzero.unique hd
  · intro n last h
    have hlength := h.length_unmatchedTokens
    refine ⟨by omega, ?_, fun hrefused => ?_⟩
    · rw [hok, imbalance?_eq_none_iff_unmatchedTokens]
      omega
    · refine exists_repair fun hnone => ?_
      obtain ⟨body, hbody⟩ := (hok last).mpr hnone
      exact hrefused body hbody

/-- Two brackets the wrong way round: the first is taken out, and the second is closed. -/
theorem ofTokens_repaired_swapped :
    Repairs 2 [⟨.loopClose, .point 1 1⟩, ⟨.loopOpen, .point 1 2⟩] [⟨.loopOpen, .point 1 2⟩, ⟨.loopClose, .point 1 2⟩] ∧
      ∃ body, ofTokens [⟨.loopOpen, .point 1 2⟩, ⟨.loopClose, .point 1 2⟩] = .ok body := by
  have hstray : StrayAt [⟨.loopClose, .point 1 1⟩, ⟨.loopOpen, .point 1 2⟩] 0 ⟨.loopClose, .point 1 1⟩ :=
    ⟨rfl, rfl, openAt_zero_iff.mpr rfl⟩
  have hbehind : ∀ n, 0 < n → ∃ d, start.OpenAt [⟨.loopOpen, .point 1 2⟩] n (d + 1) := by
    intro n hn
    obtain ⟨m, rfl⟩ := Nat.exists_eq_succ_of_ne_zero (Nat.ne_of_gt hn)
    exact ⟨0, _, by rw [List.take_succ_cons, List.take_nil]; rfl, rfl⟩
  have hunclosed : UnclosedAt [⟨.loopOpen, .point 1 2⟩] 1 0 ⟨.loopOpen, .point 1 2⟩ :=
    ⟨rfl, rfl, openAt_zero_iff.mpr rfl, hbehind, _, rfl, rfl⟩
  have hrepairs := Repairs.more (.remove hstray) (.more (.close ⟨.loopClose, .point 1 2⟩ hunclosed rfl) (.none _))
  obtain ⟨-, -, -, -, hruns⟩ := ofTokens_repaired [⟨.loopClose, .point 1 1⟩, ⟨.loopOpen, .point 1 2⟩]
  exact ⟨hrepairs, (hruns 2 _ hrepairs).2.1.mpr rfl⟩

end Java.Body

end TapeToJava
