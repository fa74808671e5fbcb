import TapeToJava.Bracket.Dyck
import TapeToJava.Java.Body

/-! The pass over the brackets accepts the balanced programs. The depth is at every point the number of
loops opened less the number of loops closed, and a place is remembered whenever a loop is open; so the
test of the remembered place at the end is a test of the depth. The pass writes one line for each token
that it gets past, whatever the spans are. -/

namespace TapeToJava

open Operator

/-- The operators of tokens, without their spans. -/
def Token.operators (tokens : List Token) : List Operator :=
  tokens.map (·.operator)

@[simp] theorem Token.operators_nil : Token.operators [] = [] := rfl

@[simp] theorem Token.operators_cons (t : Token) (ts : List Token) :
    Token.operators (t :: ts) = t.operator :: Token.operators ts := rfl

@[simp] theorem Token.operators_take (n : Nat) (tokens : List Token) :
    Token.operators (tokens.take n) = (Token.operators tokens).take n :=
  List.map_take ..

@[simp] theorem Token.length_operators (tokens : List Token) :
    (Token.operators tokens).length = tokens.length :=
  List.length_map ..

namespace OpenLoops

/-! ### One token -/

/-- Everything that a token can do when it is let through. -/
theorem step_eq_ok {loops next : OpenLoops} {t : Token} (h : loops.step t = .ok next) :
    (t.operator = .loopOpen ∧ next.depth = loops.depth + 1 ∧
      next.outermost = if loops.depth = 0 then some t.span else loops.outermost) ∨
    (t.operator = .loopClose ∧ loops.depth = next.depth + 1 ∧ next.outermost = loops.outermost) ∨
    (t.operator ≠ .loopOpen ∧ t.operator ≠ .loopClose ∧ next = loops) := by
  unfold step at h
  split at h
  · rename_i hop
    cases h
    exact Or.inl ⟨hop, rfl, rfl⟩
  · rename_i hop
    split at h
    · cases h
    · rename_i depth hdepth
      cases h
      exact Or.inr (Or.inl ⟨hop, hdepth, rfl⟩)
  · rename_i hopen hclose
    cases h
    exact Or.inr (Or.inr ⟨hopen, hclose, rfl⟩)

/-- Only a closing bracket is ever refused, and only where no loop is open. -/
theorem step_eq_error_iff {loops : OpenLoops} {t : Token} {fault : Imbalance} :
    loops.step t = .error fault ↔
      t.operator = .loopClose ∧ loops.depth = 0 ∧ fault = .strayClose t.span := by
  constructor
  · intro h
    unfold step at h
    split at h
    · cases h
    · rename_i hop
      split at h
      · rename_i hdepth
        cases h
        exact ⟨hop, hdepth, rfl⟩
      · cases h
    · cases h
  · rintro ⟨hop, hdepth, rfl⟩
    simp only [step, hop, hdepth]

theorem depth_step {loops next : OpenLoops} {t : Token} (h : loops.step t = .ok next) :
    next.depth + closed [t.operator] = loops.depth + opened [t.operator] := by
  rcases step_eq_ok h with ⟨hop, hdepth, -⟩ | ⟨hop, hdepth, -⟩ | ⟨hopen, hclose, rfl⟩
  · rw [hop, hdepth]
    rfl
  · rw [hop, hdepth]
    rfl
  · rw [closed, opened, List.count_singleton, List.count_singleton]
    simp only [beq_iff_eq, hopen, hclose, if_false]

/-- A place is remembered whenever a loop is open. -/
def Remembers (loops : OpenLoops) : Prop :=
  loops.depth ≠ 0 → ∃ span, loops.outermost = some span

@[simp] theorem depth_start : start.depth = 0 := rfl

theorem remembers_start : start.Remembers :=
  fun h => absurd rfl h

theorem Remembers.step {loops next : OpenLoops} {t : Token} (hr : loops.Remembers)
    (h : loops.step t = .ok next) : next.Remembers := by
  intro hnext
  rcases step_eq_ok h with ⟨-, -, hplace⟩ | ⟨-, hdepth, hplace⟩ | ⟨-, -, rfl⟩
  · rw [hplace]
    split
    · exact ⟨t.span, rfl⟩
    · rename_i hdepth
      exact hr hdepth
  · rw [hplace]
    exact hr (by omega)
  · exact hr hnext

/-- The place decides nothing: at the end it is the depth that is tested. -/
theorem unclosed?_eq_none_iff {loops : OpenLoops} (hr : loops.Remembers) :
    loops.unclosed? = none ↔ loops.depth = 0 := by
  constructor
  · intro h
    refine Decidable.byContradiction fun hdepth => ?_
    obtain ⟨span, hspan⟩ := hr hdepth
    simp only [unclosed?, hspan, if_pos hdepth] at h
    cases h
  · intro h
    unfold unclosed?
    split
    · rw [if_neg (not_not_intro h)]
    · rfl

/-! ### A whole program -/

theorem scan_cons_ok {loops next : OpenLoops} {t : Token} (h : loops.step t = .ok next) (ts : List Token) :
    loops.scan (t :: ts) = next.scan ts := by
  rw [scan, h]

theorem scan_cons_error {loops : OpenLoops} {t : Token} {fault : Imbalance} (h : loops.step t = .error fault)
    (ts : List Token) : loops.scan (t :: ts) = .error fault := by
  rw [scan, h]

theorem depth_scan {loops last : OpenLoops} {ts : List Token} (h : loops.scan ts = .ok last) :
    last.depth + closed (Token.operators ts) = loops.depth + opened (Token.operators ts) := by
  induction ts generalizing loops with
  | nil =>
      cases h
      rfl
  | cons t ts ih =>
      cases hstep : loops.step t with
      | error fault => rw [scan_cons_error hstep] at h; cases h
      | ok next =>
          rw [scan_cons_ok hstep] at h
          have hrest := ih h
          have hhead := depth_step hstep
          rw [Token.operators_cons, ← List.singleton_append, closed_append, opened_append]
          omega

theorem Remembers.scan {loops last : OpenLoops} {ts : List Token} (hr : loops.Remembers)
    (h : loops.scan ts = .ok last) : last.Remembers := by
  induction ts generalizing loops with
  | nil =>
      cases h
      exact hr
  | cons t ts ih =>
      cases hstep : loops.step t with
      | error fault => rw [scan_cons_error hstep] at h; cases h
      | ok next =>
          rw [scan_cons_ok hstep] at h
          exact ih (hr.step hstep) h

/-- The pass gets to the end when no prefix closes more loops than it opens, those counted that were open
before. -/
theorem exists_scan_eq_ok_iff (loops : OpenLoops) (ts : List Token) :
    (∃ last, loops.scan ts = .ok last) ↔
      ∀ n, closed ((Token.operators ts).take n) ≤ loops.depth + opened ((Token.operators ts).take n) := by
  induction ts generalizing loops with
  | nil => simp [scan, closed]
  | cons t ts ih =>
      cases hstep : loops.step t with
      | error fault =>
          obtain ⟨hop, hdepth, -⟩ := step_eq_error_iff.mp hstep
          rw [scan_cons_error hstep]
          constructor
          · rintro ⟨last, h⟩
            cases h
          · intro h
            have hone := h 1
            rw [Token.operators_cons, List.take_succ_cons, List.take_zero, hop, hdepth] at hone
            exact absurd hone (by decide)
      | ok next =>
          have hhead := depth_step hstep
          rw [scan_cons_ok hstep, ih]
          constructor
          · intro h n
            cases n with
            | zero => exact Nat.zero_le _
            | succ n =>
                have hrest := h n
                rw [Token.operators_cons, List.take_succ_cons, ← List.singleton_append, closed_append,
                  opened_append]
                omega
          · intro h n
            have hall := h (n + 1)
            rw [Token.operators_cons, List.take_succ_cons, ← List.singleton_append, closed_append,
              opened_append] at hall
            omega

end OpenLoops

theorem imbalance?_eq_none_iff {tokens : List Token} :
    imbalance? tokens = none ↔ IsBalanced (Token.operators tokens) := by
  have hreach := OpenLoops.exists_scan_eq_ok_iff .start tokens
  simp only [OpenLoops.depth_start, Nat.zero_add] at hreach
  rw [imbalance?, IsBalanced, ← hreach]
  cases hscan : OpenLoops.start.scan tokens with
  | error fault =>
      constructor
      · intro h
        cases h
      · rintro ⟨⟨last, h⟩, -⟩
        cases h
  | ok last =>
      have hdepth := OpenLoops.depth_scan hscan
      have hr := OpenLoops.remembers_start.scan hscan
      rw [OpenLoops.depth_start] at hdepth
      show last.unclosed? = none ↔ _
      rw [OpenLoops.unclosed?_eq_none_iff hr]
      constructor
      · intro h
        exact ⟨⟨last, rfl⟩, by omega⟩
      · rintro ⟨-, h⟩
        omega

end TapeToJava
