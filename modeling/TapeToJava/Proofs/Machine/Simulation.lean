import TapeToJava.Machine.Structured
import TapeToJava.Proofs.Machine.Jump

/-! The two runs of a program end in the same ways. A run that stands in front of the items of a block ends
as the run of the items does, when that breaks off, and otherwise as it goes on behind them; for a loop this
is seen by following its jumps. Hence the body of an accepted program, read as a block, ends exactly as the
program itself does. -/

namespace TapeToJava.Machine

open Java (Item)

/-- How a run ends that has come to an outcome and goes on from its state unless a fault has broken it
off. -/
def Outcome.AndThen (o : Outcome) (next : State → Outcome → Prop) (last : Outcome) : Prop :=
  match o.fault with
  | some _ => last = o
  | none => next o.state last

theorem Outcome.AndThen.imp {o last : Outcome} {p q : State → Outcome → Prop} (h : o.AndThen p last)
    (hpq : p o.state last → q o.state last) : o.AndThen q last := by
  obtain ⟨s, fault⟩ := o
  cases fault with
  | none => exact hpq h
  | some fault => exact h

/-! ### The structured run -/

namespace Structured

/-- The run of items from a state ends in this way. -/
def EndsFrom (items : List Item) (s : State) (o : Outcome) : Prop :=
  ∃ fuel, runFor fuel items s = some o

theorem runFor_succ_of_eq_some {fuel : Nat} {items : List Item} {s : State} {o : Outcome}
    (h : runFor fuel items s = some o) : runFor (fuel + 1) items s = some o := by
  induction fuel generalizing items s o with
  | zero => cases items <;> cases h
  | succ fuel ih =>
      match items with
      | [] => exact h
      | .action a :: rest =>
          rw [runFor] at h ⊢
          cases hp : s.perform a with
          | mk s' fault =>
              rw [hp] at h
              cases fault with
              | some fault => exact h
              | none => exact ih h
      | .loop body :: rest =>
          rw [runFor] at h ⊢
          cases hc : s.cell? with
          | error fault => rw [hc] at h; exact h
          | ok n =>
              rw [hc] at h
              by_cases hn : n = 0
              · simp only [hn, if_true] at h ⊢
                exact ih h
              · simp only [hn, if_false] at h ⊢
                cases hb : runFor fuel body s with
                | none => rw [hb] at h; cases h
                | some mid =>
                    rw [hb] at h
                    rw [ih hb]
                    obtain ⟨s', fault⟩ := mid
                    cases fault with
                    | some fault => exact h
                    | none => exact ih h

theorem runFor_mono {fuel more : Nat} {items : List Item} {s : State} {o : Outcome}
    (h : runFor fuel items s = some o) (hle : fuel ≤ more) : runFor more items s = some o := by
  obtain ⟨extra, rfl⟩ := Nat.exists_eq_add_of_le hle
  clear hle
  induction extra with
  | zero => exact h
  | succ extra ih => exact runFor_succ_of_eq_some ih

theorem EndsFrom.unique {items : List Item} {s : State} {o o' : Outcome} (h : EndsFrom items s o)
    (h' : EndsFrom items s o') : o = o' := by
  obtain ⟨fuel, h⟩ := h
  obtain ⟨fuel', h'⟩ := h'
  have hmax := runFor_mono h (Nat.le_max_left fuel fuel')
  have hmax' := runFor_mono h' (Nat.le_max_right fuel fuel')
  exact Option.some.inj (hmax.symm.trans hmax')

theorem endsFrom_nil (s : State) : EndsFrom [] s ⟨s, none⟩ :=
  ⟨1, rfl⟩

theorem endsFrom_action {a : Action} {rest : List Item} {s s' : State} {fault : Option Fault} {o : Outcome}
    (hp : s.perform a = (s', fault)) (h : (Outcome.mk s' fault).AndThen (EndsFrom rest) o) :
    EndsFrom (.action a :: rest) s o := by
  cases fault with
  | some fault => exact ⟨1, by rw [runFor, hp, h]⟩
  | none =>
      obtain ⟨fuel, h⟩ := h
      exact ⟨fuel + 1, by rw [runFor, hp]; exact h⟩

theorem endsFrom_loop_fault {body rest : List Item} {s : State} {fault : Fault} (hc : s.cell? = .error fault) :
    EndsFrom (.loop body :: rest) s ⟨s, some fault⟩ :=
  ⟨1, by rw [runFor, hc]⟩

theorem endsFrom_loop_zero {body rest : List Item} {s : State} {o : Outcome} (hc : s.cell? = .ok 0)
    (h : EndsFrom rest s o) : EndsFrom (.loop body :: rest) s o := by
  obtain ⟨fuel, h⟩ := h
  exact ⟨fuel + 1, by rw [runFor, hc]; exact h⟩

/-- A loop runs its body and is then in front again. -/
theorem endsFrom_loop_again {body rest : List Item} {s : State} {n : Int8} {mid o : Outcome}
    (hc : s.cell? = .ok n) (hn : n ≠ 0) (hbody : EndsFrom body s mid)
    (h : mid.AndThen (EndsFrom (.loop body :: rest)) o) : EndsFrom (.loop body :: rest) s o := by
  obtain ⟨fuel, hbody⟩ := hbody
  obtain ⟨s', fault⟩ := mid
  cases fault with
  | some fault =>
      refine ⟨fuel + 1, ?_⟩
      rw [runFor, hc]
      simp only [if_neg hn, hbody]
      rw [show o = ⟨s', some fault⟩ from h]
  | none =>
      obtain ⟨fuel', h⟩ := h
      refine ⟨max fuel fuel' + 1, ?_⟩
      rw [runFor, hc]
      simp only [if_neg hn, runFor_mono hbody (Nat.le_max_left fuel fuel')]
      exact runFor_mono h (Nat.le_max_right fuel fuel')

end Structured

/-! ### The direct run -/

namespace Direct

/-- The run from a place and a state ends in this way. -/
def EndsFrom (ops : List Operator) (c : Config) (o : Outcome) : Prop :=
  ∃ n, runFor ops n c = some o

variable {ops : List Operator} {place : Nat} {s : State}

theorem EndsFrom.of_step {c next : Config} {o : Outcome} (hstep : step ops c = .inl next)
    (h : EndsFrom ops next o) : EndsFrom ops c o := by
  obtain ⟨n, h⟩ := h
  exact ⟨n + 1, by rw [runFor, hstep]; exact h⟩

theorem EndsFrom.of_step_end {c : Config} {o : Outcome} (hstep : step ops c = .inr o) : EndsFrom ops c o :=
  ⟨1, by rw [runFor, hstep]⟩

/-- Behind a step that goes on, a run that ends does so in fewer steps. -/
theorem runFor_of_step {n : Nat} {c next : Config} {o : Outcome} (hstep : step ops c = .inl next)
    (h : runFor ops n c = some o) : ∃ m, m < n ∧ runFor ops m next = some o := by
  cases n with
  | zero => cases h
  | succ n =>
      rw [runFor, hstep] at h
      exact ⟨n, Nat.lt_succ_self n, h⟩

theorem eq_of_step_end {n : Nat} {c : Config} {o o' : Outcome} (hstep : step ops c = .inr o')
    (h : runFor ops n c = some o) : o = o' := by
  cases n with
  | zero => cases h
  | succ n =>
      rw [runFor, hstep] at h
      exact (Option.some.inj h).symm

theorem step_end (h : ops.length ≤ place) : step ops ⟨place, s⟩ = .inr ⟨s, none⟩ := by
  rw [step, List.getElem?_eq_none h]

theorem step_action {a : Action} {rest : List Operator} (h : Placed ops place (a.operator :: rest)) :
    step ops ⟨place, s⟩ =
      match s.perform a with
      | (s', some fault) => .inr ⟨s', some fault⟩
      | (s', none) => .inl ⟨place + 1, s'⟩ := by
  rw [step, h.getElem?_head]
  cases a <;> rfl

section Loop

variable {body : List Item} {rest : List Operator}
  (h : Placed ops place (.loopOpen :: (Item.operators body ++ .loopClose :: rest)))
include h

theorem step_loopOpen_fault {fault : Fault} (hc : s.cell? = .error fault) :
    step ops ⟨place, s⟩ = .inr ⟨s, some fault⟩ := by
  simp only [step, h.getElem?_head, hc]

theorem step_loopOpen_zero (hc : s.cell? = .ok 0) :
    step ops ⟨place, s⟩ = .inl ⟨place + (Item.operators body).length + 2, s⟩ := by
  simp only [step, h.getElem?_head, hc, if_true, h.behindClose_eq]

theorem step_loopOpen_enter {n : Int8} (hc : s.cell? = .ok n) (hn : n ≠ 0) :
    step ops ⟨place, s⟩ = .inl ⟨place + 1, s⟩ := by
  simp only [step, h.getElem?_head, hc, if_neg hn]

theorem step_loopClose :
    step ops ⟨place + 1 + (Item.operators body).length, s⟩ = .inl ⟨place, s⟩ := by
  simp only [step, h.tail.right.getElem?_head, h.atOpen_eq]

theorem placed_behind : Placed ops (place + (Item.operators body).length + 2) rest := by
  have hrest := h.tail.right.tail
  rwa [show place + 1 + (Item.operators body).length + 1 = place + (Item.operators body).length + 2 by omega]
    at hrest

end Loop

end Direct

/-! ### From one run to the other -/

open Direct (Placed)

theorem placed_loop {ops : List Operator} {place : Nat} {body rest : List Item}
    (h : Placed ops place (Item.operators (.loop body :: rest))) :
    Placed ops place (.loopOpen :: (Item.operators body ++ .loopClose :: Item.operators rest)) := by
  rwa [Item.operators] at h

theorem length_operators_loop (body rest : List Item) (place : Nat) :
    place + (Item.operators (.loop body :: rest)).length =
      place + (Item.operators body).length + 2 + (Item.operators rest).length := by
  rw [Item.operators, List.length_cons, List.length_append, List.length_cons]
  omega

/-- The induction is on the fuel, and the loop is the case that needs it: behind its body a loop stands in
front again with less fuel. -/
theorem Direct.endsFrom_of_runFor {ops : List Operator} {fuel place : Nat} {items : List Item} {s : State}
    {mid last : Outcome} (hplaced : Placed ops place (Item.operators items))
    (hmid : Structured.runFor fuel items s = some mid)
    (hlast : mid.AndThen (fun s' => EndsFrom ops ⟨place + (Item.operators items).length, s'⟩) last) :
    EndsFrom ops ⟨place, s⟩ last := by
  induction fuel generalizing place items s mid with
  | zero => cases items <;> cases hmid
  | succ fuel ih =>
      match items with
      | [] =>
          cases hmid
          rwa [Item.operators] at hlast
      | .action a :: rest =>
          rw [Item.operators] at hplaced hlast
          have hstep := step_action (s := s) hplaced
          rw [Structured.runFor] at hmid
          cases hp : s.perform a with
          | mk s' fault =>
              rw [hp] at hmid hstep
              cases fault with
              | some fault =>
                  cases hmid
                  cases hlast
                  exact .of_step_end hstep
              | none =>
                  refine .of_step hstep (ih hplaced.tail hmid ?_)
                  rwa [List.length_cons, ← Nat.add_assoc, Nat.add_right_comm] at hlast
      | .loop body :: rest =>
          have hloop := placed_loop hplaced
          have hbody := hloop.tail.left
          rw [length_operators_loop] at hlast
          rw [Structured.runFor] at hmid
          cases hc : s.cell? with
          | error fault =>
              rw [hc] at hmid
              cases hmid
              cases hlast
              exact .of_step_end (step_loopOpen_fault hloop hc)
          | ok n =>
              rw [hc] at hmid
              by_cases hn : n = 0
              · subst hn
                exact .of_step (step_loopOpen_zero hloop hc) (ih (placed_behind hloop) hmid hlast)
              · simp only [if_neg hn] at hmid
                refine .of_step (step_loopOpen_enter hloop hc hn) ?_
                cases hrun : Structured.runFor fuel body s with
                | none => rw [hrun] at hmid; cases hmid
                | some first =>
                    rw [hrun] at hmid
                    refine ih hbody hrun ?_
                    obtain ⟨s', fault⟩ := first
                    cases fault with
                    | some fault =>
                        cases hmid
                        exact hlast
                    | none =>
                        refine .of_step (step_loopClose hloop) (ih hplaced hmid ?_)
                        rwa [length_operators_loop]

/-- The induction is on the number of steps. What comes behind the items takes at most as many steps, and so
a loop that stands in front again has fewer left. -/
theorem Direct.exists_endsFrom_of_runFor {ops : List Operator} {n place : Nat} {items : List Item} {s : State}
    {last : Outcome} (hplaced : Placed ops place (Item.operators items))
    (hlast : runFor ops n ⟨place, s⟩ = some last) :
    ∃ mid, Structured.EndsFrom items s mid ∧
      mid.AndThen (fun s' o => ∃ m, m ≤ n ∧
        runFor ops m ⟨place + (Item.operators items).length, s'⟩ = some o) last := by
  induction n using Nat.strongRecOn generalizing place items s last with
  | ind n ih =>
      match items with
      | [] =>
          refine ⟨⟨s, none⟩, Structured.endsFrom_nil s, n, Nat.le_refl n, ?_⟩
          rwa [Item.operators]
      | .action a :: rest =>
          rw [Item.operators] at hplaced ⊢
          have hstep := step_action (s := s) hplaced
          cases hp : s.perform a with
          | mk s' fault =>
              rw [hp] at hstep
              cases fault with
              | some fault =>
                  exact ⟨_, Structured.endsFrom_action hp rfl, eq_of_step_end hstep hlast⟩
              | none =>
                  obtain ⟨m, hm, hrun⟩ := runFor_of_step hstep hlast
                  obtain ⟨mid, hmid, hthen⟩ := ih m hm hplaced.tail hrun
                  refine ⟨mid, Structured.endsFrom_action hp hmid, hthen.imp ?_⟩
                  rintro ⟨k, hk, hrest⟩
                  refine ⟨k, by omega, ?_⟩
                  rwa [List.length_cons, ← Nat.add_assoc, Nat.add_right_comm]
      | .loop body :: rest =>
          have hloop := placed_loop hplaced
          cases hc : s.cell? with
          | error fault =>
              exact ⟨_, Structured.endsFrom_loop_fault hc,
                eq_of_step_end (step_loopOpen_fault hloop hc) hlast⟩
          | ok value =>
              by_cases hvalue : value = 0
              · subst hvalue
                obtain ⟨m, hm, hrun⟩ := runFor_of_step (step_loopOpen_zero hloop hc) hlast
                obtain ⟨mid, hmid, hthen⟩ := ih m hm (placed_behind hloop) hrun
                refine ⟨mid, Structured.endsFrom_loop_zero hc hmid, hthen.imp ?_⟩
                rintro ⟨k, hk, hrest⟩
                rw [length_operators_loop]
                exact ⟨k, by omega, hrest⟩
              · obtain ⟨m, hm, hrun⟩ := runFor_of_step (step_loopOpen_enter hloop hc hvalue) hlast
                obtain ⟨first, hfirst, hthen⟩ := ih m hm hloop.tail.left hrun
                obtain ⟨s', fault⟩ := first
                cases fault with
                | some fault => exact ⟨_, Structured.endsFrom_loop_again hc hvalue hfirst rfl, hthen⟩
                | none =>
                    obtain ⟨k, hk, hclose⟩ := hthen
                    obtain ⟨j, hj, hagain⟩ := runFor_of_step (step_loopClose hloop) hclose
                    obtain ⟨mid, hmid, hthen⟩ := ih j (by omega) hplaced hagain
                    refine ⟨mid, Structured.endsFrom_loop_again hc hvalue hfirst hmid, hthen.imp ?_⟩
                    rintro ⟨i, hi, hrest⟩
                    exact ⟨i, by omega, hrest⟩

/-- A block ends exactly as its operators do. -/
theorem Direct.endsFrom_operators_iff {items : List Item} {s : State} {o : Outcome} :
    EndsFrom (Item.operators items) ⟨0, s⟩ o ↔ Structured.EndsFrom items s o := by
  have hplaced := Placed.whole (Item.operators items)
  have hend (s' : State) : step (Item.operators items) ⟨0 + (Item.operators items).length, s'⟩ =
      .inr ⟨s', none⟩ := step_end (by omega)
  constructor
  · rintro ⟨n, h⟩
    obtain ⟨⟨s', fault⟩, hmid, hthen⟩ := exists_endsFrom_of_runFor hplaced h
    cases fault with
    | some fault => rwa [show o = ⟨s', some fault⟩ from hthen]
    | none =>
        obtain ⟨m, -, hrest⟩ := hthen
        rwa [eq_of_step_end (hend s') hrest]
  · rintro ⟨fuel, h⟩
    refine endsFrom_of_runFor hplaced h ?_
    obtain ⟨s', fault⟩ := o
    cases fault with
    | some fault => rfl
    | none => exact .of_step_end (hend s')

/-- A block and a program end in the same ways on every input: the one ends when the other does, and then
with the same state, output and fault. -/
def SameEnds (block : List Item) (ops : List Operator) : Prop :=
  ∀ input,
    ((∃ o, Structured.Ends block input o) ↔ ∃ o, Direct.Ends ops input o) ∧
    ∀ o o', Structured.Ends block input o → Direct.Ends ops input o' → o = o'

theorem sameEnds_operators (block : List Item) : SameEnds block (Item.operators block) := by
  intro input
  have hiff (o : Outcome) : Direct.Ends (Item.operators block) input o ↔ Structured.Ends block input o :=
    Direct.endsFrom_operators_iff
  refine ⟨exists_congr fun o => (hiff o).symm, ?_⟩
  intro o o' ho ho'
  exact Structured.EndsFrom.unique ho ((hiff o').mp ho')

/-- The body of an accepted program spells a block, from its first line to its last, and the block ends in
the same ways as the program. -/
theorem exists_block_sameEnds {tokens : List Token} {body : Java.Body}
    (h : Java.Body.ofTokens tokens = .ok body) :
    ∃ block, Java.block? body.text.toList = some block ∧ SameEnds block (tokens.map (·.operator)) := by
  obtain ⟨hbalanced, rfl⟩ := Java.Body.ofTokens_eq_ok_iff.mp h
  obtain ⟨block, hblock, hops⟩ := Java.exists_block?_render hbalanced
  refine ⟨block, by rw [String.toList_ofList, hblock], ?_⟩
  rw [← Token.operators, ← hops]
  exact sameEnds_operators block

theorem exists_block_sameEnds_nested :
    ∃ body block, Java.Body.ofTokens (Token.ofNormalized "+[>[-]<-].") = .ok body ∧
      Java.block? body.text.toList = some block ∧
      SameEnds block ((Token.ofNormalized "+[>[-]<-].").map (·.operator)) := by
  have h : Java.Body.ofTokens (Token.ofNormalized "+[>[-]<-].") = .ok
      ⟨"mem[ptr]++;\nwhile(mem[ptr] != 0) \x7b\nptr++;\nwhile(mem[ptr] != 0) \x7b\nmem[ptr]--;\n\x7d\nptr--;\n" ++
        "mem[ptr]--;\n\x7d\nSystem.out.print(mem[ptr]);\n", 10⟩ := by cbv
  obtain ⟨block, hblock, hends⟩ := exists_block_sameEnds h
  exact ⟨_, block, h, hblock, hends⟩

end TapeToJava.Machine
