import TapeToJava.Machine.Direct
import TapeToJava.Proofs.Java.Block

/-! Jumps in a program that is made of blocks. Items stand somewhere in a program when their operators do;
the search for a partner gets across whole items without stopping, in both directions, and so finds the
bracket at the other end of the loop. -/

namespace TapeToJava.Machine.Direct

open Java (Item)

/-! ### Searching across items -/

theorem toClose_action (a : Action) (depth : Nat) (ops : List Operator) :
    toClose depth (a.operator :: ops) = (toClose depth ops).map (· + 1) := by
  cases a <;> cases depth <;> rfl

theorem toOpen_action (a : Action) (depth : Nat) (ops : List Operator) :
    toOpen depth (a.operator :: ops) = (toOpen depth ops).map (· + 1) := by
  cases a <;> cases depth <;> rfl

theorem toClose_loopOpen (depth : Nat) (ops : List Operator) :
    toClose depth (.loopOpen :: ops) = (toClose (depth + 1) ops).map (· + 1) := by
  cases depth <;> rfl

theorem toOpen_loopClose (depth : Nat) (ops : List Operator) :
    toOpen depth (.loopClose :: ops) = (toOpen (depth + 1) ops).map (· + 1) := by
  cases depth <;> rfl

theorem toClose_operators (items : List Item) (depth : Nat) (rest : List Operator) :
    toClose depth (Item.operators items ++ rest) =
      (toClose depth rest).map (· + (Item.operators items).length) := by
  induction items using Item.induction generalizing depth rest with
  | nil => simp [Item.operators]
  | action a items ih =>
      rw [Item.operators, List.cons_append, toClose_action, ih, Option.map_map]
      rfl
  | loop body items ihBody ih =>
      rw [Item.operators, List.cons_append, List.append_assoc, List.cons_append, toClose_loopOpen, ihBody,
        toClose, ih]
      simp only [Option.map_map, List.length_cons, List.length_append]
      congr 1
      funext n
      simp only [Function.comp_apply]
      omega

theorem toOpen_operators (items : List Item) (depth : Nat) (rest : List Operator) :
    toOpen depth ((Item.operators items).reverse ++ rest) =
      (toOpen depth rest).map (· + (Item.operators items).length) := by
  induction items using Item.induction generalizing depth rest with
  | nil => simp [Item.operators]
  | action a items ih =>
      rw [Item.operators, List.reverse_cons, List.append_assoc, List.singleton_append, ih, toOpen_action,
        Option.map_map]
      congr 1
      funext n
      simp only [Function.comp_apply, List.length_cons]
      omega
  | loop body items ihBody ih =>
      rw [Item.operators, List.reverse_cons, List.reverse_append, List.reverse_cons]
      simp only [List.append_assoc, List.singleton_append]
      rw [ih, List.cons_append, toOpen_loopClose, ihBody, toOpen]
      simp only [Option.map_map, List.length_cons, List.length_append]
      congr 1
      funext n
      simp only [Function.comp_apply]
      omega

/-! ### Places -/

/-- Operators stand at a place of a program. -/
def Placed (ops : List Operator) (place : Nat) (segment : List Operator) : Prop :=
  ∃ before behind, ops = before ++ (segment ++ behind) ∧ before.length = place

namespace Placed

variable {ops segment : List Operator} {place : Nat}

theorem whole (ops : List Operator) : Placed ops 0 ops :=
  ⟨[], [], by rw [List.append_nil, List.nil_append], rfl⟩

theorem left {as bs : List Operator} (h : Placed ops place (as ++ bs)) : Placed ops place as := by
  obtain ⟨before, behind, rfl, hplace⟩ := h
  exact ⟨before, bs ++ behind, by rw [List.append_assoc], hplace⟩

theorem right {as bs : List Operator} (h : Placed ops place (as ++ bs)) :
    Placed ops (place + as.length) bs := by
  obtain ⟨before, behind, rfl, hplace⟩ := h
  refine ⟨before ++ as, behind, by simp only [List.append_assoc], ?_⟩
  rw [List.length_append, hplace]

theorem tail {op : Operator} (h : Placed ops place (op :: segment)) : Placed ops (place + 1) segment :=
  right (show Placed ops place ([op] ++ segment) from h)

theorem getElem?_head {op : Operator} (h : Placed ops place (op :: segment)) : ops[place]? = some op := by
  obtain ⟨before, behind, rfl, rfl⟩ := h
  rw [List.getElem?_append_right (Nat.le_refl _), Nat.sub_self]
  rfl

theorem behindClose_eq {body : List Item}
    (h : Placed ops place (.loopOpen :: (Item.operators body ++ .loopClose :: segment))) :
    behindClose ops place = some (place + (Item.operators body).length + 2) := by
  obtain ⟨before, behind, rfl, rfl⟩ := h
  have hdrop : (before ++ (.loopOpen :: (Item.operators body ++ .loopClose :: segment) ++ behind)).drop
      (before.length + 1) = Item.operators body ++ .loopClose :: (segment ++ behind) := by
    rw [← List.drop_drop, List.drop_left]
    simp
  rw [behindClose, hdrop, toClose_operators, toClose, Option.map_some, Option.map_some]
  congr 1
  omega

theorem atOpen_eq {body : List Item}
    (h : Placed ops place (.loopOpen :: (Item.operators body ++ .loopClose :: segment))) :
    atOpen ops (place + 1 + (Item.operators body).length) = some place := by
  obtain ⟨before, behind, rfl, rfl⟩ := h
  have htake : (before ++ (.loopOpen :: (Item.operators body ++ .loopClose :: segment) ++ behind)).take
      (before.length + 1 + (Item.operators body).length) =
        before ++ .loopOpen :: Item.operators body := by
    rw [Nat.add_assoc, List.take_length_add_append, Nat.add_comm 1]
    simp
  rw [atOpen, htake, List.reverse_append, List.reverse_cons, List.append_assoc, toOpen_operators,
    List.singleton_append, toOpen, Option.map_some, Option.map_some]
  congr 1
  omega

end Placed

end TapeToJava.Machine.Direct
