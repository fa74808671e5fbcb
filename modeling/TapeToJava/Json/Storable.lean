import TapeToJava.Json.Record

/-! Values that a reader can store. A record that spreads a part of its fields over its own members
stores every member before it sorts them out, so members of other names are not just passed over. -/

namespace TapeToJava.Json

/-- How many containers may be open around a stored value. -/
def maxDepth : Nat := 127

namespace Tree

mutual

/-- A value of which texts and numbers can be represented, and which opens at most `levels` containers
inside each other. -/
def isStorable (levels : Nat) : Tree → Bool
  | null => true
  | bool _ => true
  | number literal => ((Numeral.ofLiteral? literal).map Numeral.isFinite).getD false
  | string literal => (unescape literal).isSome
  | array vs => match levels with
    | 0 => false
    | n + 1 => itemsStorable n vs
  | object ms => match levels with
    | 0 => false
    | n + 1 => membersStorable n ms

def itemsStorable (levels : Nat) : List Tree → Bool
  | [] => true
  | v :: vs => isStorable levels v && itemsStorable levels vs

def membersStorable (levels : Nat) : List (List Char × Tree) → Bool
  | [] => true
  | (key, v) :: ms => (unescape key).isSome && isStorable levels v && membersStorable levels ms

end

/-- The members of an object with `depth` containers open around them, this one included, all of which
can be stored apart from the `own` fields. -/
def storedMembers? (depth : Nat) (own : List String) (t : Tree) : Option Members :=
  t.members?.filter fun ms =>
    ms.all fun m => own.any (fun name => name.toList == m.1) || m.2.isStorable (maxDepth - depth)

end Tree

end TapeToJava.Json
