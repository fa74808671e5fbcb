/-! Sets of characters that are given by the code points at which membership changes. -/

namespace TapeToJava.Text

/-- A set of characters: membership starts at the first switch, stops at the second, and so on. -/
structure CharSet where
  /-- The code points at which membership changes, in ascending order. -/
  switches : List Nat

namespace CharSet

/-- A character belongs to the set when an odd number of switches lie at or below it. -/
def contains (s : CharSet) (c : Char) : Bool :=
  s.switches.countP (· ≤ c.toNat) % 2 == 1

end CharSet

end TapeToJava.Text
