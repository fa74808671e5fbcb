import TapeToJava.Text.Pieces

/-! Paths as texts. Their pieces stand between the slashes; empty pieces and single dots name nothing,
except that a dot in front of a relative path stands for the current directory. -/

namespace TapeToJava.Path

/-- The pieces of a path, the last one first, from the last piece that names something. The first piece
of the path is always kept; it is empty when the path is empty or absolute. -/
def dropIdle : List (List Char) → List (List Char)
  | [] => []
  | [first] => [first]
  | p :: ps => if p = [] ∨ p = ['.'] then dropIdle ps else p :: ps

/-- The significant pieces of a path, the last one first. -/
def ascending (path : List Char) : List (List Char) :=
  dropIdle (Text.pieces '/' path).reverse

/-- The last piece of a path, if it is a name. -/
def fileName? (path : List Char) : Option (List Char) :=
  match ascending path with
  | [] => none
  | p :: _ => if p = [] ∨ p = ['.'] ∨ p = ['.', '.'] then none else some p

/-- The directory in which the last piece of a path lives; the current one for a single name. -/
def directory (path : List Char) : List Char :=
  match ascending path with
  | _ :: rest@(_ :: _) =>
    match dropIdle rest with
    | [[]] => ['/']
    | ps => Text.joined '/' ps.reverse
  | _ => ['.']

/-- The name of a file up to its first dot; empty when the path has no file name. -/
def stem (path : List Char) : List Char :=
  ((fileName? path).getD []).takeWhile (· != '.')

theorem dot_not_mem_stem (path : List Char) : '.' ∉ stem path := by
  intro h
  have := List.all_eq_true.mp List.all_takeWhile _ h
  simp at this

end TapeToJava.Path
