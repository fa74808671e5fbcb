import TapeToJava.Text.Pieces

/-! Lines of a text: the pieces between its line feeds. No other character ends a line. -/

namespace TapeToJava.Text

/-- The pieces between the line feeds. -/
def lines (cs : List Char) : List (List Char) :=
  pieces '\n' cs

/-- A text without its trailing run of carriage returns. -/
def trimReturns (cs : List Char) : List Char :=
  (cs.reverse.dropWhile (· == '\r')).reverse

theorem length_lines (cs : List Char) : (lines cs).length = 1 + cs.count '\n' :=
  length_pieces '\n' cs

end TapeToJava.Text
