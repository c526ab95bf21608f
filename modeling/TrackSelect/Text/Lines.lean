/-!
# Lines

A text cut at line feeds. `pieces` is the plain cut, with an empty last piece after a final line
feed; `lines` are the pieces without that empty one, each without the carriage return that stood
before its line feed.
-/

namespace TrackSelect.Text

/-- The pieces of a text between its line feeds: one more than there are line feeds. -/
def pieces (cs : List Char) : List (List Char) := cs.splitOn '\n'

/-- A line without the carriage return it ends in, if it does. -/
def dropReturn (cs : List Char) : List Char :=
  if cs.getLast? = some '\r' then cs.dropLast else cs

/-- The lines among the pieces of a text: the last piece has no line feed behind it, so it keeps
a carriage return, and it is no line when it is empty. -/
def linesOfPieces : List (List Char) → List (List Char)
  | [] => []
  | [last] => if last = [] then [] else [last]
  | piece :: rest => dropReturn piece :: linesOfPieces rest

/-- The lines of a text. -/
def lines (cs : List Char) : List (List Char) := linesOfPieces (pieces cs)

@[simp] theorem lines_nil : lines [] = [] := rfl

theorem pieces_ne_nil (cs : List Char) : pieces cs ≠ [] := List.splitOn_ne_nil _ _

end TrackSelect.Text
