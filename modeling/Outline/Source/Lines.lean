/-!
# Lines of a source text

A text is cut into lines at line feeds and nowhere else, which is how a grammar numbers its rows.
One carriage return before a line feed, or at the end of the text, belongs to the break and is
dropped.
-/

namespace Outline

/-- Cuts a list at each element equal to `mark`, which is in none of the pieces; `piece` holds, last
first, what stands before the list in its first piece. -/
def cutAtFrom {α : Type} [DecidableEq α] (mark : α) (piece : List α) : List α → List (List α)
  | []      => [piece.reverse]
  | a :: as =>
    if a = mark then piece.reverse :: cutAtFrom mark [] as else cutAtFrom mark (a :: piece) as

/-- Cuts a list at each element equal to `mark`; there is one piece more than there are marks. -/
def cutAt {α : Type} [DecidableEq α] (mark : α) (as : List α) : List (List α) :=
  cutAtFrom mark [] as

/-- Drops one carriage return at the end. -/
def dropReturn (line : List Char) : List Char :=
  if line.getLast? = some '\r' then line.dropLast else line

/-- The lines of a source, in order. -/
abbrev Lines := Array String

/-- The lines of a text. -/
def splitLines (text : String) : Lines :=
  ((cutAt '\n' text.toList).map fun line => String.ofList (dropReturn line)).toArray

end Outline
