import Outline.Source.Lines

/-!
# Spans of a source

A point is a row and a column in characters. The text of a span runs from one point to another, and
the lines it crosses are joined without a break. A point outside the lines is refused; a column may
be just past the last character of its line.
-/

namespace Outline

/-- A place in a source: a row and a column, both counted from zero. -/
structure Point where
  row    : Int
  column : Int
  deriving DecidableEq, Inhabited

/-- A point that lies outside the lines, or that has no place in them because its row lies before
the first row of bytes or is no number of a row at all. -/
inductive SpanError where
  | noRow (row : Int) (count : Nat)
  | noColumn (column row : Int) (length : Nat)
  | noByteRow
  | hugeRow
  deriving DecidableEq

/-- The wording of a span error. -/
def SpanError.message : SpanError → String
  | .noRow row count            => s!"row {row} outside source of {count} lines"
  | .noColumn column row length => s!"column {column} outside line {row} of length {length}"
  | .noByteRow                  => "list index out of range"
  | .hugeRow                    => "cannot fit 'int' into an index-sized integer"

/-- A place known to lie inside the lines. -/
structure Place where
  row    : Nat
  column : Nat
  deriving DecidableEq

/-- The place of a point, or why it has none; the row is looked at before the column. -/
def Lines.locate (lines : Lines) (point : Point) : Except SpanError Place :=
  if point.row < 0 then .error (.noRow point.row lines.size)
  else match lines[point.row.toNat]? with
    | none      => .error (.noRow point.row lines.size)
    | some line =>
      if point.column < 0 || line.length < point.column then
        .error (.noColumn point.column point.row line.length)
      else .ok ⟨point.row.toNat, point.column.toNat⟩

/-- The characters of a row, none when there is no such row. -/
def Lines.chars (lines : Lines) (row : Nat) : List Char :=
  (lines.getD row "").toList

/-- The characters between two places. In one row an end before the start leaves nothing; an end in
an earlier row leaves the rest of the first row and the beginning of the other. -/
def Lines.slice (lines : Lines) (start stop : Place) : List Char :=
  if start.row = stop.row then
    ((lines.chars start.row).take stop.column).drop start.column
  else
    (lines.chars start.row).drop start.column
      ++ (lines.extract (start.row + 1) stop.row).toList.flatMap String.toList
      ++ (lines.chars stop.row).take stop.column

/-- The text from one point to another; the first point is looked at first. -/
def Lines.spanText (lines : Lines) (start stop : Point) : Except SpanError String := do
  let first ← lines.locate start
  let last ← lines.locate stop
  return String.ofList (lines.slice first last)

end Outline
