import Outline.Source.Span
import Outline.Text.Utf8

/-!
# Columns in bytes and in characters

A grammar reads the UTF-8 bytes of a text and counts columns in bytes of a row. Slices of the source
count characters. In an all-ASCII beginning of a row the two are the same; otherwise the column is
the number of characters that the bytes before it are read as, where a character that is cut apart
counts as one. Rows and columns below zero count from the end.
-/

namespace Outline

/-- The bytes of a text, cut at line feeds. A carriage return stays in its row. -/
def byteRows (text : String) : Array (List UInt8) :=
  (cutAt 10 (Text.Utf8.encode text)).toArray

/-- The bytes of a row before a column; a column below zero counts from the end of the row. -/
def bytesBefore (row : List UInt8) (column : Int) : List UInt8 :=
  row.take (if column < 0 then (row.length + column).toNat else column.toNat)

/-- The column in characters of a column in bytes. After an ASCII beginning of its row a column
stays where it is, even past the end; after any other it is the number of characters that the
beginning is read as, with a replacement character for each fault. -/
def charColumn (row : List UInt8) (column : Int) : Int :=
  let before := bytesBefore row column
  if before.all (· < 0x80) then column
  else (Text.Utf8.decodeReplacing before).length

/-- The bytes of a row that is not past the last; a row below zero counts from the last. -/
def byteRow (rows : Array (List UInt8)) (row : Int) : Except SpanError (List UInt8) :=
  if row < -(Nat.pow 2 63 : Int) then .error .hugeRow
  else
    let index := if row < 0 then rows.size + row else row
    if index < 0 then .error .noByteRow else .ok (rows.getD index.toNat [])

/-- The point in characters of a point in bytes. A point past the last row stays where it is, and
the row of a point never changes. -/
def charPoint (rows : Array (List UInt8)) (point : Point) : Except SpanError Point :=
  if rows.size ≤ point.row then .ok point
  else do
    let row ← byteRow rows point.row
    return { point with column := charColumn row point.column }

end Outline
