import Outline.Json.Key
import Outline.Json.Misfit
import Outline.Source.Span

/-!
# Spans between given points

Points that are handed in as values: pairs of a row and a column that may be of any kind. A point is
held against the lines by comparing; only what has passed is used as a number.
-/

namespace Outline

/-- How a number stands to a whole one; what is not a number stands nowhere. -/
def Double.orderTo (n : Int) : Double → Option Ordering
  | .nan               => none
  | .infinite negative => some (if negative then .lt else .gt)
  | number             => number.ratio?.map fun (num, den) => compare num (n * den)

/-- How a value stands to a whole number. -/
def Json.orderTo (n : Int) (value : Json) : Asked (Option Ordering) :=
  match value, value.whole? with
  | _, some m       => .ok (some (compare m n))
  | .real number, _ => .ok (number.orderTo n)
  | _, none         => .error (.noOrder "<" value.kindWord)

/-- Why there is no text between given points. -/
inductive GivenSpanError where
  | noRow (row : String) (count : Nat)
  | noColumn (column row : String) (length : Nat)
  | misfit (wrong : Misfit)
  deriving DecidableEq

/-- The wording of such an error. -/
def GivenSpanError.message : GivenSpanError → String
  | .noRow row count            => s!"row {row} outside source of {count} lines"
  | .noColumn column row length => s!"column {column} outside line {row} of length {length}"
  | .misfit wrong               => wrong.message

/-- The row of a given point, when the point lies inside the lines, with its column. -/
def Lines.locateGiven (lines : Lines) (row column : Json) :
    Except GivenSpanError (Nat × Json) := do
  let fromFirst ← (row.orderTo 0).mapError .misfit
  let fromLast ← (row.orderTo lines.size).mapError .misfit
  if fromFirst = some .lt || fromLast = some .eq || fromLast = some .gt then
    throw (.noRow row.shown lines.size)
  let fromStart ← (column.orderTo 0).mapError .misfit
  match row.whole? with
  | none        => throw (.misfit (.notIndex "list" row.kindWord))
  | some number =>
    let length := (lines.chars number.toNat).length
    let fromEnd ← (column.orderTo length).mapError .misfit
    if fromStart = some .lt || fromEnd = some .gt then
      throw (.noColumn column.shown row.shown length)
    return (number.toNat, column)

/-- The parts of a given point. -/
def pointParts (point : Json) : Asked (List Json) :=
  match point.parts? with
  | some parts => .ok parts
  | none       => .error (.noItems point.kindWord)

/-- The text from one given point to another; the first point is looked at first. -/
def Lines.givenSpanText (lines : Lines) (start stop : Json) : Except GivenSpanError String := do
  let startParts ← (pointParts start).mapError .misfit
  let stopParts ← (pointParts stop).mapError .misfit
  let start ← (Json.pairOf startParts).mapError .misfit
  let first ← lines.locateGiven start.1 start.2
  let stop ← (Json.pairOf stopParts).mapError .misfit
  let last ← lines.locateGiven stop.1 stop.2
  match first.2.whole?, last.2.whole? with
  | some column, some bound =>
    return String.ofList (lines.slice ⟨first.1, column.toNat⟩ ⟨last.1, bound.toNat⟩)
  | _, _ => throw (.misfit .notBound)

end Outline
