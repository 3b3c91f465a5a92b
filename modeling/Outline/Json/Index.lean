import Outline.Json.Misfit

/-!
# Values as indices

A number leads to a place in a row; one below zero counts from the end.
-/

namespace Outline

/-- Why a value leads to no place in a row, which is a list or a tuple. -/
inductive IndexError where
  | outside (row : String)
  | beyondWord
  | misfit (wrong : Misfit)
  deriving DecidableEq

/-- The wording of an index error. -/
def IndexError.message : IndexError → String
  | .outside row  => s!"{row} index out of range"
  | .beyondWord   => "cannot fit 'int' into an index-sized integer"
  | .misfit wrong => wrong.message

/-- Whether a number fits a word of 64 bits. -/
def fitsWord (n : Int) : Bool :=
  -(Nat.pow 2 63 : Int) ≤ n && n < (Nat.pow 2 63 : Int)

/-- The place that a number leads to in a row of some size. -/
def placeIn (row : String) (size : Nat) (n : Int) : Except IndexError Nat :=
  let place := if n < 0 then size + n else n
  if !fitsWord n then .error .beyondWord
  else if place < 0 || size ≤ place then .error (.outside row)
  else .ok place.toNat

/-- The place that a value leads to in a row of some size. -/
def Json.placeIn (row : String) (size : Nat) (value : Json) : Except IndexError Nat :=
  match value.whole? with
  | some n => Outline.placeIn row size n
  | none   => .error (.misfit (.notIndex row value.kindWord))

end Outline
