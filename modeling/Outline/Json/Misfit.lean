import Outline.Json.Literal

/-!
# Values of the wrong kind

Values from outside may be of another kind than the one that is wanted. What is wrong with them
shows where they are used, in the words of that use.
-/

namespace Outline

/-- What is wrong with a value of a kind that a use of it does not allow. -/
inductive Misfit where
  | lacks (kind member : String)
  | noLength (kind : String)
  | noDifference (kind : String)
  | noOrder (sign kind : String)
  | noItems (kind : String)
  | noParts (kind : String)
  | fewParts (count : Nat)
  | manyParts
  | noKey (kind : String)
  | noCall (kind : String)
  | noPlaces (kind : String)
  | notPath (kind : String)
  | notPattern (kind : String)
  | notEncoding (kind : String)
  | notTimes (kind : String)
  | noDoubling (kind : String)
  | noMembers (kind : String)
  | notSought (kind : String)
  | notJoined (index : Nat) (kind : String)
  | notIndex (row kind : String)
  | notBound
  | notAttribute (kind : String)
  | notTitle (kind : String)
  deriving DecidableEq

/-- The wording of a misfit. -/
def Misfit.message : Misfit → String
  | .lacks kind member => s!"'{kind}' object has no attribute '{member}'"
  | .noLength kind     => s!"object of type '{kind}' has no len()"
  | .noDifference kind => s!"unsupported operand type(s) for -: '{kind}' and 'int'"
  | .noOrder sign kind => s!"'{sign}' not supported between instances of '{kind}' and 'int'"
  | .noItems kind      => s!"'{kind}' object is not iterable"
  | .noParts kind      => s!"cannot unpack non-iterable {kind} object"
  | .fewParts count    => s!"not enough values to unpack (expected 2, got {count})"
  | .manyParts         => "too many values to unpack (expected 2)"
  | .noKey kind        => s!"unhashable type: '{kind}'"
  | .noCall kind       => s!"'{kind}' object is not callable"
  | .noPlaces kind     => s!"'{kind}' object is not subscriptable"
  | .notPath kind      => s!"expected str, bytes or os.PathLike object, not {kind}"
  | .notPattern kind   => s!"expected string or bytes-like object, got '{kind}'"
  | .notEncoding kind  => s!"open() argument 'encoding' must be str or None, not {kind}"
  | .notTimes kind     => s!"can't multiply sequence by non-int of type '{kind}'"
  | .noDoubling kind   => s!"unsupported operand type(s) for *: '{kind}' and 'int'"
  | .noMembers kind    => s!"argument of type '{kind}' is not iterable"
  | .notSought kind    => s!"'in <string>' requires string as left operand, not {kind}"
  | .notJoined index kind =>
    s!"sequence item {index}: expected str instance, {kind} found"
  | .notIndex row kind => s!"{row} indices must be integers or slices, not {kind}"
  | .notBound          => "slice indices must be integers or None or have an __index__ method"
  | .notAttribute kind => s!"attribute name must be string, not '{kind}'"
  | .notTitle kind     => s!"type.__new__() argument 1 must be str, not {kind}"

/-- What was asked for, or what is wrong with it. -/
abbrev Asked (α : Type) := Except Misfit α

namespace Json

/-- Whether a value is none at all. -/
def isNull : Json → Bool
  | .null => true
  | _     => false

/-- Whether a value counts as given: nothing, zero and what is empty do not. -/
def isGiven : Json → Bool
  | .null         => false
  | .bool b       => b
  | .int n        => n ≠ 0
  | .real d       => d.whole? ≠ some 0
  | .str s        => s ≠ ""
  | .loose points => !points.isEmpty
  | .arr items    => !items.isEmpty
  | .obj members  => !members.isEmpty

/-- The whole number that a value is; a truth value counts as one or zero. -/
def whole? : Json → Option Int
  | .int n  => some n
  | .bool b => some (if b then 1 else 0)
  | _       => none

/-- The parts of a value: items, characters or names. -/
def parts? : Json → Option (List Json)
  | .arr items    => some items
  | .str s        => some (s.toList.map fun c => .str (String.ofList [c]))
  | .loose points => some (points.map fun point => .ofPoints [point])
  | .obj members  => some ((members.map (·.1)).eraseDups.map .ofName)
  | _             => none

/-- The text that a value is; one that is none lacks a member that texts have. -/
def textWith (member : String) : Json → Asked String
  | .str s => .ok s
  | value  => .error (.lacks value.kindWord member)

/-- The two values that parts are. -/
def pairOf : List Json → Asked (Json × Json)
  | [first, second] => .ok (first, second)
  | _ :: _ :: _     => .error .manyParts
  | parts           => .error (.fewParts parts.length)

end Json

end Outline
