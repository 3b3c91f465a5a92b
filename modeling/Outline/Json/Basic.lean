import Outline.Double
import Outline.Text.Name

/-!
# JSON values

Objects keep their members in the order they were written, repetitions included.
-/

namespace Outline

/-- A JSON value. Whole numbers are kept apart from those written with a fraction or an exponent. A
string with a surrogate that has no partner is no text and is kept as its code points. -/
inductive Json where
  | null
  | bool (value : Bool)
  | int (value : Int)
  | real (value : Double)
  | str (value : String)
  | loose (points : List Nat)
  | arr (items : List Json)
  | obj (members : List (Text.Name × Json))
  deriving Inhabited

namespace Json

/-- An object whose names are texts. -/
def record (members : List (String × Json)) : Json :=
  .obj (members.map fun (name, value) => (.text name, value))

/-- The string that a name is. -/
def ofName : Text.Name → Json
  | .text name    => .str name
  | .loose points => .loose points

/-- The string of code points. -/
def ofPoints (points : List Nat) : Json :=
  .ofName (.ofPoints points)

/-- The text that a value is. -/
def text? : Json → Option String
  | .str s => some s
  | _      => none

/-- The code points of a string. -/
def points? : Json → Option (List Nat)
  | .str s        => some (s.toList.map Char.toNat)
  | .loose points => some points
  | _             => none

end Json

end Outline
