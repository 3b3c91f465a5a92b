/-!
# Names

Names as they are handed in: of encodings, of settings, of members. Nearly all of them are texts.
-/

namespace Outline.Text

/-- A name as it was given. Code points among which a surrogate has no partner are no text, and
nothing goes by them. -/
inductive Name where
  | text (name : String)
  | loose (points : List Nat)
  deriving DecidableEq

namespace Name

instance : Coe String Name := ⟨.text⟩

/-- The name that code points are. -/
def ofPoints (points : List Nat) : Name :=
  if points.all Nat.isValidChar then .text (String.ofList (points.map Char.ofNat))
  else .loose points

/-- The text that a name is. -/
def text? : Name → Option String
  | .text name => some name
  | .loose _   => none

/-- Whether a name is no text. -/
def isLoose : Name → Bool
  | .text _  => false
  | .loose _ => true

end Name

end Outline.Text
