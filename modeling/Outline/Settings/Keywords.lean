import Outline.Json.Misfit

/-!
# Keywords

Values by name, as a request for settings hands them in.
-/

namespace Outline.Settings

/-- Keywords with their values. -/
abbrev Keywords := List (Text.Name × Json)

namespace Keywords

/-- The value of a keyword, nothing when it is not given. -/
def get (keywords : Keywords) (name : String) : Json :=
  (keywords.lookup (.text name)).getD .null

/-- The text that a keyword's value is. -/
def text? (keywords : Keywords) (name : String) : Option String :=
  match keywords.get name with
  | .str s => some s
  | _      => none

end Keywords

end Outline.Settings
