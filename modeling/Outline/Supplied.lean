import Outline.Double

/-!
# Supplied values

Values handed in from outside, before they are known to be of the kind that is wanted, and the
complaints about those that are not.
-/

namespace Outline

/-- A value as it was handed in. Code points that make no text, because a surrogate among them has
no partner, are kept apart from texts. -/
inductive Supplied where
  | null
  | flag (value : Bool)
  | text (value : String)
  | loose (points : List Nat)
  | whole (value : Int)
  | real (value : Double)
  | compound
  deriving DecidableEq

/-- What is wrong with a value or with the name it was given under. -/
inductive Complaint where
  | notText
  | notUnicode
  | notFlag
  | unreadableFlag
  | notOneOf (choices : List String)
  | notWord (words : List String)
  | unknownName
  | frozen
  deriving DecidableEq

/-- The short name of a complaint. -/
def Complaint.code : Complaint → String
  | .notText        => "string_type"
  | .notUnicode     => "string_unicode"
  | .notFlag        => "bool_type"
  | .unreadableFlag => "bool_parsing"
  | .notOneOf _     => "enum"
  | .notWord _      => "literal_error"
  | .unknownName    => "extra_forbidden"
  | .frozen         => "frozen_instance"

/-- Choices between quotes, the last after an "or". -/
def listChoices : List String → String
  | []            => ""
  | [a]           => s!"'{a}'"
  | [a, b]        => s!"'{a}' or '{b}'"
  | a :: b :: cs  => s!"'{a}', {listChoices (b :: cs)}"

/-- The wording of a complaint. -/
def Complaint.message : Complaint → String
  | .notText          => "Input should be a valid string"
  | .notUnicode       =>
    "Input should be a valid string, unable to parse raw data as a unicode string"
  | .notFlag          => "Input should be a valid boolean"
  | .unreadableFlag   => "Input should be a valid boolean, unable to interpret input"
  | .notOneOf choices => s!"Input should be {listChoices choices}"
  | .notWord words    => s!"Input should be {listChoices words}"
  | .unknownName      => "Extra inputs are not permitted"
  | .frozen           => "Instance is frozen"

/-- A complaint about the value under a name, or about the names themselves. -/
structure Rejection where
  name      : Option String
  complaint : Complaint
  deriving DecidableEq

/-- The rejection that a failed reading of the value under a name is. -/
def Rejection.ofReading {α : Type} (name : String) : Except Complaint α → List Rejection
  | .ok _            => []
  | .error complaint => [⟨some name, complaint⟩]

end Outline
