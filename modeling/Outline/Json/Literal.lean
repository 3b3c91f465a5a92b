import Outline.Json.Basic
import Outline.Text.Quoted

/-!
# Values in messages

A value as a message shows it: texts between quotes, the rest by its own word or digits.
-/

namespace Outline.Json

/-- A code point between quotes; a surrogate does not print. -/
def quotePoint (quote : Char) (point : Nat) : List Char :=
  if point.isValidChar then Text.quoteChar quote (Char.ofNat point) else Text.numericEscape point

/-- Code points between quotes. -/
def quotedPoints (points : List Nat) : String :=
  let quote := Text.quoteFor ((points.filter Nat.isValidChar).map Char.ofNat)
  String.ofList (quote :: points.flatMap (quotePoint quote) ++ [quote])

/-- A name between quotes. -/
def quotedName : Text.Name → String
  | .text name    => Text.quoted name
  | .loose points => quotedPoints points

/-- A value as a message shows it. -/
def literal : Json → String
  | .null          => "None"
  | .bool true     => "True"
  | .bool false    => "False"
  | .int n         => toString n
  | .real number   => number.text
  | .str s         => Text.quoted s
  | .loose points  => quotedPoints points
  | .arr items     => "[" ++ String.intercalate ", " (literalItems items) ++ "]"
  | .obj members   => "\x7b" ++ String.intercalate ", " (literalMembers members) ++ "\x7d"
where
  /-- The items of an array. -/
  literalItems : List Json → List String
    | []            => []
    | item :: items => literal item :: literalItems items
  /-- The members of an object. -/
  literalMembers : List (Text.Name × Json) → List String
    | []                      => []
    | (name, item) :: members => s!"{quotedName name}: {literal item}" :: literalMembers members

/-- A value on a line of a report: a text as it is, the rest as in a message. -/
def shown : Json → String
  | .str s => s
  | value  => value.literal

/-- The word for the kind of a value. -/
def kindWord : Json → String
  | .null             => "NoneType"
  | .bool _           => "bool"
  | .int _            => "int"
  | .real _           => "float"
  | .str _ | .loose _ => "str"
  | .arr _            => "list"
  | .obj _            => "dict"

end Outline.Json
