import Outline.Json.Basic
import Outline.Text.Quoted

/-!
# JSON text

The indented form of a value: each item on a line of its own, two spaces deeper than what holds it,
and nothing but ASCII, every other character being escaped by its UTF-16 units.
-/

namespace Outline.Json

/-- The escape of a UTF-16 unit. -/
def unitEscape (unit : Nat) : List Char :=
  '\\' :: 'u' :: Text.hexDigits 4 unit

/-- How one character is written inside a string. -/
def escapeChar (c : Char) : List Char :=
  let n := c.toNat
  if c = '"' || c = '\\' then ['\\', c]
  else if n = 0x08 then ['\\', 'b']
  else if n = 0x09 then ['\\', 't']
  else if n = 0x0a then ['\\', 'n']
  else if n = 0x0c then ['\\', 'f']
  else if n = 0x0d then ['\\', 'r']
  else if 0x20 ≤ n && n < 0x7f then [c]
  else if n < 0x10000 then unitEscape n
  else
    unitEscape (0xD800 + (n - 0x10000) / 0x400) ++ unitEscape (0xDC00 + (n - 0x10000) % 0x400)

/-- A string between quotes. -/
def writeString (s : String) : List Char :=
  '"' :: s.toList.flatMap escapeChar ++ ['"']

/-- How one code point is written inside a string. -/
def escapePoint (point : Nat) : List Char :=
  if point.isValidChar then escapeChar (Char.ofNat point) else unitEscape point

/-- Code points between quotes. -/
def writePoints (points : List Nat) : List Char :=
  '"' :: points.flatMap escapePoint ++ ['"']

/-- A name between quotes. -/
def writeName : Text.Name → List Char
  | .text name    => writeString name
  | .loose points => writePoints points

/-- A number that is not whole, or the word for one that is not finite. -/
def writeReal : Double → List Char
  | .nan               => "NaN".toList
  | .infinite negative => (if negative then "-Infinity" else "Infinity").toList
  | number             => number.text.toList

/-- A new line at a depth. -/
def lineBreak (depth : Nat) : List Char :=
  '\n' :: List.replicate (2 * depth) ' '

/-- What stands after an item: a comma when there are more. -/
def comma {α : Type} (rest : List α) : List Char :=
  if rest.isEmpty then [] else [',']

/-- A value as it is written at a depth, before the characters that follow it. -/
def write (depth : Nat) : Json → (rest : List Char) → List Char
  | .null, rest       => "null".toList ++ rest
  | .bool true, rest  => "true".toList ++ rest
  | .bool false, rest => "false".toList ++ rest
  | .int n, rest      => (toString n).toList ++ rest
  | .real r, rest     => writeReal r ++ rest
  | .str s, rest      => writeString s ++ rest
  | .loose ps, rest   => writePoints ps ++ rest
  | .arr [], rest     => '[' :: ']' :: rest
  | .arr (item :: items), rest =>
    '[' :: writeItems (depth + 1) (item :: items) (lineBreak depth ++ ']' :: rest)
  | .obj [], rest     => '\x7b' :: '\x7d' :: rest
  | .obj (member :: members), rest =>
    '\x7b' :: writeMembers (depth + 1) (member :: members) (lineBreak depth ++ '\x7d' :: rest)
where
  /-- The items of an array, each on a new line. -/
  writeItems (depth : Nat) : List Json → (rest : List Char) → List Char
    | [], rest            => rest
    | item :: items, rest =>
      lineBreak depth ++ write depth item (comma items ++ writeItems depth items rest)
  /-- The members of an object, each on a new line. -/
  writeMembers (depth : Nat) : List (Text.Name × Json) → (rest : List Char) → List Char
    | [], rest                      => rest
    | (name, item) :: members, rest =>
      lineBreak depth ++ writeName name ++ ':' :: ' ' ::
        write depth item (comma members ++ writeMembers depth members rest)

/-- The indented text of a value. -/
def render (value : Json) : String :=
  String.ofList (write 0 value [])

end Outline.Json
