import Outline.Settings.Options.Fault
import Outline.Text.Blank
import Outline.Text.Stamp

/-!
# Several values as one

A row of values that stands where one is wanted becomes one text: the values between brackets with
commas between them. Numbers, the words for truth and nothing, rows and objects stand as they are,
and anything else stands between quotes. A text in the row may itself be several values.
-/

namespace Outline.Settings

/-! ### Numbers -/

/-- What follows digits, between which single underscores may stand. -/
def afterDigits : List Char → List Char
  | '_' :: c :: cs => if Text.isDecimal c then afterDigits cs else '_' :: c :: cs
  | c :: cs        => if Text.isDecimal c then afterDigits cs else c :: cs
  | []             => []

/-- Whether characters begin with a digit. -/
def beginsWithDigit (cs : List Char) : Bool :=
  cs.head?.any Text.isDecimal

/-- Characters without the sign they begin with. -/
def withoutSign : List Char → List Char
  | '+' :: cs | '-' :: cs => cs
  | cs                    => cs

/-- Whether characters are an exponent or nothing. -/
def isExponent : List Char → Bool
  | []      => true
  | c :: cs =>
    let digits := withoutSign cs
    (c = 'e' || c = 'E') && beginsWithDigit digits && (afterDigits digits).isEmpty

/-- Whether characters are a number with a fraction and an exponent or without. -/
def isNumber (cs : List Char) : Bool :=
  let cs := withoutSign cs
  if beginsWithDigit cs then
    match afterDigits cs with
    | '.' :: rest => isExponent (if beginsWithDigit rest then afterDigits rest else rest)
    | rest        => isExponent rest
  else
    match cs with
    | '.' :: rest => beginsWithDigit rest && isExponent (afterDigits rest)
    | word        => ["inf", "infinity", "nan"].contains (String.ofList word).toLower

/-! ### Values in a text -/

/-- A value as it stands in a row. -/
def rowWord (nullWord : Option String) (word : String) : String :=
  if isNumber word.toList then word
  else
    let word := if nullWord = some word then "null" else word
    if ["true", "false", "null"].contains word || word.toList.head? = some '"' then word
    else "\"" ++ word ++ "\""

/-- Divides characters at the first comma outside of quotes. A quote behind a backslash counts as
any character. There is no such place behind a quote that is not closed. -/
def cutAtComma (before : Char) (quoted : Bool) : List Char → Option (List Char × List Char)
  | []      => if quoted then none else some ([], [])
  | c :: cs =>
    let quoted := if c = '"' && before ≠ '\\' then !quoted else quoted
    if !quoted && c = ',' then some ([], c :: cs)
    else (cutAtComma c quoted cs).map fun (word, rest) => (c :: word, rest)

/-- Divides characters behind the bracket that closes the open ones. A bracket of either kind opens
or closes, but the last has to be the one that belongs to the first. -/
def cutAtClosing (closing before : Char) (quoted : Bool) (depth : Int) :
    List Char → Option (List Char × List Char)
  | []      => none
  | c :: cs =>
    let further (quoted : Bool) (depth : Int) :=
      (cutAtClosing closing c quoted depth cs).map fun (word, rest) => (c :: word, rest)
    if c = '"' && before ≠ '\\' then further (!quoted) depth
    else if quoted then further quoted depth
    else if c = '\x7b' || c = '[' then further quoted (depth + 1)
    else if c = '\x7d' || c = ']' then
      if c = closing && depth = 1 then some ([c], cs) else further quoted (depth - 1)
    else further quoted depth

/-- The first value in characters that begin with none but a comma, and what follows it. -/
def firstValue? (nullWord : Option String) (cs : List Char) : Option (String × List Char) :=
  match cs with
  | '[' :: rest    => (cutAtClosing ']' '[' false 1 rest).map fun (value, rest) =>
    (String.ofList ('[' :: value), rest)
  | '\x7b' :: rest => (cutAtClosing '\x7d' '\x7b' false 1 rest).map fun (value, rest) =>
    (String.ofList ('\x7b' :: value), rest)
  | cs             => (cutAtComma ' ' false cs).map fun (word, rest) =>
    (rowWord nullWord (Text.strip (String.ofList word)), rest)

/-- The values so far, and whether the last thing was a value and not a comma. -/
structure RowSoFar where
  values  : List String := []
  isValue : Bool := false

/-- Puts an empty value where there is none before a comma or an end. -/
def RowSoFar.fill (row : RowSoFar) : RowSoFar :=
  if row.isValue then row else { row with values := row.values ++ ["\"\""] }

/-- Reads values and commas from characters. Every step takes one of them at least, so as many steps
as there are characters will do. -/
def readValues (nullWord : Option String) : (steps : Nat) → RowSoFar → List Char → Option RowSoFar
  | 0, row, _          => some row
  | _ + 1, row, []     => some row
  | steps + 1, row, cs =>
    match (Text.strip (String.ofList cs)).toList with
    | ',' :: rest => readValues nullWord steps { row.fill with isValue := false } rest
    | cs          =>
      match firstValue? nullWord cs with
      | none               => none
      | some (value, rest) => readValues nullWord steps ⟨row.values ++ [value], true⟩ rest

/-- Characters without the brackets they stand between. -/
def withoutBrackets (cs : List Char) : List Char :=
  if cs.head? = some '[' && cs.getLast? = some ']' then
    (Text.strip (String.ofList (cs.drop 1).dropLast)).toList
  else cs

/-- Reads the values of a text in a row. -/
def readText (nullWord : Option String) (row : RowSoFar) (text : String) : Option RowSoFar :=
  let cs := withoutBrackets (Text.strip text).toList
  (readValues nullWord cs.length row cs).map RowSoFar.fill

/-- The text that a row of values is. Only the texts before the first value of another kind
count. -/
def joinRow (nullWord : Option String) (items : List Json) : Option String := do
  let texts := (items.map Json.text?).takeWhile Option.isSome
  let row ← (texts.filterMap id).foldlM (readText nullWord) {}
  return "[" ++ String.intercalate "," row.values ++ "]"

end Outline.Settings
