import Outline.Settings.Options.Table
import Outline.Text.Identifier
import Outline.Text.Stamp

/-!
# The case of letters in options

Where the case of letters does not count, an option may be written in capitals. Only what begins as
an option does is changed, and only to an option that there is.

How an option begins is a pattern made of the marks: the first of them stands behind a backslash,
where some letters have a meaning of their own, and the last may stand twice.
-/

namespace Outline.Settings

/-- Whether characters are a number below zero, before a line break or not. -/
def isNegativeNumber (cs : List Char) : Bool :=
  match if cs.getLast? = some '\n' then cs.dropLast else cs with
  | '-' :: rest =>
    match rest.dropWhile Text.isDecimal with
    | []              => !rest.isEmpty
    | '.' :: fraction => !fraction.isEmpty && fraction.all Text.isDecimal
    | _               => false
  | _ => false

/-- Whether code points are a number below zero. -/
def isNegative (points : List Nat) : Bool :=
  isNegativeNumber (points.map Char.ofNat)

/-! ### Patterns of marks -/

/-- What can stand at each place of an option's beginning. What can stand at the last place can
stand there twice. -/
structure MarkPattern where
  front : List (Char → Bool)
  last  : Char → Bool

/-- Whether a character can be part of a word. -/
def isWordPart (c : Char) : Bool :=
  Text.isIdentifier ['_', c]

/-- The letters behind a backslash that stand for a character. -/
def escapedSigns : List (Char × Char) :=
  [('a', '\x07'), ('f', '\x0c'), ('n', '\n'), ('r', '\r'), ('t', '\t'), ('v', '\x0b'),
    ('0', '\x00')]

/-- The letters behind a backslash that stand for a class of characters. -/
def escapedClasses : List (Char × (Char → Bool)) :=
  [('d', Text.isDecimal), ('D', (!Text.isDecimal ·)), ('s', Text.isBlank), ('S', (!Text.isBlank ·)),
    ('w', isWordPart), ('W', (!isWordPart ·))]

/-- What a mark behind a backslash stands for, with more marks behind it or none. A letter for an
edge stands for no character. -/
def escaped (mark : Char) (more : Bool) : Except MarkFault (Char → Bool) :=
  match escapedSigns.lookup mark, escapedClasses.lookup mark with
  | some sign, _       => .ok (· = sign)
  | none, some holds   => .ok holds
  | none, none         =>
    if "AZbB".toList.contains mark then
      if more then .ok fun _ => false else .error (.nothingRepeated 4)
    else if mark = '1' then .error .ownGroup
    else if mark.isDigit then .error (.noGroup mark)
    else if mark = 'N' then .error (if more then .noNameBegins else .noCharacterName)
    else if "Uux".toList.contains mark then .error (.incomplete mark)
    else if mark.isAlpha then .error (.meaningless mark)
    else .ok (· = mark)

/-- What a mark stands for that is not the first. -/
def unescaped (mark : Char) : Char → Bool :=
  if mark = '.' then (· ≠ '\n') else (· = mark)

/-- What is wrong with a last mark at a place behind which the repetition is written. -/
def repetitionFault? (mark : Char) (place : Nat) : Option MarkFault :=
  if "*+?".toList.contains mark then some (.repeatedTwice place)
  else if "^$|(".toList.contains mark then some (.nothingRepeated place)
  else if mark = ')' then some (.unopened (place + 12))
  else none

/-- The pattern of marks. -/
def MarkPattern.ofMarks (marks : List Char) : Except MarkFault MarkPattern := do
  match marks, marks.tail.getLast? with
  | [], _             => return ⟨[], fun _ => false⟩
  | first :: _, none  => return ⟨[], ← escaped first false⟩
  | first :: rest, some last =>
    let begin ← escaped first true
    match repetitionFault? last (marks.length + 3) with
    | some fault => throw fault
    | none       => return ⟨begin :: rest.dropLast.map unescaped, unescaped last⟩

namespace MarkPattern

/-- How many code points a beginning with so many signs at the last place and a name behind it has,
if there is one. A name goes on to the next blank or equals sign. -/
def lengthWith? (pattern : MarkPattern) (last : Nat) (points : List Nat) : Option Nat :=
  let cs := points.map Char.ofNat
  let tests := pattern.front ++ List.replicate last pattern.last
  let name := (cs.drop tests.length).takeWhile fun c => !Text.isBlank c && c ≠ '='
  if tests.length ≤ cs.length && (tests.zip cs).all (fun (holds, c) => holds c) && !name.isEmpty
  then some (tests.length + name.length) else none

/-- How many code points an option at the beginning has, if there is one. -/
def length? (pattern : MarkPattern) (points : List Nat) : Option Nat :=
  (pattern.lengthWith? 2 points).or (pattern.lengthWith? 1 points)

end MarkPattern

/-! ### Folding -/

/-- Code points in lower case. What is no text stays as it is. -/
def lowerPoints (points : List Nat) : List Nat :=
  match Text.Name.ofPoints points with
  | .text text => (Text.lower text).toList.map Char.toNat
  | .loose _   => points

/-- The code points of an item of a row. What is not given counts as empty. -/
def argumentPoints (item : Json) : Asked (List Nat) :=
  match item.points? with
  | some points => .ok points
  | none        => if item.isGiven then .error (.notPattern item.kindWord) else .ok []

namespace OptionTable

/-- Letters that each are an option behind one mark, up to one that takes a value. -/
def foldLetters (table : OptionTable) (mark : Nat) : List Nat → Option (List Nat)
  | []             => some []
  | letter :: rest => do
    let folded := if (table.find? [mark, letter]).isSome then [letter] else lowerPoints [letter]
    let use ← table.find? (mark :: folded)
    return folded ++ (← if use.takesValue then some rest else table.foldLetters mark rest)

/-- An option as the one in lower case that there is. -/
def foldOption (table : OptionTable) (option : List Nat) : List Nat :=
  if (table.find? option).isSome then option
  else if (table.find? (lowerPoints option)).isSome then lowerPoints option
  else
    match option with
    | mark :: letter :: rest =>
      if table.isMark mark && !table.isMark letter then
        ((table.foldLetters mark (letter :: rest)).map (mark :: ·)).getD option
      else option
    | _ => option

/-- An argument with the option that it begins with in lower case. What follows a line break behind
an option is lost. -/
def foldArgument (table : OptionTable) (pattern : MarkPattern) (argument : List Nat) : List Nat :=
  if isNegative argument then argument
  else
    match pattern.length? argument with
    | none        => argument
    | some length =>
      table.foldOption (argument.take length)
        ++ (argument.drop length).takeWhile (· ≠ '\n'.toNat)

/-- A row of arguments with all options in lower case. -/
def foldRow (table : OptionTable) (row : List Json) : Except OptionsError (List Json) :=
  if row.isEmpty then .ok []
  else do
    let arguments ← (row.mapM argumentPoints).mapError .misfit
    let pattern ← (MarkPattern.ofMarks table.marks).mapError .badPattern
    return arguments.map fun argument => .ofPoints (table.foldArgument pattern argument)

end OptionTable

end Outline.Settings
