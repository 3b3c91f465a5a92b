import Outline.Text.Casing.Table
import Outline.Text.Ranges

/-!
# Lower case

Lower-casing of a text as a whole. Nearly every capital has one partner; the dotted capital I
becomes two characters, and a capital sigma takes the form of a word's end when a cased letter
stands before it and none after it.
-/

namespace Outline.Text

/-- The lower-case partner of a code point in the first run that holds it. -/
def lowerIn : List CaseRun → Nat → Nat
  | [], n          => n
  | run :: rest, n =>
    if run.first ≤ n && n ≤ run.last && (n - run.first) % run.step == 0
    then run.lower + (n - run.first)
    else lowerIn rest n

/-- Whether the nearest character that is not passed over is cased. -/
def startsCased : List Char → Bool
  | []      => false
  | c :: cs =>
    if inRanges caseIgnorableRanges c.toNat then startsCased cs
    else inRanges casedRanges c.toNat

/-- Lower case of one character between the characters before it, nearest first, and those after. -/
def lowerChar (before : List Char) (c : Char) (after : List Char) : List Char :=
  if c.toNat = 0x3a3 then
    [Char.ofNat (if startsCased before && !startsCased after then 0x3c2 else 0x3c3)]
  else if c.toNat = 0x130 then ['i', Char.ofNat 0x307]
  else [Char.ofNat (lowerIn caseRuns c.toNat)]

/-- Lower case of a list of characters, given those before it, nearest first. -/
def lowerChars (before : List Char) : List Char → List Char
  | []      => []
  | c :: cs => lowerChar before c cs ++ lowerChars (c :: before) cs

/-- The text in lower case. -/
def lower (text : String) : String :=
  String.ofList (lowerChars [] text.toList)

end Outline.Text
