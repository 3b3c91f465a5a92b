import Outline.Text.Digits
import Outline.Text.Printable

/-!
# Quoted text

A text between quotes on one line. The quote is `'`, or `"` for a text that holds `'` and no `"`.
The backslash, the chosen quote and whatever does not print are escaped, so that the text can be
read off the line again.
-/

namespace Outline.Text

/-- The numeric escape of a code point: the shortest of two, four or eight digits that fits. -/
def numericEscape (n : Nat) : List Char :=
  if n < 0x100 then '\\' :: 'x' :: hexDigits 2 n
  else if n < 0x10000 then '\\' :: 'u' :: hexDigits 4 n
  else '\\' :: 'U' :: hexDigits 8 n

/-- The letter in the short escape of a character, for those that have one. -/
def escapeLetter? : Char → Option Char
  | '\n' => some 'n'
  | '\r' => some 'r'
  | '\t' => some 't'
  | _    => none

/-- How one character is written between the given quotes. -/
def quoteChar (quote c : Char) : List Char :=
  if c = '\\' || c = quote then ['\\', c]
  else match escapeLetter? c with
    | some letter => ['\\', letter]
    | none        => if isPrintable c then [c] else numericEscape c.toNat

/-- The quote that a text is written with. -/
def quoteFor (cs : List Char) : Char :=
  if cs.contains '\'' && !cs.contains '"' then '"' else '\''

/-- The text between quotes, on one line. -/
def quoted (text : String) : String :=
  let cs := text.toList
  let quote := quoteFor cs
  String.ofList (quote :: cs.flatMap (quoteChar quote) ++ [quote])

end Outline.Text
