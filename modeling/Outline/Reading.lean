import Outline.Text.Digits

/-!
# Readings

Readers of formats take characters and give a value with the characters after it, or say why there
is none. The first fault in a text is the one that is told.
-/

namespace Outline

/-- Why a text cannot be read: it is not of the format, or a whole number in it is too long. -/
inductive ReadFault where
  | malformed
  | tooManyDigits (count : Nat)
  deriving DecidableEq

/-- The greatest number of decimal digits that a whole number may have. -/
def mostDigits : Nat := 4300

/-- The wording about a number that is too long. -/
def tooManyDigitsMessage (count : Nat) : String :=
  s!"Exceeds the limit ({mostDigits} digits) for integer string conversion: value has {count} " ++
  "digits; use sys.set_int_max_str_digits() to increase the limit"

/-- What is there, or else a fault of the format. -/
def orMalformed {α : Type} : Option α → Except ReadFault α
  | some a => .ok a
  | none   => .error .malformed

/-- The whole number of decimal digits with a sign. -/
def wholeNumber (negative : Bool) (digits : List Char) : Except ReadFault Int :=
  if mostDigits < digits.length then .error (.tooManyDigits digits.length)
  else
    let size : Int := Text.digitsValue digits
    .ok (if negative then -size else size)

end Outline
