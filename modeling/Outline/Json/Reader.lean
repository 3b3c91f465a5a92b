import Outline.Json.Basic
import Outline.Reading
import Outline.Text.Utf16

/-!
# Reading JSON

A text is read whole or refused. Besides the numbers of the format, the words for the numbers that
are not finite are taken.
-/

namespace Outline.Json

open Text (digitsValue hexNumber?)

/-- Drops white space. -/
def skipBlanks (cs : List Char) : List Char :=
  cs.dropWhile fun c => c = ' ' || c = '\t' || c = '\n' || c = '\r'

/-! ### Strings -/

/-- The character of an escape letter. -/
def escaped? (c : Char) : Option Char :=
  if c = '"' || c = '\\' || c = '/' then some c
  else if c = 'b' then some (Char.ofNat 0x08)
  else if c = 'f' then some (Char.ofNat 0x0c)
  else if c = 'n' then some '\n'
  else if c = 'r' then some '\r'
  else if c = 't' then some '\t'
  else none

/-- Takes in an escaped UTF-16 unit. After a first surrogate that was escaped too, `high`, a second
one makes a pair with it; `done` holds the code points so far, last first. -/
def pushUnit (high : Option Nat) (unit : Nat) (done : List Nat) : Option Nat × List Nat :=
  match high with
  | some h =>
    if Text.Utf16.isLow unit then (none, Text.Utf16.join h unit :: done.drop 1)
    else (if Text.Utf16.isHigh unit then some unit else none, unit :: done)
  | none   => (if Text.Utf16.isHigh unit then some unit else none, unit :: done)

/-- Reads a string after its opening quote, as its code points. -/
def readString (high : Option Nat) (done : List Nat) :
    List Char → Except ReadFault (List Nat × List Char)
  | [] => .error .malformed
  | '"' :: rest => .ok (done.reverse, rest)
  | '\\' :: 'u' :: a :: b :: c :: d :: rest =>
    match hexNumber? [a, b, c, d] with
    | none      => .error .malformed
    | some unit =>
      let (high, done) := pushUnit high unit done
      readString high done rest
  | '\\' :: c :: rest =>
    match escaped? c with
    | none   => .error .malformed
    | some e => readString none (e.toNat :: done) rest
  | c :: rest =>
    if c.toNat < 0x20 || c = '\\' then .error .malformed
    else readString none (c.toNat :: done) rest

/-! ### Numbers and words -/

/-- The fraction digits that follow, if a point and at least one digit do. -/
def readFraction (cs : List Char) : Option (List Char) × List Char :=
  match cs with
  | '.' :: rest =>
    match rest.takeWhile Char.isDigit with
    | []     => (none, cs)
    | digits => (some digits, rest.dropWhile Char.isDigit)
  | _ => (none, cs)

/-- The exponent that follows, if its mark and at least one digit do. -/
def readExponent (cs : List Char) : Option Int × List Char :=
  match cs with
  | c :: rest =>
    if c = 'e' || c = 'E' then
      let (negative, digits) := match rest with
        | '-' :: ds => (true, ds)
        | '+' :: ds => (false, ds)
        | ds        => (false, ds)
      match digits.takeWhile Char.isDigit with
      | [] => (none, cs)
      | ds =>
        let size : Int := digitsValue ds
        (some (if negative then -size else size), digits.dropWhile Char.isDigit)
    else (none, cs)
  | [] => (none, cs)

/-- The digits before the point: a zero alone, or digits that begin with another. -/
def readWhole (cs : List Char) : Except ReadFault (List Char × List Char) :=
  match cs with
  | '0' :: rest => .ok (['0'], rest)
  | c :: _      =>
    if c.isDigit then .ok (cs.takeWhile Char.isDigit, cs.dropWhile Char.isDigit)
    else .error .malformed
  | []          => .error .malformed

/-- Reads a number. -/
def readNumber (cs : List Char) : Except ReadFault (Json × List Char) := do
  let (negative, unsigned) := match cs with
    | '-' :: rest => (true, rest)
    | _           => (false, cs)
  let (whole, rest) ← readWhole unsigned
  let (fraction, rest) := readFraction rest
  let (exponent, rest) := readExponent rest
  match fraction, exponent with
  | none, none => return (.int (← wholeNumber negative whole), rest)
  | _, _       =>
    let mantissa := digitsValue (whole ++ fraction.getD [])
    let exponent := exponent.getD 0 - (fraction.getD []).length
    return (.real (.ofDecimal ⟨negative, mantissa, exponent⟩), rest)

/-- The words that stand for values. -/
def words : List (List Char × Json) := [
  ("null".toList, .null), ("true".toList, .bool true), ("false".toList, .bool false),
  ("NaN".toList, .real .nan), ("Infinity".toList, .real (.infinite false)),
  ("-Infinity".toList, .real (.infinite true))]

/-- Reads a value that is neither a string, an array nor an object. -/
def readScalar (cs : List Char) : Except ReadFault (Json × List Char) :=
  match words.find? (·.1.isPrefixOf cs) with
  | some (word, value) => .ok (value, cs.drop word.length)
  | none               => readNumber cs

/-! ### Values -/

/-- Reads the name of a member and gives what follows its colon. -/
def readName (cs : List Char) : Except ReadFault (Text.Name × List Char) :=
  match cs with
  | '"' :: rest => do
    let (points, rest) ← readString none [] rest
    match skipBlanks rest with
    | ':' :: rest => return (.ofPoints points, skipBlanks rest)
    | _           => throw .malformed
  | _ => .error .malformed

mutual

/-- Reads a value that begins here; `fuel` bounds the characters left. -/
def readValue : (fuel : Nat) → List Char → Except ReadFault (Json × List Char)
  | 0, _         => .error .malformed
  | fuel + 1, cs =>
    match cs with
    | '"' :: rest    => do
      let (points, rest) ← readString none [] rest
      return (ofPoints points, rest)
    | '[' :: rest    =>
      match skipBlanks rest with
      | ']' :: rest => .ok (.arr [], rest)
      | rest        => readItems fuel [] rest
    | '\x7b' :: rest =>
      match skipBlanks rest with
      | '\x7d' :: rest => .ok (.obj [], rest)
      | rest           => readMembers fuel [] rest
    | _ => readScalar cs

/-- Reads on in an array, where an item has to stand; `done` holds those before it, last first. -/
def readItems : (fuel : Nat) → (done : List Json) → List Char → Except ReadFault (Json × List Char)
  | 0, _, _            => .error .malformed
  | fuel + 1, done, cs =>
    match readValue fuel cs with
    | .error fault      => .error fault
    | .ok (item, rest)  =>
      match skipBlanks rest with
      | ']' :: rest => .ok (.arr (item :: done).reverse, rest)
      | ',' :: rest => readItems fuel (item :: done) (skipBlanks rest)
      | _           => .error .malformed

/-- Reads on in an object, where a member has to stand; `done` holds those before it, last first. -/
def readMembers : (fuel : Nat) → (done : List (Text.Name × Json)) → List Char →
    Except ReadFault (Json × List Char)
  | 0, _, _            => .error .malformed
  | fuel + 1, done, cs =>
    match readName cs with
    | .error fault     => .error fault
    | .ok (name, rest) =>
      match readValue fuel rest with
      | .error fault     => .error fault
      | .ok (item, rest) =>
        match skipBlanks rest with
        | '\x7d' :: rest => .ok (.obj ((name, item) :: done).reverse, rest)
        | ',' :: rest    => readMembers fuel ((name, item) :: done) (skipBlanks rest)
        | _              => .error .malformed

end

/-- The value that a text is, if it is one value and no more. -/
def parse (text : String) : Except ReadFault Json := do
  let cs := text.toList
  let (value, rest) ← readValue (cs.length + 1) (skipBlanks cs)
  if (skipBlanks rest).isEmpty then return value else throw .malformed

end Outline.Json
