import Outline.Reading
import Outline.Text.Breaks
import Outline.Toml.Value

/-!
# Reading TOML

A text is read whole or refused. Readers give the value they found and the characters after it; the
fuel of a reader bounds the characters it may look at.
-/

namespace Outline.Toml

open Text (digitsValue hexNumber? hexValue?)

/-- Drops blanks within a line. -/
def skipBlanks (cs : List Char) : List Char :=
  cs.dropWhile fun c => c = ' ' || c = '\t'

/-- Drops blanks and line ends. -/
def skipLayout (cs : List Char) : List Char :=
  cs.dropWhile fun c => c = ' ' || c = '\t' || c = '\n'

/-- Whether a character is a control that no part of a text may hold; a tab is none of them. -/
def isControl (c : Char) : Bool :=
  (c.toNat < 0x20 && c ≠ '\t') || c.toNat = 0x7f

/-- Passes over a comment up to the end of its line. -/
def skipComment (cs : List Char) : Option (List Char) :=
  match cs with
  | '#' :: rest =>
    if (rest.takeWhile (· ≠ '\n')).any isControl then none else some (rest.dropWhile (· ≠ '\n'))
  | _ => some cs

/-! ### Strings -/

/-- The character of an escape letter. -/
def escaped? (c : Char) : Option Char :=
  if c = 'b' then some (Char.ofNat 0x08)
  else if c = 't' then some '\t'
  else if c = 'n' then some '\n'
  else if c = 'f' then some (Char.ofNat 0x0c)
  else if c = 'r' then some '\r'
  else if c = '"' || c = '\\' then some c
  else none

/-- The character whose code point a row of digits is. -/
def scalar? (width : Nat) (cs : List Char) : Option (Char × List Char) :=
  let digits := cs.take width
  if digits.length < width then none
  else match hexNumber? digits with
    | none   => none
    | some n => if n.isValidChar then some (Char.ofNat n, cs.drop width) else none

/-- What follows a backslash at the end of a line: all layout up to the next text. -/
def skipFold (c : Char) (cs : List Char) : Option (List Char) :=
  if c = '\n' then some (skipLayout cs)
  else match skipBlanks cs with
    | []           => some []
    | '\n' :: rest => some (skipLayout rest)
    | _            => none

/-- Reads on in a string between double quotes, of one line or of many; `done` holds its characters
so far, last first. -/
def readBasic (many : Bool) :
    (fuel : Nat) → (done : List Char) → List Char → Option (List Char × List Char)
  | 0, _, _            => none
  | fuel + 1, done, cs =>
    match cs with
    | [] => none
    | '"' :: rest =>
      if !many then some (done, rest)
      else match rest with
        | '"' :: '"' :: rest => some (done, rest)
        | _                  => readBasic many fuel ('"' :: done) rest
    | '\\' :: 'u' :: rest => do
      let (c, rest) ← scalar? 4 rest
      readBasic many fuel (c :: done) rest
    | '\\' :: 'U' :: rest => do
      let (c, rest) ← scalar? 8 rest
      readBasic many fuel (c :: done) rest
    | '\\' :: c :: rest =>
      if many && (c = ' ' || c = '\t' || c = '\n') then do
        let rest ← skipFold c rest
        readBasic many fuel done rest
      else do
        let e ← escaped? c
        readBasic many fuel (e :: done) rest
    | c :: rest =>
      if c = '\\' || (isControl c && !(many && c = '\n')) then none
      else readBasic many fuel (c :: done) rest

/-- Reads a string between single quotes on one line. -/
def readLiteral (cs : List Char) : Option (String × List Char) :=
  let body := cs.takeWhile (· ≠ '\'')
  match cs.dropWhile (· ≠ '\'') with
  | []        => none
  | _ :: rest => if body.any isControl then none else some (String.ofList body, rest)

/-- Reads on in a string between triple single quotes. -/
def readLiteralLines (done : List Char) : List Char → Option (List Char × List Char)
  | [] => none
  | '\'' :: '\'' :: '\'' :: rest => some (done, rest)
  | c :: rest => if isControl c && c ≠ '\n' then none else readLiteralLines (c :: done) rest

/-- Takes in up to two more quotes after the end of a string of many lines. -/
def extraQuotes (quote : Char) (done : List Char) (cs : List Char) : String × List Char :=
  match cs with
  | a :: b :: rest =>
    if a = quote && b = quote then (String.ofList (quote :: quote :: done).reverse, rest)
    else if a = quote then (String.ofList (quote :: done).reverse, b :: rest)
    else (String.ofList done.reverse, cs)
  | [a] =>
    if a = quote then (String.ofList (quote :: done).reverse, [])
    else (String.ofList done.reverse, cs)
  | [] => (String.ofList done.reverse, cs)

/-- Drops a line end that stands first. -/
def skipFirstBreak (cs : List Char) : List Char :=
  match cs with
  | '\n' :: rest => rest
  | _            => cs

/-- Reads a string between double quotes on one line, after its opening quote. -/
def readBasicLine (cs : List Char) : Option (String × List Char) :=
  (readBasic false (cs.length + 1) [] cs).map fun (done, rest) => (String.ofList done.reverse, rest)

/-- Reads a string of any form. -/
def readString (cs : List Char) : Option (String × List Char) :=
  match cs with
  | '"' :: '"' :: '"' :: rest =>
    (readBasic true (rest.length + 1) [] (skipFirstBreak rest)).map fun (done, rest) =>
      extraQuotes '"' done rest
  | '"' :: rest => readBasicLine rest
  | '\'' :: '\'' :: '\'' :: rest =>
    (readLiteralLines [] (skipFirstBreak rest)).map fun (done, rest) => extraQuotes '\'' done rest
  | '\'' :: rest => readLiteral rest
  | _ => none

/-! ### Numbers -/

/-- Reads digits with single underscores between them. -/
def readDigits (isDigit : Char → Bool) (done : List Char) :
    List Char → Option (List Char × List Char)
  | []      => if done.isEmpty then none else some (done.reverse, [])
  | [c]     =>
    if isDigit c then some ((c :: done).reverse, [])
    else if done.isEmpty then none else some (done.reverse, [c])
  | c :: d :: rest =>
    if isDigit c then readDigits isDigit (c :: done) (d :: rest)
    else if done.isEmpty then none
    else if c = '_' && isDigit d then readDigits isDigit (d :: done) rest
    else some (done.reverse, c :: d :: rest)

/-- Reads a number in another base after its mark. -/
def readBase (base : Nat) (isDigit : Char → Bool) (cs : List Char) : Option (Value × List Char) :=
  (readDigits isDigit [] cs).map fun (digits, rest) =>
    let n := digits.foldl (fun n c => base * n + (hexValue? c).getD 0) 0
    (.int n, rest)

/-- Reads the whole part of a decimal number: a zero alone, or digits that begin with another. -/
def readWhole (cs : List Char) : Option (List Char × List Char) :=
  match cs with
  | '0' :: rest => some (['0'], rest)
  | _           => readDigits Char.isDigit [] cs

/-- The digits of a fraction, if there is one. -/
def readFraction (cs : List Char) : Option (List Char) × List Char :=
  match cs with
  | '.' :: rest =>
    match readDigits Char.isDigit [] rest with
    | some (digits, rest) => (some digits, rest)
    | none                => (none, cs)
  | _ => (none, cs)

/-- A sign, if there is one: whether it is a minus. -/
def readSign (cs : List Char) : Bool × List Char :=
  match cs with
  | '-' :: rest => (true, rest)
  | '+' :: rest => (false, rest)
  | _           => (false, cs)

/-- An exponent, if there is one. -/
def readExponent (cs : List Char) : Option Int × List Char :=
  match cs with
  | c :: rest =>
    if c = 'e' || c = 'E' then
      let (negative, rest) := readSign rest
      match readDigits Char.isDigit [] rest with
      | some (digits, rest) =>
        let size : Int := digitsValue digits
        (some (if negative then -size else size), rest)
      | none => (none, cs)
    else (none, cs)
  | [] => (none, cs)

/-- Reads a decimal number. -/
def readDecimal (cs : List Char) : Except ReadFault (Value × List Char) := do
  let (negative, rest) := readSign cs
  let (whole, rest) ← orMalformed (readWhole rest)
  let (fraction, rest) := readFraction rest
  let (exponent, rest) := readExponent rest
  match fraction, exponent with
  | none, none => return (.int (← wholeNumber negative whole), rest)
  | _, _       =>
    let mantissa := digitsValue (whole ++ fraction.getD [])
    let exponent := exponent.getD 0 - (fraction.getD []).length
    return (.real (.ofDecimal ⟨negative, mantissa, exponent⟩), rest)

/-- Reads a number in another base than ten. -/
def readBased (cs : List Char) : Option (Value × List Char) :=
  match cs with
  | '0' :: 'x' :: rest => readBase 16 (fun c => (hexValue? c).isSome) rest
  | '0' :: 'o' :: rest => readBase 8 (fun c => '0' ≤ c && c ≤ '7') rest
  | '0' :: 'b' :: rest => readBase 2 (fun c => c = '0' || c = '1') rest
  | _                  => none

/-- Reads a number that is not finite. -/
def readNonFinite (cs : List Char) : Option (Value × List Char) :=
  let (negative, rest) := readSign cs
  if "inf".toList.isPrefixOf rest then some (.real (.infinite negative), rest.drop 3)
  else if "nan".toList.isPrefixOf rest then some (.real .nan, rest.drop 3)
  else none

/-! ### Dates and times -/

/-- Reads a number of exactly so many digits that lies within bounds. -/
def readField (width least most : Nat) (cs : List Char) : Option (Nat × List Char) :=
  let digits := cs.take width
  if digits.length < width || !digits.all Char.isDigit then none
  else
    let n := digitsValue digits
    if least ≤ n && n ≤ most then some (n, cs.drop width) else none

/-- Passes over a character that has to stand here. -/
def expect (c : Char) (cs : List Char) : Option (List Char) :=
  match cs with
  | d :: rest => if d = c then some rest else none
  | []        => none

/-- Reads a time of day and gives what follows it. -/
def readTime (cs : List Char) : Option (List Char) := do
  let (_, rest) ← readField 2 0 23 cs
  let (_, rest) ← readField 2 0 59 (← expect ':' rest)
  let (_, rest) ← readField 2 0 59 (← expect ':' rest)
  match rest with
  | '.' :: digits =>
    if (digits.takeWhile Char.isDigit).isEmpty then return rest
    else return digits.dropWhile Char.isDigit
  | _ => return rest

/-- Passes over the offset of a time from universal time, if there is one. -/
def skipOffset (cs : List Char) : List Char :=
  match cs with
  | c :: rest =>
    if c = 'Z' || c = 'z' then rest
    else if c = '+' || c = '-' then
      let after : Option (List Char) := do
        let (_, rest) ← readField 2 0 23 rest
        let (_, rest) ← readField 2 0 59 (← expect ':' rest)
        return rest
      after.getD cs
    else cs
  | [] => cs

/-- The number of days of a month. -/
def daysIn (year month : Nat) : Nat :=
  if month = 2 then
    if year % 4 = 0 && (year % 100 ≠ 0 || year % 400 = 0) then 29 else 28
  else if month = 4 || month = 6 || month = 9 || month = 11 then 30
  else 31

/-- Reads the form of a date: year, month, day, and what follows. -/
def readDate (cs : List Char) : Option (Nat × Nat × Nat × List Char) := do
  let (year, rest) ← readField 4 0 9999 cs
  let (month, rest) ← readField 2 1 12 (← expect '-' rest)
  let (day, rest) ← readField 2 1 31 (← expect '-' rest)
  return (year, month, day, rest)

/-- Reads a date or a time; the inner answer is none for a date that no calendar has. -/
def readMoment (cs : List Char) : Option (Option (Value × List Char)) :=
  match readDate cs with
  | some (year, month, day, rest) =>
    if year = 0 || daysIn year month < day then some none
    else
      let timed : Option (List Char) := do
        let c ← rest.head?
        if c = 'T' || c = 't' || c = ' ' then return skipOffset (← readTime (rest.drop 1))
        else none
      some (some (.moment, timed.getD rest))
  | none => (readTime cs).map fun rest => some (.moment, rest)

/-! ### Names -/

/-- Whether a character may stand in a name without quotes. -/
def isBare (c : Char) : Bool :=
  c.isAlphanum || c = '-' || c = '_'

/-- Reads one name. -/
def readName (cs : List Char) : Option (String × List Char) :=
  match cs with
  | '\'' :: rest => readLiteral rest
  | '"' :: rest  => readBasicLine rest
  | _ =>
    match cs.takeWhile isBare with
    | []   => none
    | name => some (String.ofList name, cs.dropWhile isBare)

/-- Reads names with dots between them. -/
def readPath : (fuel : Nat) → List Char → Option (Path × List Char)
  | 0, _         => none
  | fuel + 1, cs => do
    let (name, rest) ← readName cs
    match skipBlanks rest with
    | '.' :: rest =>
      let (names, rest) ← readPath fuel (skipBlanks rest)
      return (name :: names, rest)
    | rest => return ([name], rest)

/-! ### Values -/

/-- Passes over layout and comments inside an array. -/
def skipFiller : (fuel : Nat) → List Char → Option (List Char)
  | 0, _         => none
  | fuel + 1, cs =>
    match skipLayout cs with
    | '#' :: rest => do skipFiller fuel (← skipComment ('#' :: rest))
    | rest        => some rest

/-- Adds a member to an inline table, of which the frozen members may not grow. -/
def addMember (table : Table) (marks : Marks) (path : Path) (value : Value) :
    Option (Table × Marks) := do
  let name ← path.getLast?
  if marks.isFrozen path then none
  else
    let table ← table.change false (Table.add name value) path.dropLast
    return (table, if value.isCompound then marks ++ [(path, .frozen)] else marks)

/-- Reads a word that stands for a value. -/
def readWord (word : String) (value : Value) (cs : List Char) : Option (Value × List Char) :=
  if word.toList.isPrefixOf cs then some (value, cs.drop word.length) else none

/-- Reads a truth value or a string. -/
def readSimple (cs : List Char) : Option (Value × List Char) :=
  readWord "true" (.bool true) cs <|> readWord "false" (.bool false) cs <|>
  (readString cs).map fun (s, rest) => (.str s, rest)

/-- Whether a decimal number begins here. -/
def startsDecimal (cs : List Char) : Bool :=
  (readWhole (readSign cs).2).isSome

/-- Reads a number of any form. -/
def readNumber (cs : List Char) : Except ReadFault (Value × List Char) :=
  match readBased cs with
  | some found => .ok found
  | none       => if startsDecimal cs then readDecimal cs else orMalformed (readNonFinite cs)

/-- Reads a value that holds no others. -/
def readScalar (cs : List Char) : Except ReadFault (Value × List Char) :=
  match readSimple cs, readMoment cs with
  | some found, _   => .ok found
  | none, some read => orMalformed read
  | none, none      => readNumber cs

mutual

/-- Reads a value. -/
def readValue : (fuel : Nat) → List Char → Except ReadFault (Value × List Char)
  | 0, _         => .error .malformed
  | fuel + 1, cs =>
    match cs with
    | '[' :: rest    => do
      let rest ← orMalformed (skipFiller (rest.length + 1) rest)
      match rest with
      | ']' :: rest => return (.array [], rest)
      | _           => readItems fuel [] rest
    | '\x7b' :: rest =>
      match skipBlanks rest with
      | '\x7d' :: rest => .ok (.table [], rest)
      | rest           => readMembers fuel [] [] rest
    | _ => readScalar cs

/-- Reads on in an array, where an item has to stand; `done` holds those before it, last first. -/
def readItems : (fuel : Nat) → (done : List Value) → List Char →
    Except ReadFault (Value × List Char)
  | 0, _, _            => .error .malformed
  | fuel + 1, done, cs => do
    let (item, rest) ← readValue fuel cs
    let rest ← orMalformed (skipFiller (rest.length + 1) rest)
    match rest with
    | ']' :: rest => return (.array (item :: done).reverse, rest)
    | ',' :: rest =>
      let rest ← orMalformed (skipFiller (rest.length + 1) rest)
      match rest with
      | ']' :: rest => return (.array (item :: done).reverse, rest)
      | _           => readItems fuel (item :: done) rest
    | _ => throw .malformed

/-- Reads on in an inline table, where a member has to stand. -/
def readMembers : (fuel : Nat) → Table → Marks → List Char → Except ReadFault (Value × List Char)
  | 0, _, _, _                 => .error .malformed
  | fuel + 1, table, marks, cs => do
    let (path, rest) ← orMalformed (readPath (cs.length + 1) cs)
    let rest ← orMalformed (expect '=' rest)
    let (value, rest) ← readValue fuel (skipBlanks rest)
    let (table, marks) ← orMalformed (addMember table marks path value)
    match skipBlanks rest with
    | '\x7d' :: rest => return (.table table, rest)
    | ',' :: rest    => readMembers fuel table marks (skipBlanks rest)
    | _              => throw .malformed

end

/-! ### Documents -/

/-- Reads a heading after its first bracket. -/
def readHeading (doc : Document) (cs : List Char) : Option (Document × List Char) :=
  match cs with
  | '[' :: rest => do
    let (path, rest) ← readPath (rest.length + 1) (skipBlanks rest)
    let doc ← doc.openItem path
    return (doc, ← expect ']' (← expect ']' rest))
  | _ => do
    let (path, rest) ← readPath (cs.length + 1) (skipBlanks cs)
    let doc ← doc.openTable path
    return (doc, ← expect ']' rest)

/-- Reads the statement that begins here. -/
def readStatement (doc : Document) (cs : List Char) : Except ReadFault (Document × List Char) :=
  match cs with
  | '[' :: rest => orMalformed (readHeading doc rest)
  | '#' :: _    => .ok (doc, cs)
  | _ => do
    let (path, rest) ← orMalformed (readPath (cs.length + 1) cs)
    let rest ← orMalformed (expect '=' rest)
    let (value, rest) ← readValue (rest.length + 1) (skipBlanks rest)
    return (← orMalformed (doc.assign path value), rest)

/-- Reads statements, one a line. -/
def readDocument : (fuel : Nat) → Document → List Char → Except ReadFault Document
  | 0, _, _           => .error .malformed
  | fuel + 1, doc, cs =>
    match skipBlanks cs with
    | []           => .ok doc
    | '\n' :: rest => readDocument fuel doc rest
    | rest         => do
      let (doc, rest) ← readStatement doc rest
      match ← orMalformed (skipComment (skipBlanks rest)) with
      | []           => return doc
      | '\n' :: rest => readDocument fuel doc rest
      | _            => throw .malformed

/-- The table of a document. -/
def parse (text : String) : Except ReadFault Table := do
  let cs := Text.dropReturns text.toList
  return (← readDocument (cs.length + 1) {} cs).table

end Outline.Toml
