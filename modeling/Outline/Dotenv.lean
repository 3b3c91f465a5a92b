import Outline.Text.Blank

/-!
# Files of environment variables

Lines of the form `NAME=value`, with comments, an `export` before the name, quotes around the value,
and references to other variables in it. A line that cannot be read is passed over.
-/

namespace Outline.Dotenv

/-- A variable and its value, if its line gives one. -/
abbrev Binding := String × Option String

/-- Whether a character ends a line. -/
def isBreak (c : Char) : Bool := c = '\n' || c = '\r'

/-- Drops white space within a line. -/
def skipSpaces (cs : List Char) : List Char :=
  cs.dropWhile fun c => Text.isBlank c && !isBreak c

/-- Drops the rest of a line and its end. -/
def skipLine (cs : List Char) : List Char :=
  (cs.dropWhile (!isBreak ·)).drop 1

/-! ### Values -/

/-- Splits at the closing quote, the first that does not follow a backslash which itself stands
free. `done` holds what stands before, last first. -/
def closeQuote (quote : Char) (done : List Char) : List Char → Option (List Char × List Char)
  | []              => none
  | '\\' :: c :: cs => closeQuote quote (c :: '\\' :: done) cs
  | c :: cs         =>
    if c = quote then some (done.reverse, cs) else closeQuote quote (c :: done) cs

/-- The escape letters and their characters. -/
def escapes : List (Char × Char) := [
  ('\\', '\\'), ('\'', '\''), ('"', '"'), ('a', Char.ofNat 0x07), ('b', Char.ofNat 0x08),
  ('f', Char.ofNat 0x0c), ('n', '\n'), ('r', '\r'), ('t', '\t'), ('v', Char.ofNat 0x0b)]

/-- Replaces the escapes of which the letter is among those allowed. -/
def unescape (allowed : List (Char × Char)) : List Char → List Char
  | '\\' :: c :: cs =>
    match allowed.lookup c with
    | some e => e :: unescape allowed cs
    | none   => '\\' :: unescape allowed (c :: cs)
  | c :: cs => c :: unescape allowed cs
  | []      => []
termination_by cs => cs.length

/-- Cuts a value without quotes before a comment, which is a number sign after white space;
`afterBlank` tells whether white space stands before the characters. -/
def cutComment (afterBlank : Bool) : List Char → List Char
  | []      => []
  | c :: cs => if c = '#' && afterBlank then [] else c :: cutComment (Text.isBlank c) cs

/-- Reads what follows an equality sign: a value and what follows it. -/
def readValue (cs : List Char) : Option (List Char × List Char) :=
  match skipSpaces cs with
  | '\'' :: rest =>
    (closeQuote '\'' [] rest).map fun (value, rest) => (unescape (escapes.take 2) value, rest)
  | '"' :: rest  =>
    (closeQuote '"' [] rest).map fun (value, rest) => (unescape escapes value, rest)
  | rest         =>
    let spaced := rest.length < cs.length
    some (Text.stripEnd (cutComment spaced (rest.takeWhile (!isBreak ·))),
      rest.dropWhile (!isBreak ·))

/-! ### Lines -/

/-- Drops the word `export` where white space follows it. -/
def skipExport (cs : List Char) : List Char :=
  let word := "export".toList
  if word.isPrefixOf cs then
    let rest := cs.drop word.length
    let after := skipSpaces rest
    if after.length < rest.length then after else cs
  else cs

/-- Reads a name, with or without quotes; a comment has none. -/
def readName (cs : List Char) : Option (Option (List Char) × List Char) :=
  match cs with
  | '#' :: _     => some (none, cs)
  | '\'' :: rest =>
    match rest.takeWhile (· ≠ '\''), rest.dropWhile (· ≠ '\'') with
    | [], _           => none
    | _, []           => none
    | name, _ :: rest => some (some name, rest)
  | _ =>
    let inName (c : Char) : Bool := c ≠ '=' && c ≠ '#' && !Text.isBlank c
    match cs.takeWhile inName with
    | []   => none
    | name => some (some name, cs.dropWhile inName)

/-- Passes over a comment and the end of a line, where nothing else may stand. -/
def endLine (cs : List Char) : Option (List Char) :=
  let rest := match skipSpaces cs with
    | '#' :: rest => rest.dropWhile (!isBreak ·)
    | rest        => rest
  match rest with
  | []                   => some []
  | '\r' :: '\n' :: rest => some rest
  | c :: rest            => if isBreak c then some rest else none

/-- Reads a line that begins with something, and gives the lines after it. -/
def readLine (cs : List Char) : Option Binding × List Char :=
  let cs := skipExport cs
  match readName cs with
  | none => (none, skipLine cs)
  | some (name, rest) =>
    let rest := skipSpaces rest
    match rest with
    | '=' :: rest =>
      match readValue rest with
      | none => (none, skipLine rest)
      | some (value, rest) =>
        match endLine rest with
        | none       => (none, skipLine (skipComment rest))
        | some after => (bind name (some (String.ofList value)), after)
    | _ =>
      match endLine rest with
      | none       => (none, skipLine (skipComment rest))
      | some after => (bind name none, after)
where
  /-- The binding of a name, which a comment does not have. -/
  bind (name : Option (List Char)) (value : Option String) : Option Binding :=
    name.map fun name => (String.ofList name, value)
  /-- Drops a comment if one stands here. -/
  skipComment (cs : List Char) : List Char :=
    match skipSpaces cs with
    | '#' :: rest => rest.dropWhile (!isBreak ·)
    | _           => cs

/-- Reads all lines; `fuel` bounds their characters. -/
def readLines : (fuel : Nat) → List Char → List Binding
  | 0, _         => []
  | fuel + 1, cs =>
    match cs.dropWhile Text.isBlank with
    | []   => []
    | rest =>
      let (binding, after) := readLine rest
      binding.toList ++ readLines fuel after

/-! ### References -/

/-- A reference at the beginning, after its dollar sign and brace: the name, the value to take when
there is no such variable, and what follows. -/
def readReference (cs : List Char) : Option (String × String × List Char) :=
  let inName (c : Char) : Bool := c ≠ ':' && c ≠ '\x7d'
  let name := String.ofList (cs.takeWhile inName)
  match cs.dropWhile inName with
  | '\x7d' :: rest     => some (name, "", rest)
  | ':' :: '-' :: rest =>
    match rest.dropWhile (· ≠ '\x7d') with
    | []         => none
    | _ :: after => some (name, String.ofList (rest.takeWhile (· ≠ '\x7d')), after)
  | _ => none

/-- Replaces the references in a value; `fuel` bounds its characters. -/
def resolve (valueOf : String → Option String) : (fuel : Nat) → List Char → List Char
  | 0, cs              => cs
  | _ + 1, []          => []
  | fuel + 1, c :: cs  =>
    match c, cs with
    | '$', '\x7b' :: rest =>
      match readReference rest with
      | some (name, default, after) =>
        ((valueOf name).getD default).toList ++ resolve valueOf fuel after
      | none => c :: resolve valueOf fuel cs
    | _, _ => c :: resolve valueOf fuel cs

/-- Replaces the references of all values in turn, looking at earlier bindings first, then at the
environment. A later binding of a name replaces the earlier one. -/
def resolveAll (environment : List (String × String)) (bindings : List Binding) : List Binding :=
  bindings.foldl (fun done (name, value) =>
    let valueOf (name : String) : Option String :=
      match done.lookup name with
      | some value => some (value.getD "")
      | none       => environment.lookup name
    let resolved := value.map fun value =>
      String.ofList (resolve valueOf (value.length + 1) value.toList)
    if (done.lookup name).isSome then
      done.map fun binding => if binding.1 = name then (name, resolved) else binding
    else done ++ [(name, resolved)]) []

/-- Drops a byte order mark at the beginning. -/
def dropMark (cs : List Char) : List Char :=
  if cs.head?.any (·.toNat = 0xFEFF) then cs.drop 1 else cs

/-- The bindings of a text. -/
def parse (environment : List (String × String)) (text : String) : List Binding :=
  resolveAll environment (readLines (text.length + 1) (dropMark text.toList))

end Outline.Dotenv
