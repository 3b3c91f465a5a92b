import Outline.Language
import Outline.Supplied
import Outline.Text.Encoding

/-!
# Settings

The settings of a summary and how a supplied value becomes one of them.
-/

namespace Outline

/-- The settings of a summary. Without a language, the file name decides. -/
structure Settings where
  language : Option Language := none
  encoding : Text.Name := .text "utf-8"
  output   : OutputFormat := .text
  showTree : Bool := false
  debug    : Bool := false
  deriving DecidableEq

namespace Settings

/-- The names of the settings, in order. -/
def names : List String := ["language", "encoding", "output", "show_tree", "debug"]

/-- The words for true. -/
def trueWords : List String := ["true", "t", "yes", "y", "on", "1"]

/-- The words for false. -/
def falseWords : List String := ["false", "f", "no", "n", "off", "0"]

/-- The flag that a word in any case of letters is. -/
def flagOfWord (s : String) : Except Complaint Bool :=
  let word := s.toLower
  if trueWords.contains word then .ok true
  else if falseWords.contains word then .ok false
  else .error .unreadableFlag

/-- The flag that the number zero or one is. A number that does not fit a word of 64 bits is no
candidate. -/
def flagOfWhole (n : Int) : Except Complaint Bool :=
  if n = 1 then .ok true
  else if n = 0 then .ok false
  else if -(Nat.pow 2 63 : Int) ≤ n && n < (Nat.pow 2 63 : Int) then .error .unreadableFlag
  else .error .notFlag

/-- Reads a flag: a truth value, a word, or a whole number. -/
def asFlag : Supplied → Except Complaint Bool
  | .flag b  => .ok b
  | .text s  => flagOfWord s
  | .loose _ => .error .notUnicode
  | .whole n => flagOfWhole n
  | .real d  =>
    match d.whole? with
    | some n => flagOfWhole n
    | none   => .error .notFlag
  | .null | .compound => .error .notFlag

/-- Reads the name of an encoding. -/
def asEncoding : Supplied → Except Complaint Text.Name
  | .text s       => .ok (.text s)
  | .loose points => .ok (.loose points)
  | _             => .error .notText

/-- Reads a language, or none. -/
def asLanguage : Supplied → Except Complaint (Option Language)
  | .null    => .ok none
  | .text s  =>
    match Language.ofName? s with
    | some language => .ok (some language)
    | none          => .error (.notOneOf (Language.all.map Language.name))
  | .loose _ => .error .notUnicode
  | _        => .error (.notOneOf (Language.all.map Language.name))

/-- Reads the form of a report. -/
def asOutput : Supplied → Except Complaint OutputFormat
  | .text s  =>
    match OutputFormat.ofName? s with
    | some output => .ok output
    | none        => .error (.notOneOf (OutputFormat.all.map OutputFormat.name))
  | .loose _ => .error .notUnicode
  | _        => .error (.notOneOf (OutputFormat.all.map OutputFormat.name))

/-- Reads what was supplied for a setting, if anything was. -/
def readOr {α : Type} (read : Supplied → Except Complaint α) (default : α) :
    Option Supplied → Except Complaint α
  | none       => .ok default
  | some value => read value

/-- What is supplied for a setting. -/
def suppliedFor (values : List (Text.Name × Supplied)) (setting : String) : Option Supplied :=
  values.lookup (.text setting)

/-- The rejections of the names that no setting has. -/
def unknownNames (values : List (Text.Name × Supplied)) : List Rejection :=
  (values.filterMap (·.1.text?)).filterMap fun name =>
    if names.contains name then none else some ⟨some name, .unknownName⟩

/-- The settings that supplied values make. Every value and every name is judged; the rejections are
in the order of the settings, with the unknown names last. -/
def ofNamedValues (values : List (Text.Name × Supplied)) : Except (List Rejection) Settings :=
  let language := readOr asLanguage none (suppliedFor values "language")
  let encoding := readOr asEncoding (.text "utf-8") (suppliedFor values "encoding")
  let output   := readOr asOutput .text (suppliedFor values "output")
  let showTree := readOr asFlag false (suppliedFor values "show_tree")
  let debug    := readOr asFlag false (suppliedFor values "debug")
  let unknown  := unknownNames values
  match language, encoding, output, showTree, debug, unknown with
  | .ok language, .ok encoding, .ok output, .ok showTree, .ok debug, [] =>
    .ok { language, encoding, output, showTree, debug }
  | _, _, _, _, _, _ =>
    .error (Rejection.ofReading "language" language ++ Rejection.ofReading "encoding" encoding
      ++ Rejection.ofReading "output" output ++ Rejection.ofReading "show_tree" showTree
      ++ Rejection.ofReading "debug" debug ++ unknown)

/-- The settings that supplied values make. A name that is no text is the only thing told. -/
def ofSupplied (values : List (Text.Name × Supplied)) : Except (List Rejection) Settings :=
  if values.any (·.1.isLoose) then .error [⟨none, .notUnicode⟩] else ofNamedValues values

end Settings

end Outline
