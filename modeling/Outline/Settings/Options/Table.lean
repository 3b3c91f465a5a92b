import Outline.Settings.Options.Fault
import Outline.Settings.Source

/-!
# The options there are

Every setting has an option with its name, and more by shortcuts. A name that an earlier setting has
taken is passed over, and a setting with no name left has no option. Two options that are written
alike are a conflict.
-/

namespace Outline.Settings

/-- What becomes of the options of flags: they take a value like the others, they stand alone and
come in pairs of which one denies, or they stand alone. -/
inductive FlagForm where
  | valued
  | paired
  | single
  deriving DecidableEq

/-- How options are written and taken: the marks that can begin them, the lead of their names,
whether dashes stand for underscores in names, other names beside names, the form of flags, whether
the case of letters in options counts, the value that stands for nothing, whether what is left over
is passed over, and whether a fault ends the run. -/
structure OptionRules where
  marks     : List Char := ['-']
  lead      : String := ""
  dashed    : Bool := false
  shortcuts : List (Text.Name × Json) := []
  flags     : FlagForm := .valued
  exactCase : Bool := false
  nullWord  : Option String := some "null"
  lenient   : Bool := false
  exits     : Bool := true

/-- What an option does. -/
inductive OptionUse where
  | value (setting : String)
  | flag (setting : String) (on : Bool)
  | help
  deriving DecidableEq

/-- Whether an option needs a value. -/
def OptionUse.takesValue : OptionUse → Bool
  | .value _ => true
  | _        => false

/-- Options with what they do, and the marks that can begin one. -/
structure OptionTable where
  marks   : List Char
  options : List (String × OptionUse)

namespace OptionTable

/-- What the option does that code points are. -/
def find? (table : OptionTable) (points : List Nat) : Option OptionUse :=
  (Text.Name.ofPoints points).text?.bind fun option => table.options.lookup option

/-- Whether a code point is a mark. -/
def isMark (table : OptionTable) (point : Nat) : Bool :=
  table.marks.any (·.toNat = point)

end OptionTable

/-- The settings that are flags. -/
def flagNames : List String := ["show_tree", "debug"]

/-- The option that denies a flag; only options with two dashes have one. -/
def denial? (option : String) : Option String :=
  match option.toList with
  | '-' :: '-' :: name => some ("--no-" ++ String.ofList name)
  | _                  => none

/-- The names that a shortcut gives: one, or the items or names in it. -/
def shortcutNames : Json → Asked (List Json)
  | .str name     => .ok [.str name]
  | .loose points => .ok [.loose points]
  | value         =>
    match value.parts? with
    | some parts => .ok parts
    | none       => .error (.noItems value.kindWord)

namespace OptionRules

/-! ### Names -/

/-- The name of a setting in its option. -/
def nameOf (rules : OptionRules) (setting : String) : String :=
  let name := rules.lead ++ setting
  if rules.dashed then name.map fun c => if c = '_' then '-' else c else name

/-- Names with those of the shortcuts that lead to one of them, but for names that are taken. -/
def withShortcuts (taken : List String) : List (Text.Name × Json) → List Json → Asked (List Json)
  | [], names                      => .ok names
  | (target, given) :: rest, names =>
    if (names.filterMap Json.text?).any (.text · = target) then do
      let more ← shortcutNames given
      withShortcuts taken rest
        (names ++ more.filter fun name => !name.text?.any taken.contains)
    else withShortcuts taken rest names

/-- The names of a setting's options. -/
def namesOf (rules : OptionRules) (taken : List String) (setting : String) : Asked (List Json) :=
  let name := rules.nameOf setting
  withShortcuts taken rules.shortcuts (if taken.contains name then [] else [.str name])

/-! ### Options -/

/-- An option: all marks twice and a name, or the first mark and a name of length one. -/
def markedName (rules : OptionRules) (length : Nat) (name : String) : String :=
  let marks := if length = 1 then rules.marks.take 1 else rules.marks ++ rules.marks
  String.ofList marks ++ name

/-- The option of a name. A row of items goes by the text that shows it. -/
def optionOf (rules : OptionRules) (name : Json) : Asked String :=
  match name, name.parts? with
  | .str text, _     => .ok (rules.markedName text.length text)
  | .loose points, _ =>
    .ok (rules.markedName points.length (String.ofList (points.map Char.ofNat)))
  | _, some parts    => .ok (rules.markedName parts.length name.literal)
  | _, none          => .error (.noLength name.kindWord)

/-- The options of a setting that are written in certain ways, and those that deny them. A flag is
off where the option begins as one that denies. -/
def usesOf (rules : OptionRules) (setting : String) (written : List String) :
    List (String × OptionUse) :=
  match flagNames.contains setting, rules.flags with
  | true, .single => written.map (·, .flag setting true)
  | true, .paired =>
    (written.flatMap fun option => option :: (denial? option).toList).map fun option =>
      (option, .flag setting (!"--no-".toList.isPrefixOf option.toList))
  | _, _          => written.map (·, .value setting)

/-- The options that ask for help. -/
def helpOptions (rules : OptionRules) : List (String × OptionUse) :=
  let twice := rules.marks ++ rules.marks
  [(String.ofList (twice.take 1) ++ "h", .help), (String.ofList (twice.take 2) ++ "help", .help)]

/-- Adds the options of settings one by one to those there are. -/
def addOptions (rules : OptionRules) (taken : List String) (options : List (String × OptionUse)) :
    List String → Except OptionsError (List (String × OptionUse))
  | []              => .ok options
  | setting :: rest => do
    let names ← (rules.namesOf taken setting).mapError .misfit
    if names.isEmpty || taken.contains (rules.lead ++ setting) then
      rules.addOptions taken options rest
    else
      let written ← (names.mapM rules.optionOf).mapError .misfit
      let uses := rules.usesOf setting written
      let clashing := (uses.map (·.1)).filter fun option => (options.lookup option).isSome
      if clashing.isEmpty then
        rules.addOptions (taken ++ names.filterMap Json.text?) (options ++ uses) rest
      else throw (.conflict (uses.map (·.1)) clashing)

/-- All options. -/
def table (rules : OptionRules) : Except OptionsError OptionTable := do
  return ⟨rules.marks, ← rules.addOptions [] rules.helpOptions names⟩

end OptionRules

end Outline.Settings
