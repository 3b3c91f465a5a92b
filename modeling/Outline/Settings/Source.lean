import Outline.Dotenv
import Outline.Files.Tree
import Outline.Json.Misfit
import Outline.Json.Reader
import Outline.Settings.Basic
import Outline.Toml.Reader

/-!
# Sources of settings

Values for settings come from keywords, environment variables, files of such variables, JSON files
and TOML files, and directories with a file for each value. The first of them that gives a name a
value decides it, and only that value is judged.
-/

namespace Outline.Settings

/-- Named values from one source, in order, each name once. -/
abbrev Source := List (Text.Name × Supplied)

/-- Puts a value in the place of the one before it or at the end. -/
def Source.put (source : Source) (name : Text.Name) (value : Supplied) : Source :=
  if (source.lookup name).isSome then
    source.map fun given => if given.1 = name then (name, value) else given
  else source ++ [(name, value)]

/-- Lays a stronger source over a weaker one: names keep the places they have in the weaker one. -/
def Source.over (strong weak : Source) : Source :=
  strong.foldl (fun merged (name, value) => merged.put name value) weak

/-- A source from values of which a name may have several; the last one counts. -/
def Source.ofPairs (pairs : List (Text.Name × Supplied)) : Source :=
  Source.over pairs []

/-! ### Named values -/

/-- Whether a name is a setting's, in any case of letters. -/
def isNameOf (setting : String) (name : Text.Name) : Bool :=
  name.text?.any (Text.lower · = setting)

/-- Named values. A name is a setting's in any case of letters; of several names of one setting the
first counts, and the others are passed over. -/
def ofNamed (pairs : List (Text.Name × Supplied)) : Source :=
  let given := Source.ofPairs pairs
  let known := names.filterMap fun setting =>
    (given.find? fun pair => isNameOf setting pair.1).map fun pair => (.text setting, pair.2)
  known ++ given.filter fun pair => !names.any (isNameOf · pair.1)

/-! ### Variables -/

/-- How variables are taken: the lead of names, whether those of settings have it, whether the case
of letters in them counts, whether an empty value is none, the value that stands for nothing, and
whether choices go by their names in capitals too. -/
structure VariableRules where
  lead      : String := "TREECTX_"
  leads     : Bool := true
  exactCase : Bool := false
  skipEmpty : Bool := false
  nullWord  : Option String := none
  capitals  : Bool := false

namespace VariableRules

/-- The form in which a variable's name is compared. -/
def key (rules : VariableRules) (name : String) : String :=
  if rules.exactCase then name else Text.lower name

/-- The name of a setting's variable in that form. -/
def nameOf (rules : VariableRules) (setting : String) : String :=
  rules.key (if rules.leads then rules.lead ++ setting else setting)

/-- Whether a value counts. -/
def keeps (rules : VariableRules) (value : Option String) : Bool :=
  !(rules.skipEmpty && value = some "")

/-- The names of the choices that a setting has. -/
def choices (setting : String) : List String :=
  if setting = "language" then Language.all.map Language.name
  else if setting = "output" then OutputFormat.all.map OutputFormat.name
  else []

/-- What the value of a setting's variable supplies. -/
def supply (rules : VariableRules) (setting value : String) : Supplied :=
  let choice? := if rules.capitals then (choices setting).find? (·.toUpper = value) else none
  match choice? with
  | some choice => .text choice
  | none        => if rules.nullWord = some value then .null else .text value

end VariableRules

/-- Environment variables: those whose names are a lead and a setting's name. Of several names that
compare as one the last counts. -/
def ofEnvironment (rules : VariableRules) (environment : List (String × String)) : Source :=
  let kept := environment.filter fun (_, value) => rules.keeps (some value)
  names.filterMap fun setting =>
    (kept.reverse.find? fun (name, _) => rules.key name = rules.nameOf setting).map
      fun (_, value) => (.text setting, rules.supply setting value)

/-- Puts a binding in the place of the one before it or at the end. -/
def putBinding (bindings : List Dotenv.Binding) (binding : Dotenv.Binding) :
    List Dotenv.Binding :=
  if (bindings.lookup binding.1).isSome then
    bindings.map fun given => if given.1 = binding.1 then binding else given
  else bindings ++ [binding]

/-- The bindings of all files that count, by the names in which they are compared. -/
def gather (rules : VariableRules) (files : List (List Dotenv.Binding)) : List Dotenv.Binding :=
  let kept := files.flatten.filter fun (_, value) => rules.keeps value
  kept.foldl (fun done (name, value) => putBinding done (rules.key name, value)) []

/-- Variables of files: as those of the environment, but a variable of another name is a value too
unless it is empty or, where a lead is asked for, a setting's name without it. -/
def ofBindings (rules : VariableRules) (files : List (List Dotenv.Binding)) : Source :=
  let bindings := gather rules files
  let known : Source := names.filterMap fun setting =>
    match bindings.lookup (rules.nameOf setting) with
    | some (some value) => some (.text setting, rules.supply setting value)
    | _                 => none
  let others : Source := bindings.filterMap fun (name, value) =>
    match value with
    | none       => none
    | some value =>
      if value = "" || (suppliedFor known name).isSome
        || (rules.lead ≠ "" && names.contains name)
        || names.any (rules.nameOf · = name) then none
      else some (.text name, .text value)
  known ++ others

/-! ### Values of files -/

/-- What a JSON value is as a supplied one. -/
def ofJson : Json → Supplied
  | .null         => .null
  | .bool b       => .flag b
  | .int n        => .whole n
  | .real d       => .real d
  | .str s        => .text s
  | .loose points => .loose points
  | .arr _        => .compound
  | .obj _        => .compound

/-- What a TOML value is as a supplied one. -/
def ofToml : Toml.Value → Supplied
  | .str s   => .text s
  | .int n   => .whole n
  | .real d  => .real d
  | .bool b  => .flag b
  | .moment  => .compound
  | .array _ => .compound
  | .table _ => .compound

/-- The names and values of a TOML table. -/
def tableValues (table : Toml.Table) : List (Text.Name × Supplied) :=
  table.map fun (name, value) => (.text name, ofToml value)

/-! ### Pairs of names and values -/

/-- Why a JSON value gives no names with values. -/
inductive PairsError where
  | notSequence (kind : String)
  | notPair (index : Nat)
  | wrongLength (index length : Nat)
  | noKey (kind : String)
  | noName (kind : String)
  deriving DecidableEq

/-- The wording of such an error. -/
def PairsError.message : PairsError → String
  | .notSequence kind => s!"'{kind}' object is not iterable"
  | .notPair index    =>
    s!"cannot convert dictionary update sequence element #{index} to a sequence"
  | .wrongLength index length =>
    s!"dictionary update sequence element #{index} has length {length}; 2 is required"
  | .noKey kind       => s!"unhashable type: '{kind}'"
  | .noName kind      => s!"'{kind}' object has no attribute 'lower'"

/-- The key and the value that a pair at an index is. -/
def pairAt (item : Json) (index : Nat) : Except PairsError (Json × Json) :=
  match item.parts? with
  | none              => .error (.notPair index)
  | some [key, value] =>
    match key with
    | .arr _ | .obj _ => .error (.noKey key.kindWord)
    | _               => .ok (key, value)
  | some parts        => .error (.wrongLength index parts.length)

/-- The keys and values of a JSON value: the members of an object, or pairs. -/
def keyedValues (value : Json) : Except PairsError (List (Json × Json)) :=
  match value, value.parts? with
  | .obj members, _   => .ok (members.map fun (name, value) => (.ofName name, value))
  | _, none           => .error (.notSequence value.kindWord)
  | _, some items     => items.zipIdx.mapM fun (item, index) => pairAt item index

/-- The name that a key is. -/
def keyName : Json → Except PairsError Text.Name
  | .str name     => .ok name
  | .loose points => .ok (.loose points)
  | key           => .error (.noName key.kindWord)

/-- The names and values of keys and values. -/
def namedValues (pairs : List (Json × Json)) :
    Except PairsError (List (Text.Name × Supplied)) :=
  pairs.mapM fun (key, value) => do return (← keyName key, ofJson value)

end Outline.Settings
