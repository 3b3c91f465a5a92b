import Outline.Settings.Keywords
import Outline.Settings.Options.Reading

/-!
# Options that keywords ask for

Keywords say how options are written and taken, and give the row of arguments. They are judged as
soon as there is a row or anything in its place.
-/

namespace Outline.Settings.Keywords

/-! ### Keywords one by one -/

/-- The lead of options: names with dots between them, and a dot behind them. -/
def optionLead (keywords : Keywords) : Except OptionsError String :=
  let value := keywords.get "_cli_prefix"
  match value, value.isGiven with
  | .str lead, true    =>
    let cs := lead.toList
    if cs.head? = some '.' || cs.getLast? = some '.'
        || !Text.isIdentifier (cs.filter (· ≠ '.')) then .error (.badLead lead)
    else .ok (lead ++ ".")
  | .loose _, true     => .error (.badLead value.shown)
  | _, true            => .error (.misfit (.lacks value.kindWord "startswith"))
  | .bool _, false | .int _, false | .real _, false => .error (.misfit (.noLength value.kindWord))
  | _, false           => .ok ""

/-- Marks can be doubled, unless they are an object. -/
def checkDoubling (keywords : Keywords) : Asked Unit :=
  match keywords.get "_cli_flag_prefix_char" with
  | .obj members => .error (.noDoubling (Json.obj members).kindWord)
  | _            => .ok ()

/-- The marks that options can begin with. -/
def optionMarks (keywords : Keywords) : Except OptionsError (List Char) :=
  let value := keywords.get "_cli_flag_prefix_char"
  match value, value.points? with
  | .null, _       => .ok ({} : OptionRules).marks
  | _, some []     => .error (.noMark "string")
  | _, some points => .ok (points.map Char.ofNat)
  | .arr [], _     => .error (.noMark "list")
  | .arr items, _  => .error (.badMark ((Json.arr (items.take 1)).literal ++ "h") value.literal)
  | _, none        => .error (.misfit (.noMembers value.kindWord))

/-- What is wrong with a keyword that is to be a flag. -/
def flagComplaint? (value : Json) : Option Complaint :=
  if value.isNull then none
  else
    match asFlag (ofJson value) with
    | .ok _            => none
    | .error complaint => some complaint

/-- The words that may stand for a flag about dashes. -/
def dashWords : List String := ["all", "no_enums"]

/-- The complaints about keywords that are of a wrong kind. A lead that is no text but empty comes
here. A flag about dashes is told both ways in which it could have been right. -/
def optionComplaints (keywords : Keywords) : List (List String × Complaint) :=
  let lead := keywords.get "_cli_prefix"
  let dashes := keywords.get "_cli_kebab_case"
  (if lead.isNull || lead.points?.isSome then [] else [(["arg_prefix"], .notText)])
    ++ (flagComplaint? (keywords.get "_case_sensitive")).toList.map (["case_sensitive"], ·)
    ++ (flagComplaint? (keywords.get "_cli_hide_none_type")).toList.map (["hide_none_type"], ·)
    ++ if dashes.text?.any dashWords.contains then []
      else (flagComplaint? dashes).toList.flatMap fun complaint =>
        [(["kebab_case", "bool"], complaint),
          (["kebab_case", "literal['all','no_enums']"], .notWord dashWords)]

/-- The value of an option that stands for nothing, which has to be a text where it is told. -/
def optionNull (keywords : Keywords) : Asked (Option String) :=
  let words := ["_env_parse_none_str", "_cli_parse_none_str"].map keywords.get
  match words.find? Json.isGiven with
  | none      =>
    match keywords.get "_cli_avoid_json" with
    | .bool true => .ok (some "None")
    | _          => .ok (some "null")
  | some word =>
    if word.points?.isNone && !(keywords.get "_cli_hide_none_type").isGiven then
      .error (.notJoined 1 word.kindWord)
    else .ok word.text?

/-- The other names of options. -/
def shortcuts (keywords : Keywords) : Asked (List (Text.Name × Json)) :=
  match keywords.get "_cli_shortcuts" with
  | .obj members => .ok members
  | value        => if value.isGiven then .error (.lacks value.kindWord "items") else .ok []

/-- The form of flags. -/
def flagForm (keywords : Keywords) : FlagForm :=
  match keywords.get "_cli_implicit_flags" with
  | .str "toggle" => .single
  | value         => if value.isGiven then .paired else .valued

/-! ### Together -/

/-- How options are taken. -/
def optionRules (keywords : Keywords) : Except OptionsError OptionRules := do
  keywords.checkDoubling.mapError .misfit
  let lead ← keywords.optionLead
  let marks ← keywords.optionMarks
  let complaints := keywords.optionComplaints
  if !complaints.isEmpty then throw (.rejected complaints)
  let nullWord ← keywords.optionNull.mapError .misfit
  let shortcuts ← keywords.shortcuts.mapError .misfit
  return {
    marks
    lead
    shortcuts
    nullWord
    dashed    := (keywords.get "_cli_kebab_case").isGiven
    flags     := keywords.flagForm
    exactCase :=
      match keywords.get "_case_sensitive" with
      | .null | .bool false => false
      | _                   => true
    lenient   := (keywords.get "_cli_ignore_unknown_args").isGiven
    exits     :=
      match keywords.get "_cli_exit_on_error" with
      | .null => true
      | value => value.isGiven }

/-- The settings that the row of arguments gives, if there is one. -/
def options (keywords : Keywords) : Except OptionsError Source :=
  match keywords.get "_cli_parse_args" with
  | .null => .ok []
  | value => do
    let rules ← keywords.optionRules
    let table ← rules.table
    match value with
    | .arr row         => rules.read table row
    | .bool _          => return []
    | .int _ | .real _ => if value.isGiven then throw (.notRow value.kindWord) else return []
    | _                => throw (.notRow value.kindWord)

end Outline.Settings.Keywords
