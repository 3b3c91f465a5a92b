import Outline.Settings.Options.Asked

/-!
# How settings are looked for

Keywords say which files and directories are read for settings and how variables and options are
taken. A value that is not of the kind a keyword asks for does harm only where it is used, so it is
kept until then as what is wrong with it.
-/

namespace Outline.Settings

/-- Why no variable of a setting can be named: the lead cannot be joined to a name, or cannot be
compared. -/
inductive LeadFault where
  | noJoining
  | misfit (wrong : Misfit)
  deriving DecidableEq

/-- How settings are looked for. `envDepth` is about the directories above, in which a file of
variables is looked for that is missing. -/
structure Search where
  rules       : Except LeadFault VariableRules := .ok {}
  envFiles    : List (Asked String) := []
  envEncoding : Asked Text.Name := .ok "utf8"
  envDepth    : Asked Unit := .ok ()
  jsonFiles   : List (Asked String) := []
  tomlFiles   : List (Asked String) := []
  secrets     : List (Asked String) := []
  options     : Except OptionsError Source := .ok []

/-! ### Paths -/

/-- The path that an item is; `misfit` is what is wrong with one that is no text. -/
def askedPath (misfit : String → Misfit) : Json → Asked String
  | .str path => .ok path
  | item      => .error (misfit item.kindWord)

/-- The paths that a value is: one, or the items or names in it. -/
def askedPaths : Json → List (Asked String)
  | .null        => []
  | .str path    => [.ok path]
  | .arr items   => items.map (askedPath .notPath)
  | .obj members => (members.map (·.1)).eraseDups.map fun name => askedPath .notPath (.ofName name)
  | value        => [.error (.noItems value.kindWord)]

/-- The paths of files that a value is: one, or the items in it. -/
def askedFiles (value : Json) : List (Asked String) :=
  match value with
  | .arr items => items.map (askedPath (.lacks · "is_file"))
  | _          => if value.isGiven then [askedPath (.lacks · "is_file") value] else []

/-! ### Keywords -/

/-- The keywords that say where settings are looked for. -/
def placeKeywords : List String := ["env_prefix", "env_file", "toml_file", "json_file"]

/-- The keywords that say how settings are looked for, and that may stand among the settings. Those
of the last rows are taken and have no effect. -/
def searchKeywords : List String :=
  ["_env_prefix", "_env_prefix_target", "_case_sensitive", "_env_ignore_empty",
    "_env_parse_none_str", "_env_parse_enums", "_env_nested_max_split", "_env_file",
    "_env_file_encoding", "_env_file_depth", "_secrets_dir", "_build_sources"] ++
  ["_cli_parse_args", "_cli_prefix", "_cli_flag_prefix_char", "_cli_parse_none_str",
    "_cli_avoid_json", "_cli_exit_on_error", "_cli_implicit_flags", "_cli_ignore_unknown_args",
    "_cli_kebab_case", "_cli_shortcuts", "_cli_hide_none_type"] ++
  ["_env_nested_delimiter", "_nested_model_default_partial_update", "_cli_prog_name",
    "_cli_settings_source", "_cli_enforce_required", "_cli_use_class_docs_for_groups",
    "_cli_show_env_vars"]

namespace Keywords

/-! ### Variables -/

/-- The lead of variables that is asked for. -/
def lead (keywords : Keywords) : Json :=
  match keywords.get "_env_prefix" with
  | .null =>
    match keywords.get "env_prefix" with
    | .null => .str ({} : VariableRules).lead
    | value => value
  | value => value

/-- Whether the variables of settings have the lead. -/
def leads (keywords : Keywords) : Bool :=
  match keywords.get "_env_prefix_target" with
  | .null | .str "variable" | .str "all" => true
  | _                                    => false

/-- A lead has to have a length. -/
def checkLead (keywords : Keywords) : Asked Unit :=
  match keywords.lead with
  | .str _ | .loose _ | .arr _ | .obj _ => .ok ()
  | value                               => .error (.noLength value.kindWord)

/-- How variables are taken. A lead that is no text does harm where it is joined to a name or put
into lower case. -/
def variableRules (keywords : Keywords) : Except LeadFault VariableRules :=
  let rules : VariableRules :=
    { leads     := keywords.leads
      exactCase := (keywords.get "_case_sensitive").isGiven
      skipEmpty := (keywords.get "_env_ignore_empty").isGiven
      nullWord  := keywords.text? "_env_parse_none_str"
      capitals  := (keywords.get "_env_parse_enums").isGiven }
  match keywords.lead with
  | .str lead => .ok { rules with lead }
  | value     =>
    if rules.leads then .error .noJoining
    else if rules.exactCase then
      .ok { rules with lead := if value.isGiven then value.shown else "" }
    else .error (.misfit (.lacks value.kindWord "lower"))

/-- How often a variable's name may be divided, which has to be a number. -/
def checkDivisions (keywords : Keywords) : Asked Unit :=
  let value := keywords.get "_env_nested_max_split"
  match value with
  | .str _ | .loose _ | .arr _ | .obj _ =>
    if value.isGiven then .error (.noDifference value.kindWord) else .ok ()
  | _ => .ok ()

/-- The encoding of files of variables. -/
def envEncoding (keywords : Keywords) : Asked Text.Name :=
  match keywords.get "_env_file_encoding" with
  | .null         => ({} : Search).envEncoding
  | .loose points => .ok (.loose points)
  | .str name     => .ok name
  | value         => .error (.notEncoding value.kindWord)

/-- How many directories above are searched for a file of variables, which has to be a number. -/
def envDepth (keywords : Keywords) : Asked Unit :=
  let value := keywords.get "_env_file_depth"
  match value with
  | .str _ | .loose _ | .arr _ | .obj _ => .error (.noOrder "<=" value.kindWord)
  | _                                   => .ok ()

/-! ### Together -/

/-- The search that keywords ask for. -/
def search (keywords : Keywords) : Asked Search := do
  keywords.checkDivisions
  keywords.checkLead
  let envFile := (keywords.lookup (.text "_env_file")).getD (keywords.get "env_file")
  return {
    rules       := keywords.variableRules
    envFiles    := askedPaths envFile
    envEncoding := keywords.envEncoding
    envDepth    := keywords.envDepth
    jsonFiles   := askedFiles (keywords.get "json_file")
    tomlFiles   := askedFiles (keywords.get "toml_file")
    secrets     := askedPaths (keywords.get "_secrets_dir")
    options     := keywords.options }

end Keywords

end Outline.Settings
