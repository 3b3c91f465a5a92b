import Outline.Settings.Search

/-!
# Loading settings

All sources together, read from a file system and an environment.
-/

namespace Outline.Settings

/-- Why settings cannot be loaded. -/
inductive LoadError where
  | rejected (rejections : List Rejection)
  | badJson
  | badToml
  | tooManyDigits (count : Nat)
  | badPairs (error : PairsError)
  | read (error : Files.ReadError)
  | noHome
  | misfit (wrong : Misfit)
  | unread (setting source : String)
  | notDirectory
  | options (error : OptionsError)
  | givenTwice (name : String)
  | receiverGiven (name : String)
  deriving DecidableEq

/-- The line of a rejection. -/
def rejectionLine (rejection : Rejection) : String :=
  match rejection.name with
  | some name => s!"{name}: {rejection.complaint.message}"
  | none      => rejection.complaint.message

/-- The wording of a load error. -/
def LoadError.message : LoadError → String
  | .rejected rejections   => String.intercalate "\n" (rejections.map rejectionLine)
  | .badJson               => "The JSON file of settings cannot be read"
  | .badToml               => "The TOML file of settings cannot be read"
  | .tooManyDigits count   => tooManyDigitsMessage count
  | .badPairs error        => error.message
  | .read error            => error.message
  | .noHome                => "Could not determine home directory."
  | .misfit wrong          => wrong.message
  | .unread setting source =>
    s!"error getting value for field \"{setting}\" from source \"{source}\""
  | .notDirectory          => "secrets_dir must reference a directory, not a file"
  | .options error         => error.message
  | .givenTwice name       =>
    s!"treectx.cli.load_settings() got multiple values for keyword argument '{name}'"
  | .receiverGiven name    =>
    s!"BaseSettings.__init__() got multiple values for argument '{name}'"

/-- What a fault of a format is as a load error. -/
def LoadError.ofFault (malformed : LoadError) : ReadFault → LoadError
  | .malformed           => malformed
  | .tooManyDigits count => .tooManyDigits count

/-- What a run can see of the world: files, the names in directories, environment variables, and
whose homes there are. -/
structure Surroundings extends Files.Access where
  namesIn     : String → List String
  environment : List (String × String)
  isAccount   : String → Bool

/-! ### Files -/

/-- A path with the home directory put in, none when it leads out of sight. -/
def resolvePath (around : Surroundings) (asked : Asked String) :
    Except LoadError (Option String) := do
  let path ← asked.mapError .misfit
  match Files.expandHome (around.environment.lookup "HOME") around.isAccount path with
  | .noHome        => throw .noHome
  | .nullInAccount => throw (.read .nullInPath)
  | .elsewhere     => return none
  | .path path     => return if Files.hasNull path then none else some path

/-- The bytes of a file that is there. -/
def bytesOf (around : Surroundings) (asked : Asked String) :
    Except LoadError (Option (List UInt8)) := do
  match ← resolvePath around asked with
  | none      => return none
  | some path =>
    match around.lookup path with
    | .file bytes => return some bytes
    | .tooLong    => throw (.read (.tooLong path))
    | _           => return none

/-- Reads a file of environment variables. -/
def readEnvFile (codecs : Text.Codecs) (environment : List (String × String))
    (encoding : Asked Text.Name) (bytes : List UInt8) :
    Except LoadError (List Dotenv.Binding) := do
  let encoding ← encoding.mapError .misfit
  let encoding ← (Files.encodingText encoding).mapError .read
  let text ← (Files.readNamed codecs encoding bytes).mapError .read
  return Dotenv.parse environment text

/-- The variables of the files that are there, each file read before the next is looked for. -/
def readEnvFiles (around : Surroundings) (search : Search) :
    List (Asked String) → Except LoadError (List (List Dotenv.Binding))
  | []            => .ok []
  | asked :: rest => do
    match ← bytesOf around asked with
    | none       =>
      search.envDepth.mapError .misfit
      readEnvFiles around search rest
    | some bytes =>
      let bindings ← readEnvFile around.codecs around.environment search.envEncoding bytes
      return bindings :: (← readEnvFiles around search rest)

/-- What is read from the files that are there, after all of them have been looked for. -/
def readPresent {α : Type} (around : Surroundings) (read : List UInt8 → Except LoadError α)
    (files : List (Asked String)) : Except LoadError (List α) := do
  let found ← files.mapM (bytesOf around)
  (found.filterMap id).mapM read

/-- Reads a JSON file; one that holds nothing but white space gives no values. -/
def readJsonFile (bytes : List UInt8) : Except LoadError (List (Json × Json)) := do
  let text ← (Files.readBytes Text.Encoding.utf8.decode bytes).mapError (.read ∘ .undecodable)
  if Text.strip text = "" then return []
  else
    let value ← (Json.parse text).mapError (.ofFault .badJson)
    (keyedValues value).mapError .badPairs

/-- Reads a TOML file, whose line breaks are its own matter. -/
def readTomlFile (bytes : List UInt8) : Except LoadError (List (Text.Name × Supplied)) := do
  let text ← (Text.Encoding.utf8.decode bytes).mapError (.read ∘ .undecodable)
  return tableValues (← (Toml.parse text).mapError (.ofFault .badToml))

/-- The values of JSON files; of several values of a name the last counts. -/
def readJsonFiles (around : Surroundings) (files : List (Asked String)) :
    Except LoadError Source := do
  let pairs ← readPresent around readJsonFile files
  return ofNamed (← (namedValues pairs.flatten).mapError .badPairs)

/-- The values of TOML files; of several values of a name the last counts. -/
def readTomlFiles (around : Surroundings) (files : List (Asked String)) :
    Except LoadError Source := do
  return ofNamed (← readPresent around readTomlFile files).flatten

/-! ### Directories of values -/

/-- The directories that are there. -/
def secretDirectories (around : Surroundings) (asked : List (Asked String)) :
    Except LoadError (List String) := do
  let paths ← asked.mapM (resolvePath around)
  let found ← (paths.filterMap id).filterMapM fun path =>
    match around.lookup path with
    | .missing | .notDirectory => .ok none
    | .tooLong                 => .error (.read (.tooLong path))
    | .directory               => .ok (some (path, true))
    | .file _                  => .ok (some (path, false))
  if found.all (·.2) then return found.map (·.1) else throw .notDirectory

/-- The bytes of a setting's file in a directory. -/
def secretIn (around : Surroundings) (rules : VariableRules) (setting directory : String) :
    Option (List UInt8) := do
  let name ← (around.namesIn directory).find? fun name =>
    rules.key name = rules.nameOf setting
  match around.lookup (Files.plain (directory ++ "/" ++ name)) with
  | .file bytes => some bytes
  | _           => none

/-- The values in directories, a file for each; of several directories the last counts. -/
def readSecrets (around : Surroundings) (rules : VariableRules) (asked : List (Asked String)) :
    Except LoadError Source := do
  let directories ← secretDirectories around asked
  names.filterMapM fun setting =>
    match directories.reverse.findSome? (secretIn around rules setting) with
    | none       => .ok none
    | some bytes =>
      match Files.readBytes Text.Encoding.utf8.decode bytes with
      | .ok text => .ok (some (.text setting, .text (Text.strip text)))
      | .error _ => .error (.unread setting "SecretsSettingsSource")

/-! ### All sources -/

/-- Sources in order, the strongest first, as one. -/
def merge (sources : List Source) : Source :=
  sources.foldr Source.over []

/-- The settings of named values and everything they are laid over. Only options are stronger. -/
def load (around : Surroundings) (search : Search) (values : List (Text.Name × Supplied)) :
    Except LoadError Settings := do
  let bindings ← readEnvFiles around search search.envFiles
  let jsonFiles ← readJsonFiles around search.jsonFiles
  let tomlFiles ← readTomlFiles around search.tomlFiles
  let options ← search.options.mapError .options
  match search.rules with
  | .error .noJoining      => throw (.unread "language" "EnvSettingsSource")
  | .error (.misfit wrong) => throw (.misfit wrong)
  | .ok rules              =>
    let secrets ← readSecrets around rules search.secrets
    let sources := [options, ofNamed values, ofEnvironment rules around.environment,
      ofBindings rules bindings, jsonFiles, tomlFiles, secrets]
    (ofSupplied (merge sources)).mapError .rejected

/-! ### Requests -/

/-- The name by which settings refer to themselves, which no value can have. -/
def receiverName : String := "__pydantic_self__"

/-- Sources that are handed in ready-made are two things, the sources and more. A value is no
source, so only none of them will do. -/
def checkReadyMade (value : Json) : Asked Unit := do
  match value.parts? with
  | none       => throw (.noParts value.kindWord)
  | some parts =>
    let (sources, _) ← Json.pairOf parts
    match sources.isGiven, sources.parts? with
    | true, none              => throw (.noItems sources.kindWord)
    | true, some (source :: _) => throw (.noCall source.kindWord)
    | _, _                    => return ()

/-- The settings of keywords, some of which say how settings are looked for. The search begins in
places. -/
def ofKeywords (around : Surroundings) (places keywords : Keywords) : Except LoadError Settings :=
  if (keywords.lookup (.text receiverName)).isSome then .error (.receiverGiven receiverName)
  else if (keywords.get "_build_sources").isNull then do
    let (how, values) := keywords.partition fun keyword =>
      keyword.1.text?.any searchKeywords.contains
    let search ← (Keywords.search (places ++ how)).mapError .misfit
    load around search (values.map fun (name, value) => (name, ofJson value))
  else do
    (checkReadyMade (keywords.get "_build_sources")).mapError .misfit
    return {}

/-- The settings of two rows of keywords, some of which say where settings are looked for. None may
be given twice. -/
def request (around : Surroundings) (first second : Keywords) : Except LoadError Settings :=
  let twice := second.find? fun keyword => (first.lookup keyword.1).isSome
  match twice.bind (·.1.text?) with
  | some name => .error (.givenTwice name)
  | none      =>
    let (places, rest) := (first ++ second).partition fun keyword =>
      keyword.1.text?.any placeKeywords.contains
    ofKeywords around places rest

end Outline.Settings
