import Outline.Proofs.Command.Output
import Outline.Proofs.Settings.Precedence
import Outline.Proofs.Settings.References

/-!
# Shadowed values

A value that a stronger source shadows is without effect, whatever it is. Only a variable of the
environment can make itself felt in another way, where a file of variables refers to it. On the
command line the strongest source is the row of options as they were given.
-/

namespace Outline

namespace Settings

/-! ### Another environment -/

section

variable {environment : List (String × String)} {around : Surroundings} {places : Places}

/-- The text of the file of variables, if it can be read. -/
def Places.envText? (places : Places) (around : Surroundings) : Option String := do
  let path ← places.envFile
  let bytes ← (bytesOf around (.ok path)).toOption.join
  (Files.readNamed around.codecs "utf8" bytes).toOption

/-- The variables of the environment that are looked up where places are read: that of the home
directory, and those for which the file of variables asks. -/
def Places.lookedUp (places : Places) (around : Surroundings) : List String :=
  "HOME" :: (places.envText? around).toList.flatMap Dotenv.asked

lemma bytesOf_congr (h : environment.lookup "HOME" = around.environment.lookup "HOME") :
    bytesOf { around with environment } = bytesOf around := by
  funext asked
  simp only [bytesOf, resolvePath, h]

lemma readEnvFile_congr {bytes : List UInt8}
    (h : ∀ name ∈ (Files.readNamed around.codecs "utf8" bytes).toOption.toList.flatMap Dotenv.asked,
      environment.lookup name = around.environment.lookup name) :
    readEnvFile around.codecs environment (.ok "utf8") bytes =
      readEnvFile around.codecs around.environment (.ok "utf8") bytes := by
  have hname : Files.encodingText (.text "utf8") = .ok "utf8" := by decide +kernel
  simp only [readEnvFile, Except.mapError, bind, Except.bind, hname]
  cases htext : Files.readNamed around.codecs "utf8" bytes with
  | error error => rfl
  | ok text =>
    have hasked : ∀ name ∈ Dotenv.asked text,
        environment.lookup name = around.environment.lookup name := by
      simpa [htext, Except.toOption] using h
    simp only [Dotenv.parse_congr hasked]

lemma readEnvFiles_congr {search : Search} {files : List (Asked String)}
    (hbytes : bytesOf { around with environment } = bytesOf around)
    (hread : ∀ asked ∈ files, ∀ bytes, bytesOf around asked = .ok (some bytes) →
      readEnvFile around.codecs environment search.envEncoding bytes =
        readEnvFile around.codecs around.environment search.envEncoding bytes) :
    readEnvFiles { around with environment } search files = readEnvFiles around search files := by
  induction files with
  | nil => rfl
  | cons asked rest ih =>
    have hrest := ih fun other hother => hread other (List.mem_cons_of_mem _ hother)
    rw [readEnvFiles, readEnvFiles, hbytes]
    cases hasked : bytesOf around asked with
    | error error => simp only [bind, Except.bind]
    | ok found =>
      cases found with
      | none => simp only [bind, Except.bind, hrest]
      | some bytes =>
        simp only [bind, Except.bind, hread asked List.mem_cons_self bytes hasked, hrest]

/-- Places hold the same in an environment that has the same for what is looked up there. -/
lemma Places.Hold.of_environment {held : Held} (hold : places.Hold around held)
    (h : ∀ name ∈ places.lookedUp around,
      environment.lookup name = around.environment.lookup name) :
    places.Hold { around with environment } held := by
  have hbytes := bytesOf_congr (h "HOME" List.mem_cons_self)
  refine ⟨?_, ?_, ?_⟩
  · rw [← hold.bindings]
    refine readEnvFiles_congr hbytes fun asked hasked bytes hfound => ?_
    cases hfile : places.envFile with
    | none =>
      rw [search, hfile] at hasked
      cases hasked
    | some path =>
      rw [search, hfile] at hasked
      cases List.mem_singleton.mp hasked
      refine readEnvFile_congr fun name hname => h name (List.mem_cons_of_mem _ ?_)
      simpa [envText?, hfile, hfound, Except.toOption] using hname
  · rw [← hold.json]
    simp only [readJsonFiles, readPresent, hbytes]
  · rw [← hold.toml]
    simp only [readTomlFiles, readPresent, hbytes]

end

namespace Occasion

/-- An occasion in another environment, which has the same for what is looked up. -/
def inEnvironment (occasion : Occasion) (environment : List (String × String))
    (h : ∀ name ∈ occasion.places.lookedUp occasion.around,
      environment.lookup name = occasion.around.environment.lookup name) : Occasion where
  around   := { occasion.around with environment }
  places   := occasion.places
  keywords := occasion.keywords
  held     := occasion.held
  hold     := occasion.hold.of_environment h
  known    := by
    have hknown := occasion.known
    simp only [Settings.sources, List.forall_mem_cons, ofEnvironment_eq] at hknown ⊢
    exact ⟨hknown.1, Source.known_inTurn, hknown.2.2⟩

/-- A variable that named values shadow and no file refers to is without effect. -/
lemma request_of_environment (occasion : Occasion) {environment : List (String × String)}
    (hsame : ∀ name ∈ occasion.places.lookedUp occasion.around,
      environment.lookup name = occasion.around.environment.lookup name)
    (hshadowed : ∀ setting ∈ names,
      (suppliedFor (ofNamed occasion.keywords.values) setting).isSome ∨
        lastVariable occasion.places.variableLead environment setting =
          lastVariable occasion.places.variableLead occasion.around.environment setting) :
    request { occasion.around with environment } occasion.places.keywords occasion.keywords =
      occasion.result := by
  change (occasion.inEnvironment environment hsame).result = occasion.result
  refine result_congr fun setting hsetting => .of_shadowed [_] _ ?_
  rcases hshadowed setting hsetting with hgiven | hvariable
  · left
    simpa [deciding] using hgiven
  · right
    rw [suppliedFor_ofEnvironment _ _ hsetting, suppliedFor_ofEnvironment _ _ hsetting]
    exact congrArg _ hvariable.symm

end Occasion

end Settings

namespace Command

open Settings

/-! ### Options -/

/-- The setting of an option. -/
def GivenOption.setting? : GivenOption → Option String
  | .value option _  => some option.setting
  | .switch option _ => some option.setting
  | .help            => none

/-- What an option gives to its setting. -/
def GivenOption.supplied? : GivenOption → Option Supplied
  | .value _ text => some (.text text)
  | .switch _ on  => some (.flag on)
  | .help         => none

/-- What the last option of a setting gives it. -/
def optionFor (options : List GivenOption) (setting : String) : Option Supplied :=
  options.reverse.findSome? fun given =>
    if given.setting? = some setting then given.supplied? else none

lemma optionFor_value (options : List GivenOption) (option : ValueOption) :
    optionFor options option.setting = (lastValue options option).map .text := by
  rw [optionFor, lastValue, List.map_findSome?]
  congr 1
  funext given
  cases given with
  | value other text =>
    cases option <;> cases other <;>
      simp [GivenOption.setting?, GivenOption.supplied?, ValueOption.setting]
  | switch other on =>
    cases option <;> cases other <;>
      simp [GivenOption.setting?, ValueOption.setting, SwitchOption.setting]
  | help => rfl

lemma optionFor_switch (options : List GivenOption) (option : SwitchOption) :
    optionFor options option.setting = (lastState options option).map .flag := by
  rw [optionFor, lastState, List.map_findSome?]
  congr 1
  funext given
  cases given with
  | value other text =>
    cases option <;> cases other <;>
      simp [GivenOption.setting?, ValueOption.setting, SwitchOption.setting]
  | switch other on =>
    cases option <;> cases other <;>
      simp [GivenOption.setting?, GivenOption.supplied?, SwitchOption.setting]
  | help => rfl

/-- The values that options override are what the last option of each setting gives. -/
lemma overrides_eq (options : List GivenOption) :
    overrides options = Source.inTurn (optionFor options) names := by
  have hlanguage := optionFor_value options .language
  have hencoding := optionFor_value options .encoding
  have houtput := optionFor_value options .output
  have htree := optionFor_switch options .tree
  have hdebug := optionFor_switch options .debug
  simp only [ValueOption.setting, SwitchOption.setting] at hlanguage hencoding houtput htree hdebug
  simp only [names, Source.inTurn_cons, hlanguage, hencoding, houtput, htree, hdebug]
  simp [overrides, Source.inTurn, ValueOption.setting, SwitchOption.setting, Option.toList_map,
    Function.comp_def]

lemma known_overrides (options : List GivenOption) : Source.Known (overrides options) := by
  rw [overrides_eq]
  exact Source.known_inTurn

lemma suppliedFor_overrides (options : List GivenOption) {setting : String}
    (hsetting : setting ∈ names) :
    suppliedFor (ofNamed (overrides options)) setting = optionFor options setting := by
  rw [suppliedFor_ofNamed (known_overrides options) hsetting, overrides_eq,
    lookup_reverse Source.nodup_inTurn, Source.lookup_inTurn, if_pos hsetting]

/-- The keyword's value that an option's is. -/
def keywordOf : Supplied → Json
  | .text text => .str text
  | .flag on   => .bool on
  | _          => .null

/-- The keywords that options are. -/
def keywords (options : List GivenOption) : Keywords :=
  (overrides options).map fun (name, value) => (name, keywordOf value)

lemma values_keywords (options : List GivenOption) :
    (keywords options).values = overrides options := by
  have hvalue : ∀ given ∈ overrides options, ofJson (keywordOf given.2) = given.2 := by
    intro given hgiven
    simp only [overrides, List.mem_append, List.mem_map] at hgiven
    rcases hgiven with (((⟨_, -, rfl⟩ | ⟨_, -, rfl⟩) | ⟨_, -, rfl⟩) | ⟨_, -, rfl⟩) | ⟨_, -, rfl⟩ <;>
      rfl
  rw [Keywords.values, keywords, List.map_map]
  refine (List.map_congr_left fun given hgiven => ?_).trans (List.map_id _)
  simp [hvalue given hgiven]

/-- A run that looks for settings, as an occasion: its options are the keywords, and there are no
files. -/
def occasion (around : Surroundings) (options : List GivenOption) : Occasion where
  around   := around
  places   := {}
  keywords := keywords options
  held     := {}
  hold     := ⟨rfl, rfl, rfl⟩
  known    := by
    have hbindings : ofBindings { lead := ({} : Places).variableLead } [] = [] := rfl
    have hnone : Source.Known [] := fun _ hgiven => absurd hgiven List.not_mem_nil
    simp only [sources, List.forall_mem_cons, values_keywords, ofEnvironment_eq, hbindings]
    exact ⟨known_ofNamed (known_overrides options), Source.known_inTurn, hnone, hnone, hnone, nofun⟩

lemma result_occasion (around : Surroundings) (options : List GivenOption) :
    (occasion around options).result = load around {} (overrides options) := by
  rw [Occasion.result_eq_load]
  change load around _ (keywords options).values = _
  rw [values_keywords]
  rfl

/-- The value that decides a setting of a run: that of its last option, or else that of its
variable. -/
def valueFor (options : List GivenOption) (environment : List (String × String))
    (setting : String) : Option Supplied :=
  (optionFor options setting).or
    ((lastVariable ({} : VariableRules).lead environment setting).map .text)

lemma valueFor_of_option {options : List GivenOption} {environment : List (String × String)}
    {setting : String} {supplied : Supplied} (h : optionFor options setting = some supplied) :
    valueFor options environment setting = some supplied := by
  rw [valueFor, h, Option.some_or]

/-- An option that is not given overrides nothing. -/
lemma valueFor_of_no_option {options : List GivenOption} (environment : List (String × String))
    {setting : String} (h : ∀ given ∈ options, given.setting? ≠ some setting) :
    valueFor options environment setting =
      (lastVariable ({} : VariableRules).lead environment setting).map .text := by
  have hnone : optionFor options setting = none := by
    rw [optionFor, List.findSome?_eq_none_iff]
    intro given hgiven
    rw [if_neg (h given (List.mem_reverse.mp hgiven))]
  rw [valueFor, hnone, Option.none_or]

lemma deciding_occasion (around : Surroundings) (options : List GivenOption) {setting : String}
    (hsetting : setting ∈ names) :
    deciding (occasion around options).sources setting =
      valueFor options around.environment setting := by
  have hsources : (occasion around options).sources =
      [ofNamed (overrides options), ofEnvironment {} around.environment, [], [], []] := by
    rw [← values_keywords]
    rfl
  simp only [hsources, deciding, List.findSome?_cons, suppliedFor_overrides options hsetting,
    suppliedFor_ofEnvironment _ _ hsetting, valueFor]
  cases optionFor options setting with
  | some value => rfl
  | none => cases lastVariable ({} : VariableRules).lead around.environment setting <;> rfl

section

variable {world : World} {registry : Registry} {grammar : Grammar} {arguments : List String}
  {parsed : Arguments} {path : String}

lemma Proceeds.run_of_decidedBy (h : Proceeds world arguments parsed path) {settings : Settings}
    (hdecided : DecidedBy (valueFor parsed.options world.environment) settings) :
    run world registry grammar arguments =
      (summarizeSource world registry grammar settings path).unified := by
  have hresult : (occasion world.toSurroundings parsed.options).result = .ok settings :=
    Occasion.result_of_decidedBy
      (hdecided.congr fun setting hsetting => (deciding_occasion _ _ hsetting).symm)
  rw [result_occasion] at hresult
  rw [h.run_eq, hresult]

lemma Proceeds.run_of_rejections (h : Proceeds world arguments parsed path)
    (hwrong : rejections (valueFor parsed.options world.environment) ≠ []) :
    run world registry grammar arguments =
      (Outcome.ofFailure (.settings (.rejected
        (rejections (valueFor parsed.options world.environment))))).unified := by
  have hsame : rejections (deciding (occasion world.toSurroundings parsed.options).sources) =
      rejections (valueFor parsed.options world.environment) :=
    rejections_congr fun setting hsetting => deciding_occasion _ _ hsetting
  have hresult := Occasion.result_of_rejections (hsame ▸ hwrong)
  rw [result_occasion, hsame] at hresult
  rw [h.run_eq, hresult]

end

end Command

namespace Settings

/-! ### All together -/

/-- Each setting is decided by the first source that supplies it: keywords, the environment, a file
of variables, a JSON file and a TOML file, in this order. There are settings just where every
deciding value can be read, and else an error with one rejection for each that cannot. Two occasions
on which the sources say the same of each setting as far as to the first that supplies it have the
same outcome. So has one in another environment, if the keywords supply every setting that is
changed there and no value is changed for which a file of variables asks. On the command line, the
options as given stand in the place of keywords. -/
theorem first_source_decides (occasion : Occasion) :
    (∀ setting ∈ names,
      (∀ pairs, Source.Known pairs →
        suppliedFor (ofNamed pairs) setting = pairs.reverse.lookup (.text setting)) ∧
      (∀ lead environment, suppliedFor (ofEnvironment { lead } environment) setting =
        (lastVariable lead environment setting).map .text) ∧
      ∀ lead files, suppliedFor (ofBindings { lead } files) setting =
        (lastVariable lead files.flatten setting).join.map .text) ∧
    (∀ settings,
      occasion.result = .ok settings ↔ DecidedBy (deciding occasion.sources) settings) ∧
    (∀ error, occasion.result = .error error ↔
      (∃ setting ∈ names, ∃ value, deciding occasion.sources setting = some value ∧
        (complaint? setting value).isSome) ∧
      error = .rejected (rejections (deciding occasion.sources))) ∧
    (∀ other : Occasion,
      (∀ setting ∈ names, SameUntilSupplied setting occasion.sources other.sources) →
      other.result = occasion.result) ∧
    (∀ environment : List (String × String),
      (∀ name ∈ occasion.places.lookedUp occasion.around,
        environment.lookup name = occasion.around.environment.lookup name) →
      (∀ setting ∈ names, (suppliedFor (ofNamed occasion.keywords.values) setting).isSome ∨
        lastVariable occasion.places.variableLead environment setting =
          lastVariable occasion.places.variableLead occasion.around.environment setting) →
      request { occasion.around with environment } occasion.places.keywords occasion.keywords =
        occasion.result) ∧
    ∀ (world : Command.World) (registry : Registry) (grammar : Grammar) (arguments : List String)
      (parsed : Command.Arguments) (path : String),
      Command.Proceeds world arguments parsed path →
      let value := Command.valueFor parsed.options world.environment
      (∀ settings, DecidedBy value settings →
        Command.run world registry grammar arguments =
          (Command.summarizeSource world registry grammar settings path).unified ∧
        (∀ on, Command.optionFor parsed.options "show_tree" = some (.flag on) →
          settings.showTree = on) ∧
        ∀ on, Command.optionFor parsed.options "debug" = some (.flag on) →
          settings.debug = on) ∧
      (rejections value ≠ [] →
        Command.run world registry grammar arguments =
          (Command.Outcome.ofFailure (.settings (.rejected (rejections value)))).unified) ∧
      ∀ setting, (∀ given ∈ parsed.options, given.setting? ≠ some setting) →
        value setting =
          (lastVariable ({} : VariableRules).lead world.environment setting).map .text := by
  refine ⟨fun setting hsetting => ⟨?_, ?_, ?_⟩, fun _ => Occasion.result_eq_ok_iff, ?_,
    fun _ => Occasion.result_congr, fun _ => occasion.request_of_environment, ?_⟩
  · exact fun pairs hknown => suppliedFor_ofNamed hknown hsetting
  · exact fun lead environment => suppliedFor_ofEnvironment lead environment hsetting
  · exact fun lead files => (supplies_ofBindings lead files).suppliedFor_eq hsetting
  · intro error
    rw [Occasion.result_eq_error_iff, rejections_ne_nil_iff]
  · intro world registry grammar arguments parsed path hproceeds value
    refine ⟨fun settings hdecided => ⟨hproceeds.run_of_decidedBy hdecided, ?_, ?_⟩,
      hproceeds.run_of_rejections, fun setting => Command.valueFor_of_no_option _⟩
    · exact fun on hon => hdecided.showTree_eq (Command.valueFor_of_option hon)
    · exact fun on hon => hdecided.debug_eq (Command.valueFor_of_option hon)

/-- A file of variables, a TOML file, and a JSON file with a value that is wrong for its setting and
another without. -/
def contestedLookup (path : String) : Files.Lookup :=
  if path = "e" then
    .file (Text.Utf8.encode "TREECTX_SHOW_TREE=$\x7bVERBOSE:-yes\x7d\n")
  else if path = "t" then .file (Text.Utf8.encode "debug = true\nencoding = \"ascii\"\n")
  else if path = "j" then
    .file (Text.Utf8.encode "\x7b\"encoding\": \"latin-1\", \"show_tree\": \"maybe\"\x7d")
  else if path = "k" then .file (Text.Utf8.encode "\x7b\"encoding\": \"latin-1\"\x7d")
  else .missing

/-- Surroundings with these files and a variable that is wrong for its setting. -/
def contestedSurroundings : Surroundings where
  lookup      := contestedLookup
  namesIn _   := []
  environment := [("TREECTX_OUTPUT", "xml")]
  isAccount _ := false

lemma plain_variable : ∀ setting ∈ names, IsPlain (({} : Places).variableLead ++ setting) := by
  decide +kernel

/-- A file with one variable that has the letters of a setting's. -/
lemma known_variable {name value setting : String} (hsetting : setting ∈ names)
    (hname : IsPlain name)
    (hletters : letters name = letters (({} : Places).variableLead ++ setting)) :
    (ofBindings { lead := ({} : Places).variableLead } [[(name, some value)]]).Known := by
  refine known_ofBindings fun binding hbinding => ⟨setting, hsetting, ?_⟩
  cases List.mem_singleton.mp hbinding
  exact (lower_eq_iff hname (plain_variable setting hsetting)).mpr hletters

/-- An occasion with a wrong value in the environment, which a keyword shadows, and with or without
a wrong value in the JSON file, which the file of variables shadows. -/
def contestedOccasion (wrong : Bool) : Occasion where
  around   := contestedSurroundings
  places   :=
    { envFile := some "e", jsonFile := some (if wrong then "j" else "k"), tomlFile := some "t" }
  keywords := [("output", .str "json")]
  held     :=
    { bindings := [[("TREECTX_SHOW_TREE", some "yes")]]
      json     := (.text "encoding", .text "latin-1") ::
        if wrong then [(.text "show_tree", .text "maybe")] else []
      toml     := [(.text "encoding", .text "ascii"), (.text "debug", .flag true)] }
  hold     := by
    cases wrong <;> exact ⟨by decide +kernel, by decide +kernel, by decide +kernel⟩
  known    := by
    simp only [sources, List.forall_mem_cons, ofEnvironment_eq]
    refine ⟨known_ofNamed (by decide), Source.known_inTurn, ?_, ?_, by decide, nofun⟩
    · exact known_variable (by decide : "show_tree" ∈ names) (by decide +kernel) (by decide +kernel)
    · cases wrong <;> decide

lemma deciding_contested : ∀ setting ∈ names,
    deciding (contestedOccasion true).sources setting =
      [("encoding", .text "latin-1"), ("output", .text "json"), ("show_tree", .text "yes"),
        ("debug", .flag true)].lookup setting := by
  intro setting hsetting
  rw [(contestedOccasion true).deciding_of_plain (by decide) (by decide +kernel)
    (by decide +kernel) hsetting (plain_variable setting hsetting)]
  revert setting
  decide +kernel

/-- The file of variables shadows the wrong value in the JSON file. -/
lemma contested_shadows_json : ∀ setting ∈ names,
    SameUntilSupplied setting (contestedOccasion true).sources
      (contestedOccasion false).sources := by
  intro setting hsetting
  refine .of_shadowed [_, _, _] [_] ?_
  by_cases hshown : setting = "show_tree"
  · left
    have hlast : lastVariable ({} : Places).variableLead
        (contestedOccasion true).held.bindings.flatten setting = some (some "yes") := by
      rw [lastVariable_eq_lastPlain (by decide +kernel) (plain_variable setting hsetting), hshown]
      decide +kernel
    have hsupplied := (supplies_ofBindings ({} : Places).variableLead
      (contestedOccasion true).held.bindings).suppliedFor_eq hsetting
    rw [hlast] at hsupplied
    rw [deciding, List.isSome_findSome?, List.any_eq_true]
    refine ⟨_, List.mem_cons_of_mem _ (List.mem_cons_of_mem _ List.mem_cons_self), ?_⟩
    exact Option.isSome_of_eq_some hsupplied
  · right
    revert setting
    decide +kernel

/-- The keyword shadows the wrong value in the environment. -/
lemma contested_shadows_variable : ∀ setting ∈ names,
    (suppliedFor (ofNamed (contestedOccasion true).keywords.values) setting).isSome ∨
      lastVariable (contestedOccasion true).places.variableLead [] setting =
        lastVariable (contestedOccasion true).places.variableLead
          contestedSurroundings.environment setting := by
  intro setting hsetting
  have hplain : lastVariable (contestedOccasion true).places.variableLead
      contestedSurroundings.environment setting = _ :=
    lastVariable_eq_lastPlain (by decide +kernel) (plain_variable setting hsetting)
  rw [suppliedFor_ofNamed (by decide) hsetting, hplain]
  clear hplain
  revert setting
  decide +kernel

/-- A world in which a variable asks for the listing. -/
def listingWorld : Command.World :=
  { Command.colouredWorld with environment := [("TREECTX_SHOW_TREE", "true")] }

lemma proceeds_listing : Command.Proceeds listingWorld ["--no-tree", "A.java"]
    ⟨[.switch .tree false], ["A.java"]⟩ "A.java" where
  readable  := by decide +kernel
  noHelp    := by decide
  fitValues := by decide +kernel
  hasSource := by decide +kernel

lemma decidedBy_listing :
    DecidedBy (Command.valueFor [.switch .tree false] listingWorld.environment) {} := by
  have hvalue : ∀ setting ∈ names,
      [("show_tree", Supplied.flag false)].lookup setting =
        Command.valueFor [.switch .tree false] listingWorld.environment setting := by
    intro setting hsetting
    have hplain : lastVariable ({} : VariableRules).lead listingWorld.environment setting = _ :=
      lastVariable_eq_lastPlain (by decide +kernel) (plain_variable setting hsetting)
    rw [Command.valueFor, hplain]
    clear hplain
    revert setting
    decide +kernel
  exact DecidedBy.congr ⟨by decide, by decide, by decide, by decide, by decide⟩ hvalue

/-- Four sources decide the settings of the contested occasion, and the wrong values have no part in
that: to take one out of the JSON file or the other out of the environment changes nothing. On the
command line a switch puts out the listing that a variable asks for. -/
theorem first_source_decides_contested :
    let settings : Settings :=
      { encoding := .text "latin-1", output := .json, showTree := true, debug := true }
    (contestedOccasion true).result = .ok settings ∧
      (contestedOccasion false).result = .ok settings ∧
      request { contestedSurroundings with environment := [] }
        (contestedOccasion true).places.keywords (contestedOccasion true).keywords =
          .ok settings ∧
      Command.run listingWorld .bundled Command.firstRowGrammar ["--no-tree", "A.java"] =
        (Command.summarizeSource listingWorld .bundled Command.firstRowGrammar {}
          "A.java").unified := by
  intro settings
  obtain ⟨-, hok, -, hsame, henvironment, hcommand⟩ :=
    first_source_decides (contestedOccasion true)
  have hresult : (contestedOccasion true).result = .ok settings := by
    refine (hok settings).mpr (DecidedBy.congr ?_ fun setting hsetting =>
      (deciding_contested setting hsetting).symm)
    exact ⟨by decide, by decide, by decide, by decide +kernel, by decide⟩
  refine ⟨hresult, ?_, ?_, ?_⟩
  · exact (hsame _ contested_shadows_json).trans hresult
  · exact (henvironment [] (by decide +kernel) contested_shadows_variable).trans hresult
  · exact ((hcommand _ .bundled Command.firstRowGrammar _ _ _ proceeds_listing).1 {}
      decidedBy_listing).1

/-- Surroundings in which a file of variables refers to the variable of another setting. -/
def referringSurroundings (environment : List (String × String)) : Surroundings where
  lookup path :=
    if path = "e" then
      .file (Text.Utf8.encode "TREECTX_OUTPUT=$\x7bTREECTX_ENCODING:-text\x7d\n")
    else .missing
  namesIn _   := []
  environment := environment
  isAccount _ := false

/-- An occasion with that file and a keyword for the other setting, with its variable or without. -/
def referringOccasion (isSet : Bool) : Occasion where
  around   := referringSurroundings (if isSet then [("TREECTX_ENCODING", "json")] else [])
  places   := { envFile := some "e" }
  keywords := [("encoding", .str "utf-8")]
  held     := { bindings := [[("TREECTX_OUTPUT", some (if isSet then "json" else "text"))]] }
  hold     := by
    cases isSet <;> exact ⟨by decide +kernel, rfl, rfl⟩
  known    := by
    simp only [sources, List.forall_mem_cons, ofEnvironment_eq]
    refine ⟨known_ofNamed (by decide), Source.known_inTurn, ?_, by decide, by decide, nofun⟩
    exact known_variable (by decide : "output" ∈ names) (by decide +kernel) (by decide +kernel)

lemma deciding_referring (isSet : Bool) : ∀ setting ∈ names,
    [("encoding", .text "utf-8"), ("output", .text (if isSet then "json" else "text"))].lookup
      setting = deciding (referringOccasion isSet).sources setting := by
  intro setting hsetting
  rw [(referringOccasion isSet).deciding_of_plain (by cases isSet <;> decide)
    (by cases isSet <;> decide +kernel) (by cases isSet <;> decide +kernel) hsetting
    (plain_variable setting hsetting)]
  revert setting
  cases isSet <;> decide +kernel

/-- A variable that a keyword shadows is felt all the same where a file of variables refers to
it. -/
theorem shadowed_variable_is_felt :
    let keywords : Keywords := [("encoding", .str "utf-8")]
    let places : Places := { envFile := some "e" }
    (suppliedFor (ofNamed keywords.values) "encoding").isSome ∧
      request (referringSurroundings []) places.keywords keywords = .ok {} ∧
      request (referringSurroundings [("TREECTX_ENCODING", "json")]) places.keywords keywords =
        .ok { output := .json } := by
  intro keywords places
  refine ⟨?_, ?_, ?_⟩
  · rw [suppliedFor_ofNamed (by decide) (by decide)]
    decide
  · change (referringOccasion false).result = _
    exact Occasion.result_of_decidedBy
      (DecidedBy.congr ⟨by decide, by decide, by decide, by decide, by decide⟩
        (deciding_referring false))
  · change (referringOccasion true).result = _
    exact Occasion.result_of_decidedBy
      (DecidedBy.congr ⟨by decide, by decide, by decide, by decide, by decide⟩
        (deciding_referring true))

end Settings

end Outline
