import Outline.Proofs.Settings.Sources
import Outline.Proofs.Traversal.Records
import Outline.Proofs.Traversal.Reads

/-!
# Precedence of sources

Each setting is decided by the first source that supplies it, and only the deciding values are
judged. What a weaker source says of a setting that a stronger one supplies is therefore without
effect.
-/

namespace Outline.Settings

/-! ### Judging -/

/-- Whether settings are what the deciding values read as, with the defaults where there is none. -/
structure DecidedBy (value : String → Option Supplied) (settings : Settings) : Prop where
  language : readOr asLanguage ({} : Settings).language (value "language") = .ok settings.language
  encoding : readOr asEncoding ({} : Settings).encoding (value "encoding") = .ok settings.encoding
  output   : readOr asOutput ({} : Settings).output (value "output") = .ok settings.output
  showTree : readOr asFlag ({} : Settings).showTree (value "show_tree") = .ok settings.showTree
  debug    : readOr asFlag ({} : Settings).debug (value "debug") = .ok settings.debug

/-- What is wrong with a value for a setting. -/
def complaint? (setting : String) (value : Supplied) : Option Complaint :=
  match setting with
  | "language"  => fault? (asLanguage value)
  | "encoding"  => fault? (asEncoding value)
  | "output"    => fault? (asOutput value)
  | "show_tree" => fault? (asFlag value)
  | "debug"     => fault? (asFlag value)
  | _           => none

/-- The rejections of deciding values, one for each setting with a value that is wrong for it. -/
def rejections (value : String → Option Supplied) : List Rejection :=
  names.filterMap fun setting =>
    ((value setting).bind (complaint? setting)).map fun complaint => ⟨some setting, complaint⟩

lemma ofReading_readOr {α : Type} (name : String) (read : Supplied → Except Complaint α)
    (default : α) (value : Option Supplied) :
    Rejection.ofReading name (readOr read default value) =
      ((value.bind fun value => fault? (read value)).map
        fun complaint => (⟨some name, complaint⟩ : Rejection)).toList := by
  cases value with
  | none => rfl
  | some value =>
    simp only [readOr, Option.bind_some]
    cases read value <;> rfl

lemma ofReading_eq_nil_iff {α : Type} {name : String} {reading : Except Complaint α} :
    Rejection.ofReading name reading = [] ↔ ∃ a, reading = .ok a := by
  cases reading <;> simp [Rejection.ofReading]

lemma unknownNames_eq_nil {values : Source} (h : values.Known) : unknownNames values = [] := by
  rw [unknownNames, List.filterMap_eq_nil_iff]
  intro name hname
  obtain ⟨given, hgiven, htext⟩ := List.mem_filterMap.mp hname
  obtain ⟨setting, hsetting, hsame⟩ := List.mem_map.mp (h given hgiven)
  rw [← hsame] at htext
  cases htext
  simp [hsetting]

lemma any_isLoose_eq_false {values : Source} (h : values.Known) :
    values.any (·.1.isLoose) = false := by
  rw [List.any_eq_false]
  intro given hgiven
  obtain ⟨setting, -, hsame⟩ := List.mem_map.mp (h given hgiven)
  rw [← hsame]
  simp [Text.Name.isLoose]

lemma rejections_eq (value : String → Option Supplied) :
    rejections value =
      Rejection.ofReading "language" (readOr asLanguage none (value "language"))
        ++ Rejection.ofReading "encoding" (readOr asEncoding (.text "utf-8") (value "encoding"))
        ++ Rejection.ofReading "output" (readOr asOutput .text (value "output"))
        ++ Rejection.ofReading "show_tree" (readOr asFlag false (value "show_tree"))
        ++ Rejection.ofReading "debug" (readOr asFlag false (value "debug")) := by
  rw [rejections, List.filterMap_eq_flatMap_toList]
  simp only [names, List.flatMap_cons, List.flatMap_nil, List.append_nil, ofReading_readOr,
    List.append_assoc]
  rfl

section

variable {value : String → Option Supplied} {settings : Settings} {values : Source}

lemma readOr_flag (default on : Bool) : readOr asFlag default (some (.flag on)) = .ok on := rfl

lemma DecidedBy.showTree_eq (h : DecidedBy value settings) {on : Bool}
    (hon : value "show_tree" = some (.flag on)) : settings.showTree = on := by
  have hread := h.showTree
  rw [hon, readOr_flag] at hread
  exact (Except.ok.inj hread).symm

lemma DecidedBy.debug_eq (h : DecidedBy value settings) {on : Bool}
    (hon : value "debug" = some (.flag on)) : settings.debug = on := by
  have hread := h.debug
  rw [hon, readOr_flag] at hread
  exact (Except.ok.inj hread).symm

/-- Either every deciding value can be read, or there is something to reject. -/
lemma decided_or_rejected (value : String → Option Supplied) :
    (∃ settings, DecidedBy value settings) ∨ rejections value ≠ [] := by
  by_cases h : rejections value = []
  · left
    rw [rejections_eq] at h
    simp only [List.append_eq_nil_iff, ofReading_eq_nil_iff] at h
    obtain ⟨⟨⟨⟨⟨language, hlanguage⟩, encoding, hencoding⟩, output, houtput⟩, showTree, htree⟩,
      debug, hdebug⟩ := h
    exact ⟨⟨language, encoding, output, showTree, debug⟩, hlanguage, hencoding, houtput, htree,
      hdebug⟩
  · exact .inr h

lemma rejections_ne_nil_iff : rejections value ≠ [] ↔
    ∃ setting ∈ names, ∃ supplied, value setting = some supplied ∧
      (complaint? setting supplied).isSome := by
  simp only [rejections, ne_eq, List.filterMap_eq_nil_iff, not_forall, exists_prop]
  refine exists_congr fun setting => and_congr_right fun _ => ?_
  cases value setting with
  | none => simp
  | some supplied => simp [Option.isSome_iff_ne_none]

lemma DecidedBy.rejections_eq_nil (h : DecidedBy value settings) : rejections value = [] := by
  simp only [rejections_eq, List.append_eq_nil_iff, ofReading_eq_nil_iff]
  exact ⟨⟨⟨⟨⟨_, h.language⟩, _, h.encoding⟩, _, h.output⟩, _, h.showTree⟩, _, h.debug⟩

lemma ofSupplied_of_known (hknown : values.Known) : ofSupplied values = ofNamedValues values := by
  rw [ofSupplied, any_isLoose_eq_false hknown]
  rfl

lemma ofSupplied_of_decidedBy (hknown : values.Known)
    (h : DecidedBy (suppliedFor values) settings) : ofSupplied values = .ok settings := by
  have hlanguage : readOr asLanguage none (suppliedFor values "language") = _ := h.language
  have hencoding : readOr asEncoding (.text "utf-8") (suppliedFor values "encoding") = _ :=
    h.encoding
  have houtput : readOr asOutput .text (suppliedFor values "output") = _ := h.output
  have htree : readOr asFlag false (suppliedFor values "show_tree") = _ := h.showTree
  have hdebug : readOr asFlag false (suppliedFor values "debug") = _ := h.debug
  rw [ofSupplied_of_known hknown]
  simp only [ofNamedValues, hlanguage, hencoding, houtput, htree, hdebug,
    unknownNames_eq_nil hknown]

lemma ofSupplied_of_rejections (hknown : values.Known) (h : rejections (suppliedFor values) ≠ []) :
    ofSupplied values = .error (rejections (suppliedFor values)) := by
  rw [ofSupplied_of_known hknown]
  simp only [ofNamedValues, unknownNames_eq_nil hknown, List.append_nil, ← rejections_eq]
  split
  · next hlanguage hencoding houtput htree hdebug _ =>
    have hdecided : DecidedBy (suppliedFor values) ⟨_, _, _, _, _⟩ :=
      ⟨hlanguage, hencoding, houtput, htree, hdebug⟩
    exact absurd hdecided.rejections_eq_nil h
  · rfl

end

/-! ### Places -/

/-- Where settings are looked for: the lead of variables, and files of variables, of JSON and of
TOML. -/
structure Places where
  lead     : Option String := none
  envFile  : Option String := none
  jsonFile : Option String := none
  tomlFile : Option String := none

namespace Places

/-- What a keyword has for a word. -/
def word : Option String → Json
  | none      => .null
  | some text => .str text

/-- The keywords of places. -/
def keywords (places : Places) : Keywords :=
  [("env_prefix", word places.lead), ("env_file", word places.envFile),
    ("toml_file", word places.tomlFile), ("json_file", word places.jsonFile)]

/-- The lead of variables. -/
def variableLead (places : Places) : String :=
  places.lead.getD ({} : VariableRules).lead

/-- The search in places. -/
def search (places : Places) : Search where
  rules     := .ok { lead := places.variableLead }
  envFiles  := askedPaths (word places.envFile)
  jsonFiles := askedFiles (word places.jsonFile)
  tomlFiles := askedFiles (word places.tomlFile)

lemma search_keywords (places : Places) :
    Keywords.search places.keywords = .ok places.search := by
  obtain ⟨lead, envFile, jsonFile, tomlFile⟩ := places
  cases lead <;> rfl

end Places

/-- What the files of places hold. -/
structure Held where
  bindings : List (List Dotenv.Binding) := []
  json     : Source := []
  toml     : Source := []

/-- Whether the files of places can be read and hold so much. -/
structure Places.Hold (places : Places) (around : Surroundings) (held : Held) : Prop where
  bindings : readEnvFiles around places.search places.search.envFiles = .ok held.bindings
  json     : readJsonFiles around places.search.jsonFiles = .ok held.json
  toml     : readTomlFiles around places.search.tomlFiles = .ok held.toml

/-- The sources in order: named values, the environment, and the files of places. -/
def sources (around : Surroundings) (places : Places) (held : Held)
    (values : List (Text.Name × Supplied)) : List Source :=
  [ofNamed values, ofEnvironment { lead := places.variableLead } around.environment,
    ofBindings { lead := places.variableLead } held.bindings, held.json, held.toml]

/-- Keywords as named values. -/
def Keywords.values (keywords : Keywords) : List (Text.Name × Supplied) :=
  keywords.map fun (name, value) => (name, ofJson value)

/-- A request for settings with what the files of its places hold, where every source has values for
settings only. -/
structure Occasion where
  around   : Surroundings
  places   : Places
  keywords : Keywords
  held     : Held
  hold     : places.Hold around held
  known    : ∀ source ∈ sources around places held keywords.values, source.Known

namespace Occasion

/-- The sources of an occasion, the strongest first. -/
def sources (occasion : Occasion) : List Source :=
  Settings.sources occasion.around occasion.places occasion.held occasion.keywords.values

/-- The settings that are requested. -/
def result (occasion : Occasion) : Except LoadError Settings :=
  request occasion.around occasion.places.keywords occasion.keywords

/-! ### Requests -/

/-- The words that are no settings. -/
def reservedWords : List String := receiverName :: (placeKeywords ++ searchKeywords)

lemma not_mem_reservedWords {name : String} (h : Text.lower name ∈ names) :
    name ∉ reservedWords := by
  have hplain : ∀ word ∈ reservedWords,
      IsPlain word ∧ letters word = word.toList ∧ word ∉ names := by decide +kernel
  intro hmem
  obtain ⟨hword, hletters, hother⟩ := hplain name hmem
  rw [lower_of_letters hword hletters] at h
  exact hother h

/-- A name that stands among named values which make a source of settings only is a setting's. -/
lemma isNameOf_of_known {pairs : List (Text.Name × Supplied)} (h : (ofNamed pairs).Known)
    {pair : Text.Name × Supplied} (hpair : pair ∈ pairs) :
    ∃ setting ∈ names, isNameOf setting pair.1 = true := by
  have hlookup : ((Source.ofPairs pairs).lookup pair.1).isSome := by
    rw [Source.ofPairs, Source.lookup_over, Option.isSome_or,
      isSome_lookup (List.mem_reverse.mpr hpair)]
    rfl
  obtain ⟨value, hvalue⟩ := Option.isSome_iff_exists.mp hlookup
  by_contra hother
  have hmem : (pair.1, value) ∈ ofNamed pairs := by
    refine List.mem_append_right _ (List.mem_filter.mpr ⟨?_, by simpa using hother⟩)
    exact mem_of_lookup hvalue
  have hknown := h _ hmem
  obtain ⟨setting, hsetting, hname⟩ := List.mem_map.mp hknown
  exact hother ⟨setting, hsetting, (isNameOf_iff hknown).mpr hname.symm⟩

/-- No keyword of an occasion is a reserved word. -/
lemma ne_of_mem_keywords (occasion : Occasion) {keyword : Text.Name × Json}
    (h : keyword ∈ occasion.keywords) {word : String} (hword : word ∈ reservedWords) :
    keyword.1 ≠ .text word := by
  intro heq
  have hknown := occasion.known _ List.mem_cons_self
  obtain ⟨setting, hsetting, hname⟩ := isNameOf_of_known hknown (List.mem_map_of_mem h)
  rw [heq] at hname
  have hlower : Text.lower word = setting := by simpa [isNameOf, Text.Name.text?] using hname
  exact not_mem_reservedWords (hlower ▸ hsetting) hword

lemma lookup_keywords (occasion : Occasion) {word : String} (hword : word ∈ reservedWords) :
    occasion.keywords.lookup (.text word) = none := by
  rw [List.lookup_eq_none_iff]
  intro keyword hkeyword
  rw [bne_iff_ne]
  exact (occasion.ne_of_mem_keywords hkeyword hword).symm

/-- No keyword of an occasion is taken for one of some reserved words. -/
lemma partition_keywords (occasion : Occasion) (words : List String)
    (hwords : ∀ word ∈ words, word ∈ reservedWords) (before : Keywords)
    (hbefore : ∀ keyword ∈ before, keyword.1.text?.any words.contains = true) :
    (before ++ occasion.keywords).partition (fun keyword => keyword.1.text?.any words.contains) =
      (before, occasion.keywords) := by
  have hnone : ∀ keyword ∈ occasion.keywords, keyword.1.text?.any words.contains = false := by
    rintro ⟨name, value⟩ hkeyword
    cases name with
    | loose points => rfl
    | text name =>
      have hfree : name ∉ words := fun hmem =>
        occasion.ne_of_mem_keywords hkeyword (hwords name hmem) rfl
      simpa [Text.Name.text?] using hfree
  rw [List.partition_eq_filter_filter, List.filter_append, List.filter_append,
    List.filter_eq_self.mpr hbefore, List.filter_eq_nil_iff.mpr fun k hk => by simp [hnone k hk],
    List.filter_eq_nil_iff.mpr fun k hk => by simp [hbefore k hk],
    List.filter_eq_self.mpr fun k hk => by simp [hnone k hk]]
  simp

/-- The places and the keywords of an occasion do not get in each other's way. -/
lemma result_eq_load (occasion : Occasion) :
    occasion.result =
      load occasion.around occasion.places.search occasion.keywords.values := by
  have hplaceWords : ∀ word ∈ placeKeywords, word ∈ reservedWords :=
    fun word hword => List.mem_cons_of_mem _ (List.mem_append_left _ hword)
  have hsearchWords : ∀ word ∈ searchKeywords, word ∈ reservedWords :=
    fun word hword => List.mem_cons_of_mem _ (List.mem_append_right _ hword)
  have hplaces := occasion.partition_keywords placeKeywords hplaceWords occasion.places.keywords
    (by simp [Places.keywords, placeKeywords, Text.Name.text?])
  have hsearch := occasion.partition_keywords searchKeywords hsearchWords [] (by simp)
  have htwice : occasion.keywords.find?
      (fun keyword => (occasion.places.keywords.lookup keyword.1).isSome) = none := by
    rw [List.find?_eq_none]
    intro keyword hkeyword hsome
    obtain ⟨value, hvalue⟩ := Option.isSome_iff_exists.mp hsome
    have hname : keyword.1 ∈ placeKeywords.map Text.Name.text :=
      List.mem_map_of_mem (f := (·.1)) (mem_of_lookup hvalue)
    obtain ⟨word, hword, heq⟩ := List.mem_map.mp hname
    exact occasion.ne_of_mem_keywords hkeyword (hplaceWords word hword) heq.symm
  have hreceiver : occasion.keywords.lookup (.text receiverName) = none :=
    occasion.lookup_keywords List.mem_cons_self
  have hready : occasion.keywords.get "_build_sources" = .null := by
    rw [Keywords.get, occasion.lookup_keywords (by decide)]
    rfl
  rw [List.nil_append] at hsearch
  simp only [result, request, htwice, Option.bind_none, hplaces, ofKeywords, hreceiver, hready,
    hsearch, List.append_nil, Places.search_keywords]
  rfl

/-! ### Results -/

variable (occasion : Occasion)

lemma nodup_sources : ∀ source ∈ occasion.sources, (source.map (·.1)).Nodup := by
  obtain ⟨pairs, -, hjson⟩ := bind_eq_ok occasion.hold.json
  obtain ⟨named, -, hjson⟩ := bind_eq_ok hjson
  obtain ⟨tables, -, htoml⟩ := bind_eq_ok occasion.hold.toml
  have hjson : occasion.held.json = ofNamed named := (Except.ok.inj hjson).symm
  have htoml : occasion.held.toml = ofNamed tables.flatten := (Except.ok.inj htoml).symm
  intro source hsource
  have hknown := occasion.known source hsource
  simp only [sources, Settings.sources, List.mem_cons, List.not_mem_nil, or_false] at hsource
  rcases hsource with rfl | rfl | rfl | rfl | rfl
  · exact (supplies_ofNamed _).nodup hknown
  · rw [ofEnvironment_eq]
    exact Source.nodup_inTurn
  · exact (supplies_ofBindings _ _).nodup hknown
  · rw [hjson] at hknown ⊢
    exact (supplies_ofNamed _).nodup hknown
  · rw [htoml] at hknown ⊢
    exact (supplies_ofNamed _).nodup hknown

/-- With no options before them and no directories after them, the sources are all there is. -/
lemma result_eq : occasion.result = (ofSupplied (merge occasion.sources)).mapError .rejected := by
  rw [result_eq_load]
  simp only [load, occasion.hold.bindings, occasion.hold.json, occasion.hold.toml, bind,
    Except.bind]
  rfl

lemma known_merge_sources : (merge occasion.sources).Known :=
  known_merge occasion.known

lemma suppliedFor_merge_sources :
    suppliedFor (merge occasion.sources) = deciding occasion.sources :=
  funext (suppliedFor_merge occasion.nodup_sources)

/-- The deciding value in full, where keywords are settings as they are written and variables are
plain words. -/
lemma deciding_of_plain (hkeywords : Source.Known occasion.keywords.values)
    (hvariables : ∀ entry ∈ occasion.around.environment, IsPlain entry.1)
    (hbindings : ∀ entry ∈ occasion.held.bindings.flatten, IsPlain entry.1)
    {setting : String} (hsetting : setting ∈ names)
    (hplain : IsPlain (occasion.places.variableLead ++ setting)) :
    deciding occasion.sources setting =
      [occasion.keywords.values.reverse.lookup (.text setting),
        (lastPlain occasion.places.variableLead occasion.around.environment setting).map .text,
        (lastPlain occasion.places.variableLead occasion.held.bindings.flatten
          setting).join.map .text,
        suppliedFor occasion.held.json setting,
        suppliedFor occasion.held.toml setting].findSome? id := by
  rw [← suppliedFor_ofNamed hkeywords hsetting, ← lastVariable_eq_lastPlain hvariables hplain,
    ← lastVariable_eq_lastPlain hbindings hplain, ← suppliedFor_ofEnvironment _ _ hsetting,
    ← (supplies_ofBindings _ _).suppliedFor_eq hsetting]
  rfl

variable {occasion}

lemma result_of_decidedBy {settings : Settings}
    (h : DecidedBy (deciding occasion.sources) settings) : occasion.result = .ok settings := by
  rw [← suppliedFor_merge_sources] at h
  rw [result_eq, ofSupplied_of_decidedBy occasion.known_merge_sources h]
  rfl

lemma result_of_rejections (h : rejections (deciding occasion.sources) ≠ []) :
    occasion.result = .error (.rejected (rejections (deciding occasion.sources))) := by
  rw [← suppliedFor_merge_sources] at h ⊢
  rw [result_eq, ofSupplied_of_rejections occasion.known_merge_sources h]
  rfl

/-- There are settings just where every deciding value can be read, and they are what is read. -/
lemma result_eq_ok_iff {settings : Settings} :
    occasion.result = .ok settings ↔ DecidedBy (deciding occasion.sources) settings := by
  refine ⟨fun hresult => ?_, result_of_decidedBy⟩
  rcases decided_or_rejected (deciding occasion.sources) with ⟨other, hother⟩ | hwrong
  · rw [result_of_decidedBy hother] at hresult
    cases hresult
    exact hother
  · rw [result_of_rejections hwrong] at hresult
    cases hresult

/-- There is an error just where a deciding value cannot be read, and it tells of all of these. -/
lemma result_eq_error_iff {error : LoadError} :
    occasion.result = .error error ↔ rejections (deciding occasion.sources) ≠ [] ∧
      error = .rejected (rejections (deciding occasion.sources)) := by
  constructor
  · intro hresult
    rcases decided_or_rejected (deciding occasion.sources) with ⟨other, hother⟩ | hwrong
    · rw [result_of_decidedBy hother] at hresult
      cases hresult
    · rw [result_of_rejections hwrong] at hresult
      cases hresult
      exact ⟨hwrong, rfl⟩
  · rintro ⟨hwrong, rfl⟩
    exact result_of_rejections hwrong

end Occasion

/-! ### Two occasions -/

/-- Whether sources say the same of a setting as far as to the first that supplies it. -/
def SameUntilSupplied (setting : String) : List Source → List Source → Prop
  | [], []                          => True
  | source :: rest, other :: others =>
    suppliedFor source setting = suppliedFor other setting ∧
      (suppliedFor source setting = none → SameUntilSupplied setting rest others)
  | _, _                            => False

lemma SameUntilSupplied.refl (setting : String) (sources : List Source) :
    SameUntilSupplied setting sources sources := by
  induction sources with
  | nil => trivial
  | cons source rest ih => exact ⟨rfl, fun _ => ih⟩

/-- A source may say of a setting what it will if one before it supplies the setting. -/
lemma SameUntilSupplied.of_shadowed {setting : String} (before after : List Source)
    {source other : Source}
    (h : (deciding before setting).isSome ∨
      suppliedFor source setting = suppliedFor other setting) :
    SameUntilSupplied setting (before ++ source :: after) (before ++ other :: after) := by
  induction before with
  | nil =>
    rcases h with h | h
    · cases h
    · exact ⟨h, fun _ => .refl setting after⟩
  | cons first before ih =>
    refine ⟨rfl, fun hnone => ih ?_⟩
    simpa [deciding, List.findSome?_cons, hnone] using h

lemma SameUntilSupplied.deciding_eq {setting : String} {sources others : List Source}
    (h : SameUntilSupplied setting sources others) :
    deciding sources setting = deciding others setting := by
  induction sources generalizing others with
  | nil =>
    cases others with
    | nil => rfl
    | cons => exact h.elim
  | cons source rest ih =>
    cases others with
    | nil => exact h.elim
    | cons other others =>
      obtain ⟨hsame, hrest⟩ := h
      simp only [deciding, List.findSome?_cons, ← hsame]
      cases hsource : suppliedFor source setting with
      | some value => rfl
      | none => exact ih (hrest hsource)

lemma rejections_congr {value other : String → Option Supplied}
    (h : ∀ setting ∈ names, value setting = other setting) : rejections value = rejections other :=
  List.filterMap_congr fun setting hsetting => by rw [h setting hsetting]

lemma DecidedBy.congr {value other : String → Option Supplied} {settings : Settings}
    (hdecided : DecidedBy value settings) (h : ∀ setting ∈ names, value setting = other setting) :
    DecidedBy other settings where
  language := h "language" (by decide) ▸ hdecided.language
  encoding := h "encoding" (by decide) ▸ hdecided.encoding
  output   := h "output" (by decide) ▸ hdecided.output
  showTree := h "show_tree" (by decide) ▸ hdecided.showTree
  debug    := h "debug" (by decide) ▸ hdecided.debug

/-- What sources say of a setting behind the first that supplies it is without effect. -/
lemma Occasion.result_congr {occasion other : Occasion}
    (h : ∀ setting ∈ names, SameUntilSupplied setting occasion.sources other.sources) :
    other.result = occasion.result := by
  have hsame : ∀ setting ∈ names,
      deciding occasion.sources setting = deciding other.sources setting :=
    fun setting hsetting => (h setting hsetting).deciding_eq
  rcases decided_or_rejected (deciding occasion.sources) with ⟨settings, hdecided⟩ | hwrong
  · rw [result_of_decidedBy hdecided, result_of_decidedBy (hdecided.congr hsame)]
  · have hother := hwrong
    rw [rejections_congr hsame] at hother
    rw [result_of_rejections hwrong, result_of_rejections hother, rejections_congr hsame]

end Outline.Settings
