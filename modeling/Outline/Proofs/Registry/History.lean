import Outline.Proofs.Lookup
import Outline.Registry

/-!
# Histories of a registry

A registry changes as parsers are defined and registered. Whether a deed registers a parser, and
under which language, hangs on the deed alone, so that the registry after a history is told by the
registrations in it: a language has the place of its first registration and the parser of its last.
A deed that is refused leaves no trace.
-/

namespace Outline

namespace SourceParser

/-- The entry that a parser makes in a registry, if its language can be a key. -/
def registration? (parser : SourceParser) : Option (Json.Key × SourceParser) :=
  (parser.language.bind Json.key?).map fun key => (key, parser)

/-- Whether a parser can be put to use and takes files by their extensions. -/
structure Fit (parser : SourceParser) : Prop where
  concrete      : parser.concrete = true
  hasExtensions : parser.extensions.getD [] ≠ []

/-- The parsers that there are: the bare one, and those defined over another by a definition that a
registry does not refuse. -/
inductive Defined : SourceParser → Prop where
  | bare : Defined .bare
  | derive {base : SourceParser} {definition : ParserDefinition} {registry after : Registry}
      (earlier : Defined base) (accepted : registry.define (base.derive definition) = .ok after) :
      Defined (base.derive definition)

end SourceParser

namespace Registry

/-! ### Entries -/

section

variable {language : Json.Key} {parser : SourceParser} {entries : List (Json.Key × SourceParser)}

lemma lookup_put (language key : Json.Key) (parser : SourceParser)
    (entries : List (Json.Key × SourceParser)) :
    (put language parser entries).lookup key =
      if key = language then some parser else entries.lookup key := by
  induction entries with
  | nil =>
    by_cases h : key = language
    · simp [put, h]
    · simp [put, h, List.lookup_cons, beq_false_of_ne h]
  | cons entry rest ih =>
    obtain ⟨held, other⟩ := entry
    rw [put]
    by_cases hheld : held = language
    · rw [if_pos hheld, List.lookup_cons, List.lookup_cons, hheld]
      by_cases h : key = language
      · simp [h]
      · simp [h, beq_false_of_ne h]
    · rw [if_neg hheld, List.lookup_cons, List.lookup_cons, ih]
      by_cases h : key = language
      · simp [h, beq_false_of_ne (Ne.symm hheld)]
      · simp [h]

lemma map_fst_put :
    (put language parser entries).map (·.1) =
      if language ∈ entries.map (·.1) then entries.map (·.1)
      else entries.map (·.1) ++ [language] := by
  induction entries with
  | nil => rfl
  | cons entry rest ih =>
    rw [put]
    by_cases h : entry.1 = language
    · simp [h]
    · rw [if_neg h, List.map_cons, List.map_cons, ih]
      have hne : language ≠ entry.1 := Ne.symm h
      by_cases hmem : language ∈ rest.map (·.1)
      · rw [if_pos hmem, if_pos (List.mem_cons_of_mem _ hmem)]
      · rw [if_neg hmem, if_neg (by simpa [hne] using hmem)]
        rfl

lemma mem_put {entry : Json.Key × SourceParser} (h : entry ∈ put language parser entries) :
    entry = (language, parser) ∨ entry ∈ entries := by
  induction entries with
  | nil => exact .inl (List.mem_singleton.mp h)
  | cons first rest ih =>
    rw [put] at h
    split_ifs at h
    · rcases List.mem_cons.mp h with h | h
      · exact .inl h
      · exact .inr (List.mem_cons_of_mem _ h)
    · rcases List.mem_cons.mp h with h | h
      · exact .inr (h ▸ List.mem_cons_self)
      · exact (ih h).imp_right (List.mem_cons_of_mem _)

/-- A parser comes to stand where the one before it of its language stood. -/
lemma put_append {before after : List (Json.Key × SourceParser)} {old : SourceParser}
    (h : language ∉ before.map (·.1)) :
    put language parser (before ++ (language, old) :: after) =
      before ++ (language, parser) :: after := by
  induction before with
  | nil => simp [put]
  | cons entry before ih =>
    rw [List.map_cons, List.mem_cons, not_or] at h
    rw [List.cons_append, put, if_neg (Ne.symm h.1), ih h.2]
    rfl

/-! ### Many registrations -/

/-- Entries after registrations, one after the other. -/
def putAll (entries registrations : List (Json.Key × SourceParser)) :
    List (Json.Key × SourceParser) :=
  registrations.foldl (fun entries entry => put entry.1 entry.2 entries) entries

/-- Of the registrations of a language the last counts. -/
lemma lookup_putAll (key : Json.Key) (entries registrations : List (Json.Key × SourceParser)) :
    (putAll entries registrations).lookup key =
      (registrations.reverse.lookup key).or (entries.lookup key) :=
  lookup_foldl (fun entries entry key => lookup_put entry.1 key entry.2 entries) _ _ _

lemma eraseDups_of_nodup {keys : List Json.Key} (h : keys.Nodup) : keys.eraseDups = keys := by
  induction keys with
  | nil => rfl
  | cons key keys ih =>
    rw [List.nodup_cons] at h
    have hkeep : keys.filter (fun other => !other == key) = keys := by
      rw [List.filter_eq_self]
      intro other hother
      have : other ≠ key := fun heq => h.1 (heq ▸ hother)
      simpa using this
    rw [List.eraseDups_cons, hkeep, ih h.2]

/-- Languages stand in the order of their first registrations. -/
lemma map_fst_putAll (h : (entries.map (·.1)).Nodup)
    (registrations : List (Json.Key × SourceParser)) :
    (putAll entries registrations).map (·.1) =
      (entries.map (·.1) ++ registrations.map (·.1)).eraseDups := by
  induction registrations generalizing entries with
  | nil => simp [putAll, eraseDups_of_nodup h]
  | cons entry rest ih =>
    obtain ⟨language, parser⟩ := entry
    have hstep : putAll entries ((language, parser) :: rest) =
        putAll (put language parser entries) rest := rfl
    by_cases hmem : language ∈ entries.map (·.1)
    · have hkeys : (put language parser entries).map (·.1) = entries.map (·.1) := by
        rw [map_fst_put, if_pos hmem]
      have hremoved : (language :: rest.map (·.1)).removeAll (entries.map (·.1)) =
          (rest.map (·.1)).removeAll (entries.map (·.1)) := by
        rw [List.cons_removeAll]
        simp [hmem]
      rw [hstep, ih (hkeys ▸ h), hkeys, List.map_cons, List.eraseDups_append,
        List.eraseDups_append, hremoved]
    · have hkeys : (put language parser entries).map (·.1) = entries.map (·.1) ++ [language] := by
        rw [map_fst_put, if_neg hmem]
      have hnodup : ((put language parser entries).map (·.1)).Nodup := by
        rw [hkeys, ← List.concat_eq_append]
        exact h.concat hmem
      rw [hstep, ih hnodup, hkeys, List.append_assoc]
      rfl

end

/-! ### Deeds -/

/-- What is done to a registry: a parser is defined over a base, or is registered. -/
inductive Deed where
  | define (base : SourceParser) (definition : ParserDefinition)
  | register (parser : SourceParser)

/-- The registration that a deed makes. A definition makes one only for a fit parser with a proper
name. -/
def Deed.registration? : Deed → Option (Json.Key × SourceParser)
  | .register parser        => parser.registration?
  | .define base definition =>
    let parser := base.derive definition
    if !Files.hasNull parser.name && parser.concrete && !(parser.extensions.getD []).isEmpty then
      parser.registration?
    else none

/-- Does a deed to a registry, which may be refused. -/
def perform (registry : Registry) : Deed → Except RegistryError Registry
  | .define base definition => registry.define (base.derive definition)
  | .register parser        => registry.register parser

/-- The registry after a deed; one that is refused leaves it as it was. -/
def afterDeed (registry : Registry) (deed : Deed) : Registry :=
  match registry.perform deed with
  | .ok next => next
  | .error _ => registry

/-- The registry after deeds, one after the other. -/
def after (registry : Registry) (deeds : List Deed) : Registry :=
  deeds.foldl afterDeed registry

section

variable {registry : Registry} {parser : SourceParser}

/-- A parser is registered under its language, or refused when that can be no key. -/
lemma register_cases (registry : Registry) (parser : SourceParser) :
    (∃ key, parser.registration? = some (key, parser) ∧
        registry.register parser = .ok ⟨put key parser registry.entries⟩) ∨
      parser.registration? = none ∧ ∃ error, registry.register parser = .error error := by
  unfold register SourceParser.registration?
  cases parser.language with
  | none => exact .inr ⟨rfl, _, rfl⟩
  | some language =>
    cases hkey : language.key? with
    | none => exact .inr ⟨by simp [hkey], _, by simp only [hkey]; rfl⟩
    | some key => exact .inl ⟨key, by simp [hkey], by simp only [hkey]⟩

lemma perform_cases (registry : Registry) (deed : Deed) :
    (∃ key parser, deed.registration? = some (key, parser) ∧
        registry.perform deed = .ok ⟨put key parser registry.entries⟩) ∨
      deed.registration? = none ∧
        (registry.perform deed = .ok registry ∨ ∃ error, registry.perform deed = .error error) := by
  cases deed with
  | register parser =>
    rcases registry.register_cases parser with ⟨key, hkey, h⟩ | ⟨hnone, h⟩
    · exact .inl ⟨key, parser, hkey, h⟩
    · exact .inr ⟨hnone, .inr h⟩
  | define base definition =>
    simp only [perform, define, Deed.registration?]
    generalize base.derive definition = parser
    by_cases hnull : Files.hasNull parser.name
    · exact .inr ⟨by simp [hnull], .inr ⟨_, if_pos hnull⟩⟩
    · rw [if_neg hnull]
      by_cases hconcrete : parser.concrete
      · by_cases hempty : (parser.extensions.getD []).isEmpty
        · exact .inr ⟨by simp [hempty], .inr ⟨_, by simp only [hconcrete, hempty]; rfl⟩⟩
        · rcases registry.register_cases parser with ⟨key, hkey, h⟩ | ⟨hnone, error, h⟩
          · exact .inl ⟨key, parser, by simp [hnull, hconcrete, hempty, hkey],
              by simp [hconcrete, hempty, h]⟩
          · exact .inr ⟨by simp [hnone], .inr ⟨error, by simp [hconcrete, hempty, h]⟩⟩
      · exact .inr ⟨by simp [hconcrete], .inl (by simp [hconcrete])⟩

/-- A deed that makes a registration puts it among the entries, and any other does nothing. -/
lemma entries_afterDeed (registry : Registry) (deed : Deed) :
    (registry.afterDeed deed).entries = putAll registry.entries deed.registration?.toList := by
  rcases registry.perform_cases deed with ⟨key, parser, hkey, h⟩ | ⟨hnone, h | ⟨error, h⟩⟩
  · rw [afterDeed, h, hkey]
    rfl
  · rw [afterDeed, h, hnone]
    rfl
  · rw [afterDeed, h, hnone]
    rfl

/-- The entries after a history are those from before it with its registrations. -/
lemma entries_after (registry : Registry) (deeds : List Deed) :
    (registry.after deeds).entries =
      putAll registry.entries (deeds.filterMap Deed.registration?) := by
  induction deeds generalizing registry with
  | nil => rfl
  | cons deed deeds ih =>
    have hstep : registry.after (deed :: deeds) = (registry.afterDeed deed).after deeds := rfl
    rw [hstep, ih, entries_afterDeed]
    cases hdeed : deed.registration? with
    | none => simp [hdeed, putAll]
    | some entry => simp [hdeed, putAll]

/-! ### Parsers that can be put to use -/

/-- Whether a registry has one entry for a language, each of a fit parser under the language that it
is of. -/
structure Proper (registry : Registry) : Prop where
  nodup : (registry.entries.map (·.1)).Nodup
  own   : ∀ entry ∈ registry.entries, entry.2.registration? = some entry
  fit   : ∀ entry ∈ registry.entries, entry.2.Fit

lemma Proper.put (h : registry.Proper) {key : Json.Key}
    (hown : parser.registration? = some (key, parser)) (hfit : parser.Fit) :
    Proper ⟨put key parser registry.entries⟩ where
  nodup := by
    change ((Registry.put key parser registry.entries).map (·.1)).Nodup
    rw [map_fst_put]
    split_ifs with hmem
    · exact h.nodup
    · rw [← List.concat_eq_append]
      exact h.nodup.concat hmem
  own := by
    intro entry hentry
    rcases mem_put hentry with rfl | hentry
    · exact hown
    · exact h.own entry hentry
  fit := by
    intro entry hentry
    rcases mem_put hentry with rfl | hentry
    · exact hfit
    · exact h.fit entry hentry

end

end Registry

namespace SourceParser

variable {parser : SourceParser}

/-- A parser is not concrete if its definition leaves a method to others, whatever it is derived
from, or does not give one that its base leaves to others. -/
lemma concrete_derive_eq_false_iff {base : SourceParser} {definition : ParserDefinition} :
    (base.derive definition).concrete = false ↔
      definition.owes ≠ [] ∨ ∃ method ∈ base.owed, method ∉ definition.gives := by
  rw [concrete, List.isEmpty_eq_false_iff, derive]
  by_cases howes : definition.owes = []
  · simp [howes]
  · simp [howes]

/-- A concrete parser is not defined without extensions. -/
lemma Defined.fit (h : parser.Defined) (hconcrete : parser.concrete = true) : parser.Fit := by
  refine ⟨hconcrete, ?_⟩
  cases h with
  | bare => cases hconcrete
  | derive earlier accepted =>
    intro hempty
    unfold Registry.define at accepted
    split_ifs at accepted
    · simp_all
    · simp_all

lemma registration?_eq_some {entry : Json.Key × SourceParser}
    (h : parser.registration? = some entry) : entry.2 = parser := by
  obtain ⟨key, -, rfl⟩ := Option.map_eq_some_iff.mp h
  rfl

end SourceParser

namespace Registry

variable {registry : Registry}

/-- A deed registers a fit parser under its own language, if it is not the registering of a parser
that is not fit. -/
lemma Deed.registration?_eq_some {deed : Deed} {entry : Json.Key × SourceParser}
    (hdeed : ∀ parser, deed = .register parser → parser.Fit)
    (h : deed.registration? = some entry) :
    entry.2.registration? = some entry ∧ entry.2.Fit := by
  cases deed with
  | register parser =>
    rw [SourceParser.registration?_eq_some h]
    exact ⟨h, hdeed parser rfl⟩
  | define base definition =>
    simp only [registration?] at h
    split_ifs at h with hfit
    rw [SourceParser.registration?_eq_some h]
    simp only [Bool.and_eq_true, Bool.not_eq_true', List.isEmpty_eq_false_iff] at hfit
    exact ⟨h, hfit.1.2, hfit.2⟩

lemma Proper.afterDeed (h : registry.Proper) {deed : Deed}
    (hdeed : ∀ parser, deed = .register parser → parser.Fit) :
    (registry.afterDeed deed).Proper := by
  rcases registry.perform_cases deed with ⟨key, parser, hkey, hput⟩ | ⟨-, hsame | ⟨error, hsame⟩⟩
  · obtain ⟨hown, hfit⟩ := Deed.registration?_eq_some hdeed hkey
    rw [Registry.afterDeed, hput]
    exact h.put hown hfit
  · rw [Registry.afterDeed, hsame]
    exact h
  · rw [Registry.afterDeed, hsame]
    exact h

lemma Proper.after (h : registry.Proper) {deeds : List Deed}
    (hdeeds : ∀ parser, .register parser ∈ deeds → parser.Fit) : (registry.after deeds).Proper := by
  induction deeds generalizing registry with
  | nil => exact h
  | cons deed deeds ih =>
    have hdeed : ∀ parser, deed = .register parser → parser.Fit := by
      rintro parser rfl
      exact hdeeds parser List.mem_cons_self
    exact ih (h.afterDeed hdeed) fun parser hparser =>
      hdeeds parser (List.mem_cons_of_mem _ hparser)

/-! ### Answers -/

/-- Whether a parser takes files with an extension. -/
def takes (extension : String) (parser : SourceParser) : Bool :=
  (parser.extensions.getD []).contains extension

lemma findExtension_eq (extension : String) {parsers : List SourceParser}
    (h : ∀ parser ∈ parsers, parser.Fit) :
    findExtension extension parsers = .ok (parsers.find? (takes extension)) := by
  induction parsers with
  | nil => rfl
  | cons parser rest ih =>
    obtain ⟨extensions, hextensions⟩ : ∃ extensions, parser.extensions = some extensions := by
      cases hnone : parser.extensions with
      | none => exact absurd (by simp [hnone]) (h parser List.mem_cons_self).hasExtensions
      | some extensions => exact ⟨extensions, rfl⟩
    have htakes : takes extension parser = extensions.contains extension := by
      rw [takes, hextensions, Option.getD_some]
    simp only [findExtension, hextensions, ← htakes]
    by_cases hmem : takes extension parser
    · rw [if_pos hmem, List.find?_cons_of_pos hmem]
    · rw [if_neg hmem, List.find?_cons_of_neg hmem]
      exact ih fun other hother => h other (List.mem_cons_of_mem _ hother)

lemma use_of_fit {parser : SourceParser} (h : parser.Fit) : use parser = .ok parser := by
  rw [use, if_pos h.concrete]

/-- A proper registry answers with the parser that is registered for a language. -/
lemma Proper.forLanguage_eq (h : registry.Proper) (language : String) :
    registry.forLanguage language =
      match registry.entries.lookup (.name language) with
      | some parser => .ok parser
      | none        => .error (.unknownLanguage language) := by
  rw [forLanguage]
  cases hlookup : registry.entries.lookup (.name language) with
  | none => rfl
  | some parser => exact use_of_fit (h.fit _ (mem_of_lookup hlookup))

/-- A proper registry answers with the first parser that takes files with a path's extension. -/
lemma Proper.forPath_eq (h : registry.Proper) (path : String) :
    registry.forPath path =
      match registry.parsers.find? (takes (Files.extension path)) with
      | some parser => .ok parser
      | none        => .error (.unknownExtension (Files.extension path) path) := by
  have hfit : ∀ parser ∈ registry.parsers, parser.Fit := by
    intro parser hparser
    obtain ⟨entry, hentry, rfl⟩ := List.mem_map.mp hparser
    exact h.fit entry hentry
  simp only [forPath, findExtension_eq _ hfit, bind, Except.bind]
  cases hfind : registry.parsers.find? (takes (Files.extension path)) with
  | none => rfl
  | some parser => exact use_of_fit (hfit parser (List.mem_of_find?_eq_some hfind))

/-- Whether the definition of a parser is refused: over its name or, where it is concrete, over its
extensions or its language. -/
def Refused (parser : SourceParser) : Prop :=
  Files.hasNull parser.name ∨ parser.concrete ∧
    (parser.extensions.getD [] = [] ∨ parser.language.bind Json.key? = none)

lemma define_error_iff (registry : Registry) (parser : SourceParser) :
    (∃ error, registry.define parser = .error error) ↔ Refused parser := by
  unfold define Refused
  by_cases hnull : Files.hasNull parser.name
  · simp [hnull]
  · by_cases hconcrete : parser.concrete
    · by_cases hempty : parser.extensions.getD [] = []
      · simp [hnull, hconcrete, hempty]
      · rcases registry.register_cases parser with ⟨key, hkey, h⟩ | ⟨hnone, error, h⟩
        · have hlanguage : parser.language.bind Json.key? ≠ none := by
            intro hnone
            simp [SourceParser.registration?, hnone] at hkey
          simp [hnull, hconcrete, hempty, h, hlanguage]
        · have hlanguage : parser.language.bind Json.key? = none := Option.map_eq_none_iff.mp hnone
          simp [hnull, hconcrete, hempty, h, hlanguage]
    · simp [hnull, hconcrete]

lemma afterDeed_of_abstract (registry : Registry) {base : SourceParser}
    {definition : ParserDefinition} (h : (base.derive definition).concrete = false) :
    registry.afterDeed (.define base definition) = registry := by
  have hnone : (Deed.define base definition).registration? = none := by
    simp [Deed.registration?, h]
  rcases registry.perform_cases (.define base definition) with
    ⟨key, parser, hkey, -⟩ | ⟨-, hsame | ⟨error, hsame⟩⟩
  · rw [hnone] at hkey
    cases hkey
  · rw [afterDeed, hsame]
  · rw [afterDeed, hsame]

lemma Proper.lookup_of_mem (h : registry.Proper) {entry : Json.Key × SourceParser}
    (hentry : entry ∈ registry.entries) : registry.entries.lookup entry.1 = some entry.2 := by
  obtain ⟨before, rest, hentries⟩ := List.append_of_mem hentry
  refine List.lookup_eq_some_iff.mpr ⟨before, rest, hentries, ?_⟩
  intro other hother
  have hnodup := h.nodup
  rw [hentries, List.map_append, List.map_cons, List.nodup_append] at hnodup
  have := hnodup.2.2 other.1 (List.mem_map_of_mem hother) entry.1 List.mem_cons_self
  simpa using Ne.symm this

/-- After any history a registry has one parser for each language, in the order in which languages
were first registered, and it is the one that was registered last. A language is answered with that
parser, and a path with the first in order that takes files with its extension. Registering a
language again changes its entry in place. A refused deed changes nothing, and neither does the
definition of an abstract parser: of one that leaves a method to others, even over a concrete base,
or does not give one that its base leaves to others. -/
theorem answers_after_history (registry : Registry) (deeds : List Deed)
    (hregistry : registry.Proper)
    (hdeeds : ∀ parser, .register parser ∈ deeds → parser.Defined ∧ parser.concrete = true) :
    let registrations := deeds.filterMap Deed.registration?
    let last (language : Json.Key) :=
      (registrations.reverse.lookup language).or (registry.entries.lookup language)
    let now := registry.after deeds
    now.Proper ∧
    now.entries.map (·.1) =
      (registry.entries.map (·.1) ++ registrations.map (·.1)).eraseDups ∧
    (∀ entry ∈ now.entries, last entry.1 = some entry.2) ∧
    (∀ language, now.forLanguage language =
      match last (.name language) with
      | some parser => .ok parser
      | none        => .error (.unknownLanguage language)) ∧
    (∀ path, now.forPath path =
      match now.parsers.find? (takes (Files.extension path)) with
      | some parser => .ok parser
      | none        => .error (.unknownExtension (Files.extension path) path)) ∧
    (∀ deed key parser before old rest, deed.registration? = some (key, parser) →
      now.entries = before ++ (key, old) :: rest →
      (now.afterDeed deed).entries = before ++ (key, parser) :: rest) ∧
    (∀ base definition, (∃ error, now.perform (.define base definition) = .error error) ↔
      Refused (base.derive definition)) ∧
    (∀ deed error, now.perform deed = .error error → now.afterDeed deed = now) ∧
    (∀ base definition, (base.derive definition).concrete = false →
      now.afterDeed (.define base definition) = now) ∧
    ∀ (base : SourceParser) (definition : ParserDefinition),
      (base.derive definition).concrete = false ↔
        definition.owes ≠ [] ∨ ∃ method ∈ base.owed, method ∉ definition.gives := by
  intro registrations last now
  have hproper : now.Proper := hregistry.after fun parser hparser =>
    (hdeeds parser hparser).1.fit (hdeeds parser hparser).2
  have hlookup : ∀ language, now.entries.lookup language = last language := by
    intro language
    rw [entries_after, lookup_putAll]
  refine ⟨hproper, ?_, ?_, ?_, hproper.forPath_eq, ?_, ?_, ?_, ?_, ?_⟩
  · rw [entries_after, map_fst_putAll hregistry.nodup]
  · intro entry hentry
    rw [← hlookup]
    exact hproper.lookup_of_mem hentry
  · intro language
    rw [← hlookup]
    exact hproper.forLanguage_eq language
  · intro deed key parser before old rest hdeed hentries
    have hnew : key ∉ before.map (·.1) := by
      have hnodup := hproper.nodup
      rw [hentries, List.map_append, List.map_cons, List.nodup_append] at hnodup
      exact fun hmem => hnodup.2.2 key hmem key List.mem_cons_self rfl
    rw [entries_afterDeed, hdeed, hentries]
    exact put_append hnew
  · intro base definition
    exact now.define_error_iff (base.derive definition)
  · intro deed error herror
    rw [afterDeed, herror]
  · intro base definition hconcrete
    exact now.afterDeed_of_abstract hconcrete
  · intro base definition
    exact SourceParser.concrete_derive_eq_false_iff

/-- A parser of Java files with a method that it leaves to others. -/
def sketchedJava : ParserDefinition :=
  ⟨"SketchedSourceParser", none, none, [], ["_get_dialect"]⟩

/-- A history in which Java is registered again, another language claims the extension of its files
as well, it gets another parser that takes another extension and then one that is abstract, and a
parser without extensions is refused. -/
def contested : List Deed := [
  .register .java,
  .define .bare ⟨"KotlinSourceParser", some (.str "kotlin"), some [".kt", ".java"],
    [SourceParser.grammarMethod], []⟩,
  .define .java ⟨"JshSourceParser", none, some [".jsh"], [], []⟩,
  .define .java sketchedJava,
  .define .bare ⟨"LooseSourceParser", some (.str "loose"), none, [SourceParser.grammarMethod], []⟩]

lemma proper_bundled : bundled.Proper where
  nodup := List.nodup_singleton _
  own := by simp [bundled, SourceParser.java, SourceParser.registration?, Json.key?]
  fit := by
    intro entry hentry
    rw [List.mem_singleton.mp hentry]
    exact ⟨rfl, by simp [SourceParser.java]⟩

lemma defined_java : SourceParser.java.Defined := by
  have haccepted : ({} : Registry).define (SourceParser.bare.derive
      ⟨"JavaSourceParser", some (.str "java"), some [".java"], [SourceParser.grammarMethod], []⟩) =
      .ok bundled := rfl
  exact .derive .bare haccepted

/-- After that history Java comes first and has its new concrete parser, and Java files go to the
parser of the other language. The abstract parser, though its base is concrete, changes nothing. -/
theorem answers_after_contested :
    bundled.Proper ∧
      (∀ parser, .register parser ∈ contested → parser.Defined ∧ parser.concrete = true) ∧
      (bundled.after contested).entries.map (·.1) = [.name "java", .name "kotlin"] ∧
      ((bundled.after contested).forLanguage "java").map (·.name) = .ok "JshSourceParser" ∧
      ((bundled.after contested).forPath "A.JAVA").map (·.name) = .ok "KotlinSourceParser" ∧
      SourceParser.java.concrete = true ∧
      (bundled.after contested).afterDeed (.define .java sketchedJava) =
        bundled.after contested := by
  have hregister : ∀ parser, .register parser ∈ contested →
      parser.Defined ∧ parser.concrete = true := by
    intro parser hparser
    obtain rfl : parser = .java := by simpa [contested] using hparser
    exact ⟨defined_java, rfl⟩
  obtain ⟨-, hlanguages, -, hlanguage, hpath, -, -, -, hsame, habstract⟩ :=
    answers_after_history bundled contested proper_bundled hregister
  refine ⟨proper_bundled, hregister, ?_, ?_, ?_, rfl, ?_⟩
  · rw [hlanguages]
    decide +kernel
  · rw [hlanguage]
    rfl
  · have hextension : Files.extension "A.JAVA" = ".java" := by decide +kernel
    rw [hpath, hextension]
    rfl
  · exact hsame _ _ ((habstract _ _).mpr (.inl (by decide)))

end Registry

end Outline
