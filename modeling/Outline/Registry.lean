import Outline.Files.Name
import Outline.Json.Key
import Outline.Json.Misfit
import Outline.Text.Utf8

/-!
# Parser registry

Parsers are registered under their language. A language keeps the place of its first registration
and the parser of its last one. A parser is chosen by language, or by the extension of a file name
in the order of the languages. Languages are values, and values of one worth are one language.
-/

namespace Outline

/-- A parser as the registry knows it. It may lack a language or extensions, and it may leave
methods to the parsers that are derived from it. -/
structure SourceParser where
  name       : String
  language   : Option Json
  extensions : Option (List String)
  owed       : List String

/-- A new parser in terms of another one, from which it takes what it does not give. Of methods it
may give some and leave others to the parsers that are derived from it. -/
structure ParserDefinition where
  name       : String
  language   : Option Json
  extensions : Option (List String)
  gives      : List String := []
  owes       : List String := []

namespace SourceParser

/-- Whether a parser can be put to use: it leaves no method to others. -/
def concrete (parser : SourceParser) : Bool :=
  parser.owed.isEmpty

/-- The method by which a parser gets its grammar. -/
def grammarMethod : String := "_get_ts_parser"

/-- The parser that gives nothing. -/
def bare : SourceParser where
  name       := "AbstractSourceParser"
  language   := none
  extensions := none
  owed       := [grammarMethod]

/-- The parser of Java files. -/
def java : SourceParser where
  name       := "JavaSourceParser"
  language   := some (.str "java")
  extensions := some [".java"]
  owed       := []

/-- The parser of a definition over a base. A method is owed that the definition leaves to others,
and one that the base does, unless the definition gives it. -/
def derive (base : SourceParser) (definition : ParserDefinition) : SourceParser where
  name       := definition.name
  language   := definition.language <|> base.language
  extensions := definition.extensions <|> base.extensions
  owed       := definition.owes ++ base.owed.filter fun method =>
    !definition.gives.contains method && !definition.owes.contains method

end SourceParser

/-- Why the registry refuses. -/
inductive RegistryError where
  | nullInName
  | noExtensions (parser : String)
  | unsetExtensions (parser : String)
  | unsetLanguage (parser : String)
  | notConcrete (parser : String) (owed : List String)
  | unknownLanguage (language : String)
  | unknownExtension (extension path : String)
  | misfit (wrong : Misfit)
  deriving DecidableEq

/-- The most bytes of a parser's name that are told about what it lacks. -/
def mostToldBytes : Nat := 50

/-- The wording about what a parser lacks. -/
def lackMessage (parser lack : String) : String :=
  let told := String.ofList (Text.Utf8.cut mostToldBytes parser.toList)
  s!"type object '{told}' has no attribute '{lack}'"

/-- The wording about a parser that leaves methods to others, which are told in order. -/
def notConcreteMessage (parser : String) (owed : List String) : String :=
  let methods := owed.eraseDups.mergeSort (· ≤ ·)
  let word := if methods.length = 1 then "method" else "methods"
  let told := String.intercalate ", " methods
  s!"Can't instantiate abstract class {parser} with abstract {word} {told}"

/-- The wording of a registry error; a path without extension is named itself. -/
def RegistryError.message : RegistryError → String
  | .nullInName               => "type name must not contain null characters"
  | .noExtensions parser      => s!"{parser} missing `extensions`"
  | .unsetExtensions parser   => lackMessage parser "extensions"
  | .unsetLanguage parser     => lackMessage parser "language"
  | .notConcrete parser owed  => notConcreteMessage parser owed
  | .unknownLanguage language => s!"No parser registered for language: {language}"
  | .unknownExtension extension path =>
    let named := if extension = "" then path else extension
    s!"No parser registered for file extension: {named}"
  | .misfit wrong             => wrong.message

/-- The registered parsers with their languages, in the order of first registration. -/
structure Registry where
  entries : List (Json.Key × SourceParser) := []

namespace Registry

/-- The registry of the parsers that come with the program. -/
def bundled : Registry := ⟨[(.name "java", .java)]⟩

/-- Puts a parser under a language, in the place of the one before it or at the end. -/
def put (language : Json.Key) (parser : SourceParser) :
    List (Json.Key × SourceParser) → List (Json.Key × SourceParser)
  | []            => [(language, parser)]
  | entry :: rest =>
    if entry.1 = language then (language, parser) :: rest
    else entry :: put language parser rest

/-- Registers a parser under its language. -/
def register (registry : Registry) (parser : SourceParser) : Except RegistryError Registry :=
  match parser.language with
  | none          => .error (.unsetLanguage parser.name)
  | some language =>
    match language.key? with
    | none     => .error (.misfit (.noKey language.kindWord))
    | some key => .ok ⟨put key parser registry.entries⟩

/-- Takes note of a new parser: a concrete one needs extensions and is registered. -/
def define (registry : Registry) (parser : SourceParser) : Except RegistryError Registry :=
  if Files.hasNull parser.name then .error .nullInName
  else if !parser.concrete then .ok registry
  else if (parser.extensions.getD []).isEmpty then .error (.noExtensions parser.name)
  else registry.register parser

/-- All parsers in order. -/
def parsers (registry : Registry) : List SourceParser :=
  registry.entries.map (·.2)

/-- A parser to be put to use. -/
def use (parser : SourceParser) : Except RegistryError SourceParser :=
  if parser.concrete then .ok parser else .error (.notConcrete parser.name parser.owed)

/-- The parser of a language. -/
def forLanguage (registry : Registry) (language : String) : Except RegistryError SourceParser :=
  match registry.entries.lookup (.name language) with
  | none        => .error (.unknownLanguage language)
  | some parser => use parser

/-- The first parser that takes files with an extension, if none before it lacks extensions. -/
def findExtension (extension : String) :
    List SourceParser → Except RegistryError (Option SourceParser)
  | []             => .ok none
  | parser :: rest =>
    match parser.extensions with
    | none            => .error (.unsetExtensions parser.name)
    | some extensions =>
      if extensions.contains extension then .ok (some parser) else findExtension extension rest

/-- The parser that takes files with the extension of a path. -/
def forPath (registry : Registry) (path : String) : Except RegistryError SourceParser := do
  let extension := Files.extension path
  match ← findExtension extension registry.parsers with
  | none        => throw (.unknownExtension extension path)
  | some parser => use parser

/-- The parser that takes files with the extension of a path, which has to be a text. -/
def forGivenPath (registry : Registry) : Json → Except RegistryError SourceParser
  | .str path => registry.forPath path
  | value     => .error (.misfit (.notPath value.kindWord))

end Registry

end Outline
