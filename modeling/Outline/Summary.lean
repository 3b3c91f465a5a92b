import Outline.Context.Tree
import Outline.Files.Tree
import Outline.Log
import Outline.Registry
import Outline.Settings.Basic
import Outline.Source.View
import Outline.Traversal.Visit
import Outline.Tree.Listing

/-!
# Summaries

From a source text to its report. A grammar turns a text into a parse tree with byte columns; the
tree is visited into a file context, and the context is rendered.
-/

namespace Outline

/-- A grammar: the parse tree of each text, with columns in bytes. -/
abbrev Grammar := String → Node

/-- A parsed source: its language, its tree, and the view that the tree's points have of it. -/
structure SourceTree where
  language : String
  root     : Node
  view     : SourceView

/-- Parses a text. -/
def SourceTree.parse (grammar : Grammar) (language text : String) : SourceTree where
  language := language
  root     := grammar text
  view     := .ofText text

/-- The lines of a parsed source. -/
def SourceTree.lines (tree : SourceTree) : Lines :=
  tree.view.lines

/-- The listing of a parsed source, with columns in characters. -/
def SourceTree.listing (tree : SourceTree) (indent : String) : Except SpanError String :=
  tree.root.listingIn tree.view indent

/-- The number of the file in the store of a summary. -/
def fileId : Nat := 0

/-- Visits a tree into a new file over lines, reading texts through a view of a source. -/
def buildContext (lines : Lines) (view : SourceView) (root : Node) : Visited :=
  let (store, file) := ({} : Store String).newFile lines
  store.visit view root file

/-- The context tree of a parsed source. -/
def SourceTree.visit (tree : SourceTree) : Visited :=
  buildContext tree.lines tree.view tree.root

/-- The report of a tree in a form, if it is made. -/
def ContextTree.report {α : Type} [Part α] (tree : ContextTree α) : OutputFormat → String
  | .text => tree.format 0
  | .json => tree.toJson.render

/-- The tree of contexts that a visit leaves. -/
def Visited.outline (visited : Visited) : ContextTree String :=
  visited.progress.store.tree fileId

/-- The report of a visit that did not fail. -/
def Visited.report (visited : Visited) (output : OutputFormat) : String :=
  visited.outline.report output

/-- The records of a visit. -/
def Visited.log (visited : Visited) : List LogRecord :=
  visited.progress.notices.toList.map .placeholder

/-- Why there is no summary. -/
inductive SummaryError where
  | parser (error : RegistryError)
  | misfit (wrong : Misfit)
  | read (error : Files.ReadError)
  | visit (error : VisitError)
  | nesting
  deriving DecidableEq

/-- The wording of a summary error. -/
def SummaryError.message : SummaryError → String
  | .parser error => error.message
  | .misfit wrong => wrong.message
  | .read error   => error.message
  | .visit error  => error.message
  | .nesting      => nestingMessage

/-- The report of a visit that did not fail, on a machine that has the room for it. -/
def Visited.render (visited : Visited) (room : Room String) (output : OutputFormat) :
    Except SummaryError String :=
  if room.fits output visited.outline then .ok (visited.report output) else .error .nesting

/-- The name of a chosen parser's language. -/
def SourceParser.languageName (parser : SourceParser) : String :=
  (parser.language.map Json.shown).getD ""

/-- The report of a text in a language. -/
def summarize (room : Room String) (registry : Registry) (grammar : Grammar) (text : String)
    (language : Language) (output : OutputFormat) : Except SummaryError String := do
  let parser ← (registry.forLanguage language.name).mapError .parser
  let visited := (SourceTree.parse grammar parser.languageName text).visit
  match visited.failure with
  | some error => throw (.visit error)
  | none       => visited.render room output

/-- The parser that settings name or, failing that, the file name. -/
def chooseParser (registry : Registry) (settings : Settings) (path : String) :
    Except RegistryError SourceParser :=
  match settings.language with
  | some language => registry.forLanguage language.name
  | none          => registry.forPath path

/-- Chooses a parser, then reads and parses the file at a path. -/
def loadTree (registry : Registry) (grammar : Grammar) (files : Files.Access)
    (settings : Settings) (path : String) : Except SummaryError SourceTree := do
  let parser ← (chooseParser registry settings path).mapError .parser
  let text ← (Files.readText files path settings.encoding).mapError .read
  return SourceTree.parse grammar parser.languageName text

/-- The summary of a file and the form it is in. -/
structure FileSummary where
  path     : String
  language : String
  output   : OutputFormat
  content  : String
  deriving DecidableEq

/-- The summary of the file at a path, with the records of its making. -/
def summarizeFile (room : Room String) (registry : Registry) (grammar : Grammar)
    (files : Files.Access) (settings : Settings) (path : String) :
    Except SummaryError (FileSummary × List LogRecord) := do
  let tree ← loadTree registry grammar files settings path
  let visited := tree.visit
  match visited.failure with
  | some error => throw (.visit error)
  | none =>
    let contexts := (visited.progress.store.walk fileId).length
    let built := LogRecord.treeBuilt path tree.language tree.lines.size contexts
    let content ← visited.render room settings.output
    return (⟨path, tree.language, settings.output, content⟩, visited.log ++ [built])

/-- The summary of the file at a path, which has to be a text. The parser is chosen first, by how
the value shows. -/
def summarizeGivenFile (room : Room String) (registry : Registry) (grammar : Grammar)
    (files : Files.Access) (settings : Settings) :
    Json → Except SummaryError (FileSummary × List LogRecord)
  | .str path => summarizeFile room registry grammar files settings path
  | value     => do
    let _ ← (chooseParser registry settings value.shown).mapError .parser
    throw (.misfit (.notPath value.kindWord))

end Outline
