import Outline.Context.Part
import Outline.Text.Quoted

/-!
# Shapes of contexts

A context is a file, a package, a class or a function; the latter two carry the parts of their
heading.
-/

namespace Outline

/-- What a context is, with the parts of its heading. -/
inductive Shape (α : Type) where
  | file
  | package
  | classDef (modifier identifier : α)
  | functionDef (modifiers identifier parameters returnType : α)
  deriving DecidableEq, Inhabited

namespace Shape

variable {α : Type}

/-- The word for a shape in a structured report. -/
def kind : Shape α → String
  | .file           => "file"
  | .package        => "package"
  | .classDef ..    => "class"
  | .functionDef .. => "function"

/-- The word for a shape in messages. -/
def label : Shape α → String
  | .file           => "FileContext"
  | .package        => "PackageContext"
  | .classDef ..    => "ClassContext"
  | .functionDef .. => "FunctionContext"

variable [Part α]

/-- The heading of a context in a report. -/
def header : Shape α → String
  | .file    => "File"
  | .package => "Package"
  | .classDef modifier identifier => s!"{Part.shown modifier} class {Part.shown identifier}"
  | .functionDef modifiers identifier parameters returnType =>
    Part.shown modifiers ++ " " ++ Part.shown identifier ++ " " ++ Part.shown parameters ++ ": "
      ++ Part.shown returnType

/-- A context as messages mention it. -/
def mention (shape : Shape α) : String :=
  s!"<{shape.label} {Text.quoted shape.header}>"

end Shape

end Outline
