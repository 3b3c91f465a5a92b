import Outline.Json.Literal

/-!
# Choices

The languages a source can be in and the forms a report can take.
-/

namespace Outline

/-- A language of source files. -/
inductive Language where
  | java
  deriving DecidableEq, Inhabited

/-- A form of a report. -/
inductive OutputFormat where
  | text
  | json
  deriving DecidableEq, Inhabited

/-- A value that is the name of none of a family of choices. -/
structure ChoiceError where
  value  : Json
  family : String

/-- The wording of a choice error. -/
def ChoiceError.message (error : ChoiceError) : String :=
  s!"{error.value.literal} is not a valid {error.family}"

/-- The choice that a value names, or why there is none. -/
def choose {α : Type} (ofName? : String → Option α) (family : String) (value : Json) :
    Except ChoiceError α :=
  let choice? := match value with
    | .str name => ofName? name
    | _         => none
  match choice? with
  | some choice => .ok choice
  | none        => .error ⟨value, family⟩

namespace Language

/-- The name of a language. -/
def name : Language → String
  | .java => "java"

/-- All languages. -/
def all : List Language := [.java]

/-- The language with a name. -/
def ofName? (s : String) : Option Language :=
  all.find? (·.name = s)

/-- The language that a value names, or why there is none. -/
def parse (value : Json) : Except ChoiceError Language :=
  choose ofName? "ProgrammingLanguage" value

end Language

namespace OutputFormat

/-- The name of a form. -/
def name : OutputFormat → String
  | .text => "text"
  | .json => "json"

/-- All forms. -/
def all : List OutputFormat := [.text, .json]

/-- The form with a name. -/
def ofName? (s : String) : Option OutputFormat :=
  all.find? (·.name = s)

/-- The form that a value names, or why there is none. -/
def parse (value : Json) : Except ChoiceError OutputFormat :=
  choose ofName? "OutputFormat" value

end OutputFormat

end Outline
