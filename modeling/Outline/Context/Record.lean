import Outline.Context.Part
import Outline.Supplied
import Outline.Text.Utf8

/-!
# Records of a context

What a context collects besides other contexts: the fields it declares and the calls it makes. A
record is made whole from strings or not at all, and is never changed.
-/

namespace Outline

/-- A field declaration: its modifiers, the names it declares and their type. -/
structure FieldEntry (α : Type) where
  modifier   : α
  identifier : α
  typeName   : α
  deriving DecidableEq

/-- A call: the receiver, empty for an unqualified call, the name, and the arguments with their
parentheses. -/
structure Invocation (α : Type) where
  target     : α
  identifier : α
  arguments  : α
  deriving DecidableEq

/-- A value that is handed in where a record wants a string: a string, as the part that it is,
bytes, or anything else. Code points that make no text are a string too. -/
inductive Handed (α : Type) where
  | string (part : α)
  | bytes (content : List UInt8)
  | other
  deriving DecidableEq

variable {α : Type} [Part α]

/-- A field entry on a line of a report. -/
def FieldEntry.render (entry : FieldEntry α) : String :=
  Part.shown entry.modifier ++ " " ++ Part.shown entry.identifier ++ ": "
    ++ Part.shown entry.typeName

/-- A call as it stands in the source. -/
def Invocation.render (call : Invocation α) : String :=
  if Part.shown call.target = "" then Part.shown call.identifier ++ Part.shown call.arguments
  else Part.shown call.target ++ "." ++ Part.shown call.identifier ++ Part.shown call.arguments

/-- The string that a value is taken for; bytes are taken for the text that they are in UTF-8. -/
def Handed.asString : Handed α → Except Complaint α
  | .string part   => .ok part
  | .bytes content =>
    match Text.Utf8.decode content with
    | .ok done => .ok (Part.ofText (String.ofList done.reverse))
    | .error _ => .error .notUnicode
  | .other         => .error .notText

/-- The three strings among values that are handed in, or one rejection for each that is none. -/
def threeStrings (names : String × String × String) (values : Handed α × Handed α × Handed α) :
    Except (List Rejection) (α × α × α) :=
  match values.1.asString, values.2.1.asString, values.2.2.asString with
  | .ok a, .ok b, .ok c => .ok (a, b, c)
  | a, b, c =>
    .error (Rejection.ofReading names.1 a ++ Rejection.ofReading names.2.1 b
      ++ Rejection.ofReading names.2.2 c)

/-- A field entry from values that are handed in. -/
def FieldEntry.ofHanded (modifier identifier typeName : Handed α) :
    Except (List Rejection) (FieldEntry α) := do
  let (a, b, c) ← threeStrings ("modifier", "identifier", "type_identifier")
    (modifier, identifier, typeName)
  return ⟨a, b, c⟩

/-- A call from values that are handed in. -/
def Invocation.ofHanded (target identifier arguments : Handed α) :
    Except (List Rejection) (Invocation α) := do
  let (a, b, c) ← threeStrings ("target", "identifier", "arguments") (target, identifier, arguments)
  return ⟨a, b, c⟩

/-- Setting a value of a record is refused; a name that begins with an underscore is none of its
values, and nothing comes of it. -/
def setValue (name : String) : Except Rejection Unit :=
  if name.startsWith "_" then .ok () else .error ⟨some name, .frozen⟩

end Outline
