import Outline.Context.Store
import Outline.Json.Index
import Outline.Json.Printer
import Outline.Language

/-!
# Context trees and their reports

The finished tree under a context, apart from the store it grew in, and the two reports of it: an
indented text and a JSON value. A report is made by calls that go down into the contexts, of which a
machine has room for so many only, and no report is made where it has none left.
-/

namespace Outline

/-- A context with everything below it. -/
structure ContextTree (α : Type) where
  contents : Contents α
  children : List (ContextTree α)
  deriving Inhabited

variable {α : Type}

/-- The tree under a context. -/
def Store.tree (store : Store α) (id : Nat) : ContextTree α :=
  ⟨(store.context id).toContents, (store.below id).attach.map fun ⟨child, _⟩ => tree store child⟩
termination_by store.size - id
decreasing_by
  rename_i h
  have := mem_below h
  omega

theorem Store.tree_eq (store : Store α) (id : Nat) :
    store.tree id = ⟨(store.context id).toContents, (store.below id).map store.tree⟩ := by
  rw [tree]; simp

/-- How deep the contexts of a tree are nested, itself included. -/
def ContextTree.depth : ContextTree α → Nat
  | ⟨_, children⟩ => 1 + depthList children
where
  depthList : List (ContextTree α) → Nat
    | []            => 0
    | tree :: trees => max (depth tree) (depthList trees)

/-- What a machine has room for when it makes reports: the spaces before the lines of a tree's
report at an indentation, and the calls that go down into the contexts of a tree, which hang on the
form of the report. -/
structure Room (α : Type) where
  spaces : Int → ContextTree α → Bool := fun _ _ => true
  fits   : OutputFormat → ContextTree α → Bool := fun _ _ => true

/-! ### Text reports -/

/-- A line of a report at an indentation; a negative one is none. -/
def reportLine (indent : Int) (text : String) : String :=
  String.ofList (List.replicate indent.toNat ' ') ++ text ++ "\n"

variable [Part α]

/-- The lines a context has of its own: its heading, then, one step deeper, its imports, fields and
calls. -/
def Contents.block (contents : Contents α) (indent : Int) : String :=
  String.join (
    [reportLine indent contents.shape.header]
      ++ contents.imports.toList.map (fun part => reportLine (indent + 2) (Part.shown part))
      ++ contents.fields.toList.map (fun entry => reportLine (indent + 2) entry.render)
      ++ contents.invocations.toList.map fun call =>
          reportLine (indent + 2) ("Invoke: " ++ call.render))

/-- The report of a tree: its own lines, then its children one step deeper. -/
def ContextTree.format (indent : Int) : ContextTree α → String
  | ⟨contents, children⟩ => contents.block indent ++ formatList (indent + 2) children
where
  formatList (indent : Int) : List (ContextTree α) → String
    | []            => ""
    | tree :: trees => format indent tree ++ formatList indent trees

/-- Why a report cannot be indented: the number of spaces is beyond a machine word, there is no room
for so many or for the nesting of the contexts, or they are no number. -/
inductive IndentError where
  | beyondWord
  | noRoom
  | nesting
  | misfit (wrong : Misfit)
  deriving DecidableEq

/-- The wording about contexts that are nested too deep. -/
def nestingMessage : String := "maximum recursion depth exceeded"

/-- The wording of an indentation error; there is nothing to say about a lack of room for spaces. -/
def IndentError.message : IndentError → String
  | .beyondWord   => "cannot fit 'int' into an index-sized integer"
  | .noRoom       => ""
  | .nesting      => nestingMessage
  | .misfit wrong => wrong.message

/-- The report of a tree at an indentation, on a machine that has the room for it. -/
def ContextTree.formatAt (room : Room α) (tree : ContextTree α) (indent : Json) :
    Except IndentError String :=
  match indent.whole? with
  | none        => .error (.misfit (.notTimes indent.kindWord))
  | some indent =>
    if !fitsWord indent then .error .beyondWord
    else if !room.spaces indent tree then .error .noRoom
    else if !room.fits .text tree then .error .nesting
    else .ok (tree.format indent)

/-! ### Structured reports -/

/-- A field entry as a JSON value. -/
def FieldEntry.toJson (entry : FieldEntry α) : Json :=
  .record [("modifier", Part.toJson entry.modifier), ("identifier", Part.toJson entry.identifier),
    ("type", Part.toJson entry.typeName)]

/-- A call as a JSON value. -/
def Invocation.toJson (call : Invocation α) : Json :=
  .record [("target", Part.toJson call.target), ("identifier", Part.toJson call.identifier),
    ("arguments", Part.toJson call.arguments)]

/-- The members that only one shape has. -/
def Shape.ownMembers : Shape α → List (String × Json)
  | .file    => []
  | .package => []
  | .classDef modifier identifier =>
    [("modifier", Part.toJson modifier), ("identifier", Part.toJson identifier)]
  | .functionDef modifiers identifier parameters returnType =>
    [("modifiers", Part.toJson modifiers), ("identifier", Part.toJson identifier),
      ("parameters", Part.toJson parameters), ("return_type", Part.toJson returnType)]

/-- A tree as a JSON value. -/
def ContextTree.toJson : ContextTree α → Json
  | ⟨contents, children⟩ =>
    .record ([
      ("kind", .str contents.shape.kind),
      ("header", .str contents.shape.header),
      ("imports", .arr (contents.imports.toList.map Part.toJson)),
      ("fields", .arr (contents.fields.toList.map FieldEntry.toJson)),
      ("invocations", .arr (contents.invocations.toList.map Invocation.toJson)),
      ("children", .arr (toJsonList children))] ++ contents.shape.ownMembers)
where
  toJsonList : List (ContextTree α) → List Json
    | []            => []
    | tree :: trees => toJson tree :: toJsonList trees

end Outline
