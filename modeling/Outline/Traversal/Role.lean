import Outline.Tree.Node

/-!
# Interpreted nodes

Five kinds of node say something about the structure of a source; all others only hold what is below
them. The kind of a node alone decides which of its children are visited.
-/

namespace Outline

/-- What an interpreted node declares or does. -/
inductive Role where
  | importDeclaration
  | classDeclaration
  | fieldDeclaration
  | methodInvocation
  | methodDeclaration
  deriving DecidableEq

/-- The role of a kind, if it is interpreted. -/
def Role.ofKind? (kind : String) : Option Role :=
  if kind = "import_declaration" then some .importDeclaration
  else if kind = "class_declaration" then some .classDeclaration
  else if kind = "field_declaration" then some .fieldDeclaration
  else if kind = "method_invocation" then some .methodInvocation
  else if kind = "method_declaration" then some .methodDeclaration
  else none

/-- The kinds that can stand for a declared or returned type. -/
def typeKinds : List String := [
  "void_type", "integral_type", "floating_point_type", "boolean_type", "type_identifier",
  "scoped_type_identifier", "generic_type", "array_type"]

namespace Node

/-- The role of a node. -/
def role? (node : Node) : Option Role :=
  Role.ofKind? node.kind

/-- The index of the last class body among children, zero when there is none. -/
def bodyIndex (children : List Node) : Nat :=
  children.zipIdx.foldl (fun found (child, i) => if child.kind = "class_body" then i else found) 0

/-- The children visited below a node: none of an import or a field, those from the last body on of
a class, all of any other node. -/
def descent (node : Node) : List Node :=
  match node.role? with
  | some .importDeclaration => []
  | some .fieldDeclaration  => []
  | some .classDeclaration  => node.children.drop (bodyIndex node.children)
  | _                       => node.children

theorem sizeList_descent_lt (node : Node) : size.sizeList node.descent < node.size := by
  rw [size_eq, descent]
  split
  · simp only [size.sizeList]; omega
  · simp only [size.sizeList]; omega
  · have := sizeList_drop_le node.children (bodyIndex node.children); omega
  · omega

end Node

end Outline
