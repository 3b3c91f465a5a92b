import Outline.Source.Span

/-!
# Parse trees

A node has a kind, two points and its children in document order. What the points count, bytes or
characters, is for the user of the tree to say.
-/

namespace Outline

/-- A node of a parse tree. -/
structure Node where
  kind     : String
  start    : Point
  stop     : Point
  children : List Node
  deriving Inhabited

namespace Node

/-- The number of nodes in a tree. -/
def size : Node → Nat
  | ⟨_, _, _, children⟩ => 1 + sizeList children
where
  sizeList : List Node → Nat
    | []            => 0
    | node :: nodes => size node + sizeList nodes

/-- Trees with a number that they share. -/
def tagged (tag : Nat) (nodes : List Node) : List (Nat × Node) :=
  nodes.map (tag, ·)

theorem map_snd_tagged (tag : Nat) (nodes : List Node) :
    (tagged tag nodes).map (·.2) = nodes := by
  simp [tagged, Function.comp_def]

/-! ### Sizes -/

theorem size_eq (node : Node) : node.size = 1 + size.sizeList node.children := by
  cases node; rfl

theorem size_pos (node : Node) : 0 < node.size := by
  rw [size_eq]; omega

theorem sizeList_append (xs ys : List Node) :
    size.sizeList (xs ++ ys) = size.sizeList xs + size.sizeList ys := by
  induction xs with
  | nil => simp [size.sizeList]
  | cons x xs ih => simp only [List.cons_append, size.sizeList, ih]; omega

theorem sizeList_drop_le (xs : List Node) (n : Nat) :
    size.sizeList (xs.drop n) ≤ size.sizeList xs := by
  induction xs generalizing n with
  | nil => simp [size.sizeList]
  | cons x xs ih =>
    cases n with
    | zero => simp
    | succ n =>
      have := ih n
      simp only [List.drop_succ_cons, size.sizeList]; omega

end Node

end Outline
