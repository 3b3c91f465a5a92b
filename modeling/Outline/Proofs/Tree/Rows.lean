import Mathlib.Tactic.Common
import Outline.Tree.Listing

/-!
# The rows of a tree

Said by recursion, the nodes of a tree in document order are the node itself and then those of its
children from left to right, one level deeper. The rows that the loop of `Node.rowsFrom` collects
are theirs. The depths tell which rows are below which, so that the tree is got back from its rows.

A tree over a source is listed by the places of its points. That is the listing of the tree in which
each point stands where it lies.
-/

namespace Outline

/-- The row of a node and its depth. -/
def ListingRow.ofNode (entry : Nat × Node) : ListingRow :=
  ⟨entry.1, entry.2.kind, entry.2.start, entry.2.stop⟩

namespace Node

/-- The nodes of a tree in document order, each with its depth when that of the tree is given. -/
def preorder (depth : Nat) : Node → List (Nat × Node)
  | ⟨kind, start, stop, children⟩ =>
    (depth, ⟨kind, start, stop, children⟩) :: preorderAll (depth + 1) children
where
  preorderAll (depth : Nat) : List Node → List (Nat × Node)
    | []            => []
    | node :: nodes => preorder depth node ++ preorderAll depth nodes

/-- The rows of these nodes. -/
def rowsAt (depth : Nat) (node : Node) : List ListingRow :=
  (node.preorder depth).map .ofNode

/-- A tree with its points where they lie in a source. -/
def placed (view : SourceView) : Node → Except SpanError Node
  | ⟨kind, start, stop, children⟩ => do
    return ⟨kind, ← view.place start, ← view.place stop, ← placedAll view children⟩
where
  placedAll (view : SourceView) : List Node → Except SpanError (List Node)
    | []            => return []
    | node :: nodes => do return (← placed view node) :: (← placedAll view nodes)

/-- What holds of a node when it holds of its children holds of all nodes. -/
lemma induction_on_children {P : Node → Prop}
    (node : ∀ kind start stop children, (∀ child ∈ children, P child) →
      P ⟨kind, start, stop, children⟩) (root : Node) : P root := by
  match root with
  | ⟨kind, start, stop, children⟩ =>
    exact node kind start stop children fun child _ => induction_on_children node child

lemma preorderAll_eq_flatMap (depth : Nat) (nodes : List Node) :
    preorder.preorderAll depth nodes = nodes.flatMap (preorder depth) := by
  induction nodes with
  | nil => rfl
  | cons node nodes ih => rw [preorder.preorderAll, ih, List.flatMap_cons]

lemma rowsAt_eq (depth : Nat) (node : Node) :
    node.rowsAt depth =
      .ofNode (depth, node) :: node.children.flatMap (rowsAt (depth + 1)) := by
  cases node
  rw [rowsAt, preorder, preorderAll_eq_flatMap, List.map_cons, List.map_flatMap]
  rfl

/-! ### The rows are those of the nodes in document order -/

lemma toList_rowsFrom (pending : List (Nat × Node)) (done : Array ListingRow) :
    (rowsFrom pending done).toList =
      done.toList ++ pending.flatMap fun entry => entry.2.rowsAt entry.1 := by
  induction pending, done using rowsFrom.induct with
  | case1 done => simp [rowsFrom]
  | case2 done depth node rest ih =>
    rw [rowsFrom, ih, List.flatMap_cons, rowsAt_eq]
    simp [tagged, List.flatMap_map, ListingRow.ofNode]

lemma rows_eq (node : Node) : node.rows = node.rowsAt 0 := by
  rw [rows, toList_rowsFrom]
  simp

/-! ### The tree of rows -/

/-- Rows of children, with trees behind them that are no deeper, are put together to the
children. -/
lemma foldr_adopt_children {children : List Node} {depth : Nat}
    (ih : ∀ child ∈ children, ∀ trees : List (Nat × Node), (∀ tree ∈ trees.head?, tree.1 ≤ depth) →
      (child.rowsAt depth).foldr ListingRow.adopt trees = (depth, child) :: trees)
    {trees : List (Nat × Node)} (h : ∀ tree ∈ trees.head?, tree.1 ≤ depth) :
    (children.flatMap (rowsAt depth)).foldr ListingRow.adopt trees =
      tagged depth children ++ trees := by
  induction children with
  | nil => rfl
  | cons child children ihs =>
    rw [List.forall_mem_cons] at ih
    -- behind a child stands its next sibling, and behind the last child what stood there before
    have hhead : ∀ tree ∈ (tagged depth children ++ trees).head?, tree.1 ≤ depth := by
      cases children with
      | nil => exact h
      | cons next children => simp [tagged]
    rw [List.flatMap_cons, List.foldr_append, ihs ih.2, ih.1 _ hhead]
    rfl

/-- A row takes as its children all trees behind it that are deeper, up to one that is not. -/
lemma adopt_ofNode (depth : Nat) (node : Node) {trees : List (Nat × Node)}
    (h : ∀ tree ∈ trees.head?, tree.1 ≤ depth) :
    (ListingRow.ofNode (depth, node)).adopt (tagged (depth + 1) node.children ++ trees) =
      (depth, node) :: trees := by
  have hdeeper : ∀ tree ∈ tagged (depth + 1) node.children, decide (depth < tree.1) = true := by
    intro tree htree
    obtain ⟨child, -, rfl⟩ := List.mem_map.mp htree
    simp
  have hrest : trees.takeWhile (fun tree => decide (depth < tree.1)) = [] ∧
      trees.dropWhile (fun tree => decide (depth < tree.1)) = trees := by
    cases trees with
    | nil => exact ⟨rfl, rfl⟩
    | cons tree trees =>
      have hnot : ¬ depth < tree.1 := Nat.not_lt.mpr (h tree rfl)
      simp [hnot]
  change (depth, (⟨node.kind, node.start, node.stop,
      ((tagged (depth + 1) node.children ++ trees).takeWhile (depth < ·.1)).map (·.2)⟩ : Node)) ::
    (tagged (depth + 1) node.children ++ trees).dropWhile (depth < ·.1) = (depth, node) :: trees
  rw [List.takeWhile_append_of_pos hdeeper, List.dropWhile_append_of_pos hdeeper, hrest.1, hrest.2,
    List.append_nil, map_snd_tagged]
  cases node
  rfl

lemma foldr_adopt_rowsAt (node : Node) (depth : Nat) {trees : List (Nat × Node)}
    (h : ∀ tree ∈ trees.head?, tree.1 ≤ depth) :
    (node.rowsAt depth).foldr ListingRow.adopt trees = (depth, node) :: trees := by
  induction node using induction_on_children generalizing depth trees with
  | node kind start stop children ih =>
    have hdeeper : ∀ tree ∈ trees.head?, tree.1 ≤ depth + 1 :=
      fun tree htree => Nat.le_succ_of_le (h tree htree)
    rw [rowsAt_eq, List.foldr_cons,
      foldr_adopt_children (fun child hchild trees => ih child hchild (depth + 1)) hdeeper]
    exact adopt_ofNode depth ⟨kind, start, stop, children⟩ h

/-- The rows of a tree stand for that tree. -/
lemma ofRows_rowsAt (node : Node) : ofRows (node.rowsAt 0) = [node] := by
  rw [ofRows, foldr_adopt_rowsAt node 0 (by simp)]
  rfl

/-! ### Trees over a source -/

lemma mapM_placed_children {view : SourceView} {children : List Node} {depth : Nat}
    (ih : ∀ child ∈ children, (child.rowsAt depth).mapM (·.placed view) =
      (child.placed view).map (rowsAt depth)) :
    (children.flatMap (rowsAt depth)).mapM (·.placed view) =
      (placed.placedAll view children).map (·.flatMap (rowsAt depth)) := by
  induction children with
  | nil => rfl
  | cons child children ihs =>
    rw [List.forall_mem_cons] at ih
    rw [List.flatMap_cons, List.mapM_append, ih.1, ihs ih.2, placed.placedAll]
    cases child.placed view with
    | error error => rfl
    | ok seen =>
      cases placed.placedAll view children with
      | error error => rfl
      | ok rest => rfl

/-- The rows of a tree, each with its points where they lie, are those of the tree so placed. -/
lemma mapM_placed_rowsAt (view : SourceView) (node : Node) (depth : Nat) :
    (node.rowsAt depth).mapM (·.placed view) = (node.placed view).map (rowsAt depth) := by
  induction node using induction_on_children generalizing depth with
  | node kind start stop children ih =>
    rw [rowsAt_eq, List.mapM_cons,
      mapM_placed_children fun child hchild => ih child hchild (depth + 1), placed]
    -- what is placed first fails first: the start, the end, then the children
    simp only [ListingRow.placed, ListingRow.ofNode]
    cases view.place start with
    | error error => rfl
    | ok first =>
      cases view.place stop with
      | error error => rfl
      | ok last =>
        cases placed.placedAll view children with
        | error error => rfl
        | ok seen => exact congrArg Except.ok (rowsAt_eq depth ⟨kind, first, last, seen⟩).symm

/-- A tree is listed over a source as the tree with its points where they lie. -/
lemma listingIn_eq (view : SourceView) (node : Node) (indent : String) :
    node.listingIn view indent = (node.placed view).map (·.listing indent) := by
  rw [listingIn, rows_eq, mapM_placed_rowsAt]
  cases node.placed view with
  | error error => rfl
  | ok seen =>
    change Except.ok (listRows indent (seen.rowsAt 0)) = .ok (listRows indent seen.rows)
    rw [rows_eq]

/-- Over lines that its points are those of, a tree is placed as it is. -/
lemma placed_ofLines (lines : Lines) (node : Node) : node.placed (.ofLines lines) = .ok node := by
  induction node using induction_on_children with
  | node kind start stop children ih =>
    have hchildren : placed.placedAll (.ofLines lines) children = .ok children := by
      induction children with
      | nil => rfl
      | cons child children ihs =>
        rw [List.forall_mem_cons] at ih
        rw [placed.placedAll, ih.1, ihs ih.2]
        rfl
    rw [placed, hchildren]
    rfl

end Node

end Outline
