import Outline.Proofs.Traversal.Recursion
import Mathlib.Data.List.Infix
import Mathlib.Order.Lex

/-!
# Addresses of nodes

A node goes by its address, the indices of the children that lead to it from the root. In the order
of addresses a node comes before all that is below it and after all that stands to its left, so
that this is the order in which a document is read. Which nodes are visited, and which of them is
the nearest declaration around another, is said of addresses by kinds alone.
-/

namespace Outline

/-- Where a node stands in a tree: the indices of children from the root down. -/
abbrev Address := List Nat

/-- The kind of node that has a role. -/
def Role.kind : Role → String
  | .importDeclaration => "import_declaration"
  | .classDeclaration  => "class_declaration"
  | .fieldDeclaration  => "field_declaration"
  | .methodInvocation  => "method_invocation"
  | .methodDeclaration => "method_declaration"

lemma Role.ofKind?_kind (role : Role) : Role.ofKind? role.kind = some role := by
  cases role <;> rfl

namespace Node

lemma role?_eq_some_iff {node : Node} {role : Role} :
    node.role? = some role ↔ node.kind = role.kind := by
  constructor
  · intro h
    unfold role? Role.ofKind? at h
    split_ifs at h with hkind hkind hkind hkind hkind
    all_goals
      cases h
      exact hkind
  · intro h
    rw [role?, h, Role.ofKind?_kind]

/-- The node at an address. -/
def at? (root : Node) : Address → Option Node
  | []            => some root
  | i :: address => root.children[i]?.bind (at? · address)

/-- Whether a node opens a context: it declares a class or a method. -/
def opens (node : Node) : Bool :=
  node.kind = "class_declaration" || node.kind = "method_declaration"

/-- Whether the child at an index is visited when its node is. The children of an import or a field
are not, nor are those of a class before its last body. -/
def Admits (node : Node) (i : Nat) : Prop :=
  node.kind ≠ "import_declaration" ∧ node.kind ≠ "field_declaration" ∧
    (node.kind = "class_declaration" →
      ∀ j body, i < j → node.children[j]? = some body → body.kind ≠ "class_body")

/-- The nodes of a tree that are visited, with their addresses: the root, and the children that a
visited node admits. -/
inductive Visits (root : Node) : Address → Node → Prop where
  | root : Visits root [] root
  | child {address : Address} {node child : Node} {i : Nat} (visited : Visits root address node)
      (found : node.children[i]? = some child) (admitted : node.Admits i) :
      Visits root (address ++ [i]) child

/-- The address of the nearest declaration around the node at an address: the last among the proper
beginnings of the address at which a declaration stands. -/
def owner? (root : Node) (address : Address) : Option Address :=
  (address.inits.dropLast.filter fun above => (root.at? above).any opens).getLast?

/-! ### Going one step down -/

lemma at?_append (root : Node) (address below : Address) :
    root.at? (address ++ below) = (root.at? address).bind (·.at? below) := by
  induction address generalizing root with
  | nil => rfl
  | cons i address ih =>
    simp only [List.cons_append, at?, Option.bind_assoc, ih]

lemma at?_child {root node child : Node} {address : Address} {i : Nat}
    (hnode : root.at? address = some node) (hchild : node.children[i]? = some child) :
    root.at? (address ++ [i]) = some child := by
  rw [at?_append, hnode]
  simp [at?, hchild]

/-- The last of the beginnings of an address is all of it. -/
private lemma inits_eq_append (address : Address) :
    address.inits = address.inits.dropLast ++ [address] := by
  rcases List.eq_nil_or_concat address with rfl | ⟨above, i, rfl⟩
  · rfl
  · rw [List.concat_eq_append, List.inits_append]
    simp

/-- Below a declaration it is the owner; below any other node the owner stays. -/
lemma owner?_child {root node : Node} {address : Address} (h : root.at? address = some node)
    (i : Nat) :
    root.owner? (address ++ [i]) = if node.opens then some address else root.owner? address := by
  have hinits : (address ++ [i]).inits.dropLast = address.inits.dropLast ++ [address] := by
    rw [← inits_eq_append, List.inits_append]
    simp
  rw [owner?, hinits, List.filter_append, List.filter_singleton, h]
  by_cases hopens : node.opens
  · simp [hopens]
  · simp [hopens, owner?]

/-! ### The children that are visited -/

/-- The index of the first child that is visited; all later ones are. -/
def firstVisited (node : Node) : Nat :=
  match node.role? with
  | some .importDeclaration => node.children.length
  | some .fieldDeclaration  => node.children.length
  | some .classDeclaration  => bodyIndex node.children
  | _                       => 0

lemma descent_eq_drop (node : Node) : node.descent = node.children.drop node.firstVisited := by
  rw [descent, firstVisited]
  split <;> simp_all

lemma bodyIndex_append (children : List Node) (child : Node) :
    bodyIndex (children ++ [child]) =
      if child.kind = "class_body" then children.length else bodyIndex children := by
  simp [bodyIndex, List.zipIdx_append]

/-- The last body stands at an index or before it just in case no body comes after that index. -/
lemma bodyIndex_le_iff (children : List Node) (i : Nat) :
    bodyIndex children ≤ i ↔
      ∀ j body, i < j → children[j]? = some body → body.kind ≠ "class_body" := by
  induction children using List.reverseRecOn with
  | nil => simp [bodyIndex]
  | append_singleton children child ih =>
    rw [bodyIndex_append]
    by_cases hbody : child.kind = "class_body"
    · rw [if_pos hbody]
      constructor
      · intro hle j body hj hfound
        have hnone : (children ++ [child])[j]? = none := by
          rw [List.getElem?_eq_none_iff]
          simp only [List.length_append, List.length_singleton]
          omega
        rw [hnone] at hfound
        cases hfound
      · intro h
        by_contra hlt
        exact h children.length child (Nat.lt_of_not_le hlt) (by simp) hbody
    · rw [if_neg hbody, ih]
      constructor
      · intro h j body hj hfound
        rcases Nat.lt_trichotomy j children.length with hlt | rfl | hgt
        · rw [List.getElem?_append_left hlt] at hfound
          exact h j body hj hfound
        · rw [List.getElem?_concat_length] at hfound
          cases hfound
          exact hbody
        · rw [List.getElem?_eq_none (by simp; omega)] at hfound
          cases hfound
      · intro h j body hj hfound
        have hlt := (List.getElem?_eq_some_iff.mp hfound).1
        exact h j body hj (by rw [List.getElem?_append_left hlt]; exact hfound)

/-- A node admits its children from the first visited one on. -/
lemma admits_iff {node child : Node} {i : Nat} (hchild : node.children[i]? = some child) :
    node.Admits i ↔ node.firstVisited ≤ i := by
  have hi := (List.getElem?_eq_some_iff.mp hchild).1
  cases hrole : node.role? with
  | none =>
    have hkind : ∀ role : Role, node.kind ≠ role.kind := by
      intro role h
      rw [role?_eq_some_iff.mpr h] at hrole
      cases hrole
    have hadmits : node.Admits i :=
      ⟨hkind .importDeclaration, hkind .fieldDeclaration,
        fun h => absurd h (hkind .classDeclaration)⟩
    simp [firstVisited, hrole, hadmits]
  | some role =>
    have hkind := role?_eq_some_iff.mp hrole
    cases role with
    | classDeclaration => simp [Admits, firstVisited, hrole, hkind, Role.kind, bodyIndex_le_iff]
    | _ => simp [Admits, firstVisited, hrole, hkind, Role.kind, hi]

/-- The child at an index of those visited, and its index among all. -/
lemma descent_getElem? (node : Node) (j : Nat) :
    node.descent[j]? = node.children[node.firstVisited + j]? := by
  rw [descent_eq_drop, List.getElem?_drop]

end Node

end Outline
