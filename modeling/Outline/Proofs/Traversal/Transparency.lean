import Outline.Proofs.Traversal.Address
import Outline.Summary

/-!
# Transparent nodes

A node that is not interpreted says nothing itself: to visit it is to visit its children. The nodes
above it look at their children from outside, by kinds and points, so that none of them sees what
stands below a visited node. Such a node may therefore give way to its own children wherever the
node above it is not interpreted either, and a visit goes as before.
-/

namespace Outline

/-! ### Nodes from outside -/

/-- A node without its children. -/
def Node.bare (node : Node) : Node :=
  { node with children := [] }

/-- What a scan of a call has found, seen from outside. -/
def CallScan.bare (scan : CallScan) : CallScan :=
  { scan with dot := scan.dot.map Node.bare, nameDot := scan.nameDot.map Node.bare }

namespace Node

lemma foldlM_map_bare {σ : Type} (step : σ → Node → Except SpanError σ)
    (hstep : ∀ scan child, step scan child.bare = step scan child) (children : List Node)
    (scan : σ) : (children.map bare).foldlM step scan = children.foldlM step scan := by
  simp only [List.foldlM_map, hstep]

lemma scanCall_map_bare (view : SourceView) (children : List Node) (scan : CallScan) :
    scanCall view scan.bare (children.map bare) =
      (scanCall view scan children).map CallScan.bare := by
  induction children generalizing scan with
  | nil => rfl
  | cons child rest ih =>
    have hkind : child.bare.kind = child.kind := rfl
    have htext : child.bare.text view = child.text view := rfl
    rw [List.map_cons, scanCall, scanCall, hkind, htext]
    split_ifs
    · exact ih { scan with dot := some child }
    · cases child.text view with
      | error error => rfl
      | ok name => exact ih { scan with identifier := name, nameDot := scan.dot }
    · cases child.text view <;> rfl
    · exact ih scan

lemma receiver_map_bare (view : SourceView) (node : Node) (dot : Option Node) :
    receiver view node (dot.map bare) = receiver view node dot := by
  cases dot <;> rfl

lemma callFinding_map_bare (view : SourceView) (node : Node) :
    callFinding view { node with children := node.children.map bare } = callFinding view node := by
  have hscan : scanCall view {} (node.children.map bare) =
      (scanCall view {} node.children).map CallScan.bare := scanCall_map_bare view _ {}
  rw [callFinding, callFinding]
  dsimp only
  rw [hscan]
  cases scanCall view {} node.children with
  | error error => rfl
  | ok scan =>
    have hreceiver : receiver view { node with children := node.children.map bare }
        (scan.nameDot.map bare) = receiver view node scan.nameDot :=
      receiver_map_bare view node scan.nameDot
    simp only [Except.map, bind, Except.bind, CallScan.bare, hreceiver]
    rfl

/-- Only a field looks below its children. -/
lemma finding_map_bare {role : Role} (hrole : role ≠ .fieldDeclaration) (view : SourceView)
    (node : Node) :
    role.finding view { node with children := node.children.map bare } =
      role.finding view node := by
  cases role with
  | importDeclaration => rfl
  | classDeclaration =>
    have hscan := foldlM_map_bare (ClassScan.step view) (fun _ _ => rfl) node.children {}
    simp only [Role.finding, classFinding, hscan]
    rfl
  | fieldDeclaration => exact absurd rfl hrole
  | methodInvocation => exact callFinding_map_bare view node
  | methodDeclaration =>
    have hscan := foldlM_map_bare (MethodScan.step view) (fun _ _ => rfl) node.children {}
    simp only [Role.finding, methodFinding, hscan]
    rfl

lemma bodyIndex_map_bare (children : List Node) :
    bodyIndex (children.map bare) = bodyIndex children := by
  simp only [bodyIndex, List.zipIdx_map, List.foldl_map]
  rfl

/-! ### Replacing a node -/

/-- The tree with another node at an address. -/
def replaceAt : Node → Address → Node → Node
  | _,    [],           new => new
  | node, i :: address, new =>
    { node with children := node.children.modify i (replaceAt · address new) }

/-- To replace a child is to replace its node by one that has the other child. -/
lemma replaceAt_child {root node : Node} {address : Address} (h : root.at? address = some node)
    (i : Nat) (new : Node) :
    root.replaceAt (address ++ [i]) new =
      root.replaceAt address { node with children := node.children.set i new } := by
  induction address generalizing root with
  | nil =>
    cases h
    simp only [List.nil_append, replaceAt, List.set_eq_modify]
  | cons j address ih =>
    obtain ⟨child, hchild, h⟩ := Option.bind_eq_some_iff.mp h
    obtain ⟨hj, rfl⟩ := List.getElem?_eq_some_iff.mp hchild
    simp only [List.cons_append, replaceAt, List.modify_eq_take_cons_drop hj, ih h]

lemma at?_of_visits {root node : Node} {address : Address} (h : root.Visits address node) :
    root.at? address = some node := by
  induction h with
  | root => rfl
  | child _ hchild _ ih => exact at?_child ih hchild

/-- Two nodes are alike to a view if they look the same from outside and a visit of one does what a
visit of the other does. -/
structure Alike (view : SourceView) (node other : Node) : Prop where
  bare_eq    : other.bare = node.bare
  descend_eq : ∀ (progress : Progress) (owner : Nat),
    progress.descend view owner other = progress.descend view owner node

end Node

namespace Progress

variable {view : SourceView}

lemma descendAll_append (nodes more : List Node) (progress : Progress) (owner : Nat) :
    progress.descendAll view owner (nodes ++ more) =
      (progress.descendAll view owner nodes).andThen fun progress =>
        progress.descendAll view owner more := by
  induction nodes generalizing progress with
  | nil =>
    rw [List.nil_append, descendAll]
    rfl
  | cons node nodes ih =>
    rw [List.cons_append, descendAll, descendAll, Visited.andThen_assoc]
    congr 1
    funext progress
    exact ih progress

/-- A visit of nodes goes as before when one of them is replaced by one that is alike. -/
lemma descendAll_set {nodes : List Node} {i : Nat} {node other : Node}
    (hnode : nodes[i]? = some node) (alike : node.Alike view other) (progress : Progress)
    (owner : Nat) :
    progress.descendAll view owner (nodes.set i other) = progress.descendAll view owner nodes := by
  induction nodes generalizing i progress with
  | nil => rfl
  | cons first nodes ih =>
    cases i with
    | zero =>
      cases hnode
      rw [List.set_cons_zero, descendAll, descendAll, alike.descend_eq]
    | succ i =>
      rw [List.set_cons_succ, descendAll, descendAll]
      congr 1
      funext progress
      exact ih hnode progress

/-- A visit of a node that is not interpreted is a visit of its children. -/
lemma descend_of_role?_none {node : Node} (h : node.role? = none) (progress : Progress)
    (owner : Nat) :
    progress.descend view owner node = progress.descendAll view owner node.children := by
  rw [descend, interpret, h, Node.descent, h]

end Progress

/-! ### Replacing what is alike -/

namespace Node

variable {view : SourceView} {node child other : Node} {i : Nat}

lemma Alike.map_bare_set (alike : child.Alike view other) {nodes : List Node}
    (hchild : nodes[i]? = some child) : (nodes.set i other).map bare = nodes.map bare := by
  obtain ⟨hi, rfl⟩ := List.getElem?_eq_some_iff.mp hchild
  rw [List.map_set, alike.bare_eq, ← List.map_set, List.set_getElem_self]

lemma firstVisited_congr {children : List Node}
    (h : children.map bare = node.children.map bare) :
    firstVisited { node with children } = firstVisited node := by
  have hlength : children.length = node.children.length := by
    simpa using congrArg List.length h
  have hbody : bodyIndex children = bodyIndex node.children := by
    rw [← bodyIndex_map_bare, h, bodyIndex_map_bare]
  have hrole : role? { node with children } = node.role? := rfl
  simp only [firstVisited, hrole, hlength, hbody]

lemma interpret_congr {children : List Node} (hfield : node.role? ≠ some .fieldDeclaration)
    (h : children.map bare = node.children.map bare) (progress : Progress) (owner : Nat) :
    progress.interpret view owner { node with children } = progress.interpret view owner node := by
  have hrole : role? { node with children } = node.role? := rfl
  rw [Progress.interpret, Progress.interpret, hrole]
  cases hcase : node.role? with
  | none => rfl
  | some role =>
    have hne : role ≠ .fieldDeclaration := fun heq => hfield (by rw [hcase, heq])
    have hfinding : role.finding view { node with children } = role.finding view node := by
      rw [← finding_map_bare hne, ← finding_map_bare hne view node]
      dsimp only
      rw [h]
    simp only [hfinding]

/-- A node is alike with a child replaced that it admits and that is alike. -/
lemma Alike.set_child (alike : child.Alike view other) (hchild : node.children[i]? = some child)
    (hadmits : node.Admits i) :
    node.Alike view { node with children := node.children.set i other } := by
  have hbare := alike.map_bare_set hchild
  have hfield : node.role? ≠ some .fieldDeclaration := by
    intro hrole
    exact hadmits.2.1 (role?_eq_some_iff.mp hrole)
  have hle := (admits_iff hchild).mp hadmits
  have hdescent : descent { node with children := node.children.set i other } =
      node.descent.set (i - node.firstVisited) other := by
    rw [descent_eq_drop, descent_eq_drop, firstVisited_congr hbare, List.drop_set,
      if_neg (Nat.not_lt.mpr hle)]
  have hbelow : node.descent[i - node.firstVisited]? = some child := by
    rw [descent_getElem?, Nat.add_sub_of_le hle, hchild]
  refine ⟨rfl, ?_⟩
  intro progress owner
  rw [Progress.descend, Progress.descend, interpret_congr hfield hbare, hdescent]
  cases progress.interpret view owner node with
  | error error => rfl
  | ok answer => exact Progress.descendAll_set hbelow alike answer.1 answer.2

/-- A tree is alike with a visited node replaced by one that is alike. -/
lemma Alike.replaceAt {root : Node} {address : Address} (visited : root.Visits address node)
    (alike : node.Alike view other) : root.Alike view (root.replaceAt address other) := by
  induction visited generalizing other with
  | root => exact alike
  | child visited hchild hadmits ih =>
    rw [replaceAt_child (at?_of_visits visited)]
    exact ih (alike.set_child hchild hadmits)

/-- A node that is not interpreted is alike with the children of such a child in its place. -/
lemma alike_dissolved {before after : List Node} (hnode : node.role? = none)
    (hchild : child.role? = none) (hchildren : node.children = before ++ child :: after) :
    node.Alike view { node with children := before ++ child.children ++ after } := by
  refine ⟨rfl, ?_⟩
  intro progress owner
  have hrole : role? { node with children := before ++ child.children ++ after } = none := hnode
  rw [Progress.descend_of_role?_none hrole, Progress.descend_of_role?_none hnode, hchildren,
    List.append_assoc, Progress.descendAll_append, Progress.descendAll_append]
  congr 1
  funext middle
  rw [Progress.descendAll_append, Progress.descendAll, Progress.descend_of_role?_none hchild]

end Node

/-! ### Visits one after the other -/

/-- A visit's end with notices that were given before. -/
def Visited.following (notices : Array Notice) (visited : Visited) : Visited :=
  { visited with
    progress := { visited.progress with notices := notices ++ visited.progress.notices } }

/-- Visits trees into one context, one after the other until one of the visits fails. -/
def Store.visitEach (store : Store String) (view : SourceView) (target : Nat) :
    List Node → Visited
  | []            => ⟨{ store }, none⟩
  | node :: nodes =>
    (store.visit view node target).andThen fun progress =>
      (progress.store.visitEach view target nodes).following progress.notices

namespace Progress

variable {view : SourceView}

lemma interpret_following (progress : Progress) (owner : Nat) (node : Node) :
    progress.interpret view owner node =
      (interpret { progress with notices := #[] } view owner node).map fun (after, next) =>
        ({ after with notices := progress.notices ++ after.notices }, next) := by
  unfold interpret
  cases node.role? with
  | none => simp [Except.map]
  | some role =>
    dsimp only
    cases role.finding view node with
    | error error => rfl
    | ok finding =>
      dsimp only
      cases progress.store.record owner finding.fact with
      | error error => rfl
      | ok answer => simp [Except.map]

/-- The notices of a visit come after those that were given before it, and nothing else hangs on
them. -/
lemma descend_following :
    (∀ (node : Node) (progress : Progress) (owner : Nat),
      progress.descend view owner node =
        (descend view { progress with notices := #[] } owner node).following progress.notices) ∧
    ∀ (nodes : List Node) (progress : Progress) (owner : Nat),
      progress.descendAll view owner nodes =
        (descendAll view { progress with notices := #[] } owner nodes).following
          progress.notices := by
  apply Node.induction_on_descent
  case node =>
    intro node ih progress owner
    rw [descend, descend, interpret_following]
    cases interpret { progress with notices := #[] } view owner node with
    | error error => simp [Except.map, Visited.following]
    | ok answer =>
      obtain ⟨after, next⟩ := answer
      simp only [Except.map]
      rw [ih, ih after]
      simp [Visited.following]
  case nil =>
    intro progress owner
    rw [descendAll, descendAll]
    simp [Visited.following]
  case cons =>
    intro node nodes ihNode ihNodes progress owner
    rw [descendAll, descendAll, ihNode]
    obtain ⟨middle, _ | error⟩ := descend view { progress with notices := #[] } owner node
    · simp only [Visited.following, Visited.andThen_ok]
      rw [ihNodes, ihNodes middle]
      simp [Visited.following]
    · rfl

lemma descendAll_eq_visitEach (store : Store String) (target : Nat) (nodes : List Node) :
    descendAll view { store } target nodes = store.visitEach view target nodes := by
  induction nodes generalizing store with
  | nil =>
    rw [descendAll]
    rfl
  | cons node nodes ih =>
    rw [descendAll, Store.visitEach, store.visit_eq]
    congr 1
    funext progress
    rw [descend_following.2 nodes progress target, ← ih]

end Progress

/-- A node that is not interpreted is transparent. Where it stands below a visited node that is not
interpreted either, its children may take its place: a new file is filled in the same way, with the
same notices and the same failure if there is one, and so is any other context. To visit such a node
is to visit its children one after the other, until one of the visits fails. -/
theorem uninterpreted_nodes_are_transparent (lines : Lines) (view : SourceView)
    (root parent node : Node) (address : Address) (before after : List Node)
    (visited : root.Visits address parent) (hparent : parent.role? = none)
    (hnode : node.role? = none) (hchildren : parent.children = before ++ node :: after) :
    let dissolved :=
      root.replaceAt address { parent with children := before ++ node.children ++ after }
    buildContext lines view dissolved = buildContext lines view root ∧
    (∀ store target, Store.visit store view dissolved target = store.visit view root target) ∧
    ∀ (other : Node) store target, other.role? = none →
      Store.visit store view other target = store.visitEach view target other.children := by
  intro dissolved
  have alike : root.Alike view dissolved :=
    (Node.alike_dissolved hparent hnode hchildren).replaceAt visited
  have hvisit : ∀ store target,
      Store.visit store view dissolved target = store.visit view root target := by
    intro store target
    rw [store.visit_eq, store.visit_eq, alike.descend_eq]
  refine ⟨hvisit _ _, hvisit, ?_⟩
  intro other store target hother
  rw [store.visit_eq, Progress.descend_of_role?_none hother, Progress.descendAll_eq_visitEach]

/-- A class with two calls in its body. -/
def wrappedLines : Lines :=
  #["class A { f(); g(); }"]

/-- The two calls, and an import that lies past the end of the line. -/
def wrappedCalls : List Node := [
  ⟨"method_invocation", ⟨0, 10⟩, ⟨0, 13⟩, [
    ⟨"identifier", ⟨0, 10⟩, ⟨0, 11⟩, []⟩, ⟨"argument_list", ⟨0, 11⟩, ⟨0, 13⟩, []⟩]⟩,
  ⟨"method_invocation", ⟨0, 15⟩, ⟨0, 18⟩, [⟨"argument_list", ⟨0, 16⟩, ⟨0, 18⟩, []⟩]⟩,
  ⟨"import_declaration", ⟨0, 20⟩, ⟨0, 30⟩, []⟩]

/-- A body of the class. -/
def wrappedBody (children : List Node) : Node :=
  ⟨"class_body", ⟨0, 8⟩, ⟨0, 21⟩, children⟩

/-- A tree of the class with a body. -/
def wrappedTree (body : Node) : Node :=
  ⟨"class_declaration", ⟨0, 0⟩, ⟨0, 21⟩, [⟨"identifier", ⟨0, 6⟩, ⟨0, 7⟩, []⟩, body]⟩

/-- A node around the two calls that has no place in the lines. -/
def wrapper : Node :=
  ⟨"block", ⟨7, 7⟩, ⟨-1, 0⟩, wrappedCalls⟩

/-- Without the node around the calls there is the same class with the same calls, one of them
without a name, and the same failure at the import. -/
theorem uninterpreted_nodes_are_transparent_block :
    let body := wrappedBody [wrapper]
    let plain := buildContext wrappedLines (.ofLines wrappedLines)
      ((wrappedTree body).replaceAt [1] (wrappedBody wrappedCalls))
    (wrappedTree body).Visits [1] body ∧ body.role? = none ∧ wrapper.role? = none ∧
      plain = buildContext wrappedLines (.ofLines wrappedLines) (wrappedTree body) ∧
      plain.failure = some (.span (.noColumn 30 0 21)) ∧
      plain.report .text = "File\n  default class A\n    Invoke: f()\n    Invoke: none()\n" ∧
      plain.log = [.placeholder ⟨"method_invocation", .identifier, 1⟩] := by
  intro body plain
  have visited : (wrappedTree body).Visits [1] body :=
    .child .root rfl ((Node.admits_iff rfl).mpr (by decide))
  have hplain : plain = buildContext wrappedLines (.ofLines wrappedLines) (wrappedTree body) :=
    (uninterpreted_nodes_are_transparent wrappedLines (.ofLines wrappedLines) (wrappedTree body)
      body wrapper [1] [] [] visited rfl rfl rfl).1
  refine ⟨visited, rfl, rfl, hplain, ?_, ?_, ?_⟩
  · rw [hplain]
    decide +kernel
  · rw [hplain]
    decide +kernel
  · rw [hplain]
    decide +kernel

end Outline
