import Outline.Proofs.Traversal.Address

/-!
# The route of a visit

Which nodes a visit comes to, in which order and for which owner, depends on the tree alone, since
contexts get their numbers in the order in which they are opened. The route of a tree lists these
stops. It has exactly the visited nodes, in the order of their addresses; the contexts opened on it
are numbered without a gap; and each stop is for the context of the nearest declaration around it.
-/

namespace Outline

/-- A node that a visit comes to, with its address, the number of the context that owns it and the
number of the next context to be made. -/
structure Stop where
  address : Address
  node    : Node
  owner   : Nat
  number  : Nat

/-- Whether a context is opened at a stop. -/
def Stop.opens (stop : Stop) : Bool :=
  stop.node.opens

/-- The number of contexts that are opened at stops. -/
def openings (stops : List Stop) : Nat :=
  stops.countP Stop.opens

namespace Node

mutual

/-- The stops at a node and below it. -/
def route (address : Address) (owner number : Nat) (node : Node) : List Stop :=
  ⟨address, node, owner, number⟩ ::
    if node.opens then routeAll address node.firstVisited number (number + 1) node.descent
    else routeAll address node.firstVisited owner number node.descent
termination_by 2 * node.size
decreasing_by
  all_goals
    have := node.sizeList_descent_lt
    omega

/-- The stops at and below the children of a node from an index on, with one owner. -/
def routeAll (address : Address) (index owner number : Nat) (nodes : List Node) : List Stop :=
  match nodes with
  | []            => []
  | node :: nodes =>
    let first := node.route (address ++ [index]) owner number
    first ++ routeAll address (index + 1) owner (number + openings first) nodes
termination_by 2 * size.sizeList nodes + 1
decreasing_by
  · simp only [size.sizeList]
    omega
  · have := node.size_pos
    simp only [size.sizeList]
    omega

end

/-- The stops of a visit into a new file. -/
def stops (root : Node) : List Stop :=
  root.route [] 0 1

lemma route_eq (node : Node) (address : Address) (owner number : Nat) :
    node.route address owner number =
      ⟨address, node, owner, number⟩ ::
        routeAll address node.firstVisited (if node.opens then number else owner)
          (if node.opens then number + 1 else number) node.descent := by
  rw [route]
  split <;> rfl

@[simp] lemma routeAll_nil (address : Address) (index owner number : Nat) :
    routeAll address index owner number [] = [] := by
  rw [routeAll]

lemma routeAll_cons (address : Address) (index owner number : Nat) (node : Node)
    (nodes : List Node) :
    routeAll address index owner number (node :: nodes) =
      node.route (address ++ [index]) owner number ++
        routeAll address (index + 1) owner
          (number + openings (node.route (address ++ [index]) owner number)) nodes := by
  rw [routeAll]

/-! ### The visited nodes are the stops -/

lemma visits_of_mem_route (root : Node) :
    (∀ node address owner number, Visits root address node →
      ∀ stop ∈ node.route address owner number, Visits root stop.address stop.node) ∧
    ∀ nodes address index owner number,
      (∀ j child, nodes[j]? = some child → Visits root (address ++ [index + j]) child) →
      ∀ stop ∈ routeAll address index owner number nodes, Visits root stop.address stop.node := by
  apply induction_on_descent
  case node =>
    intro node ih address owner number hnode stop hstop
    rw [route_eq] at hstop
    rcases List.mem_cons.mp hstop with rfl | hstop
    · exact hnode
    · refine ih _ _ _ _ ?_ stop hstop
      intro j child hchild
      rw [descent_getElem?] at hchild
      exact hnode.child hchild ((admits_iff hchild).mpr (Nat.le_add_right _ _))
  case nil =>
    intro address index owner number _ stop hstop
    simp at hstop
  case cons =>
    intro node nodes ihNode ihNodes address index owner number hvisits stop hstop
    rw [routeAll_cons] at hstop
    rcases List.mem_append.mp hstop with hstop | hstop
    · exact ihNode _ _ _ (hvisits 0 node rfl) stop hstop
    · refine ihNodes _ _ _ _ ?_ stop hstop
      intro j child hchild
      have := hvisits (j + 1) child (by simpa using hchild)
      rwa [Nat.add_assoc, Nat.add_comm 1 j]

lemma mem_route_self (node : Node) (address : Address) (owner number : Nat) :
    ⟨address, node, owner, number⟩ ∈ node.route address owner number := by
  rw [route_eq]
  exact List.mem_cons_self

/-- There is a stop at each of the nodes that a route runs over. -/
lemma exists_stop_of_getElem? {nodes : List Node} {j : Nat} {child : Node}
    (hchild : nodes[j]? = some child) (address : Address) (index owner number : Nat) :
    ∃ stop ∈ routeAll address index owner number nodes,
      stop.address = address ++ [index + j] ∧ stop.node = child := by
  induction nodes generalizing j index number with
  | nil => simp at hchild
  | cons node nodes ih =>
    rw [routeAll_cons]
    cases j with
    | zero =>
      obtain rfl : node = child := by simpa using hchild
      exact ⟨_, List.mem_append_left _ (mem_route_self node _ owner number), rfl, rfl⟩
    | succ j =>
      obtain ⟨stop, hmem, haddress, hnode⟩ := ih (j := j) (by simpa using hchild) (index + 1) _
      refine ⟨stop, List.mem_append_right _ hmem, ?_, hnode⟩
      rw [haddress, Nat.add_assoc, Nat.add_comm 1 j]

/-- With a stop, a route has a stop at each child that the stop's node admits. -/
lemma exists_stop_of_admits :
    (∀ (node : Node) address owner number, ∀ stop ∈ node.route address owner number,
      ∀ i child, stop.node.children[i]? = some child → stop.node.Admits i →
        ∃ below ∈ node.route address owner number,
          below.address = stop.address ++ [i] ∧ below.node = child) ∧
    ∀ (nodes : List Node) address index owner number,
      ∀ stop ∈ routeAll address index owner number nodes,
      ∀ i child, stop.node.children[i]? = some child → stop.node.Admits i →
        ∃ below ∈ routeAll address index owner number nodes,
          below.address = stop.address ++ [i] ∧ below.node = child := by
  apply induction_on_descent
  case node =>
    intro node ih address owner number stop hstop i child hchild hadmits
    rw [route_eq] at hstop ⊢
    rcases List.mem_cons.mp hstop with rfl | hstop
    · have hi := (admits_iff hchild).mp hadmits
      obtain ⟨j, rfl⟩ := Nat.exists_eq_add_of_le hi
      have hbelow : node.descent[j]? = some child := by rw [descent_getElem?]; exact hchild
      obtain ⟨below, hmem, hat⟩ := exists_stop_of_getElem? hbelow address node.firstVisited _ _
      exact ⟨below, List.mem_cons_of_mem _ hmem, hat⟩
    · obtain ⟨below, hmem, hat⟩ := ih _ _ _ _ stop hstop i child hchild hadmits
      exact ⟨below, List.mem_cons_of_mem _ hmem, hat⟩
  case nil =>
    intro address index owner number stop hstop
    simp at hstop
  case cons =>
    intro node nodes ihNode ihNodes address index owner number stop hstop i child hchild hadmits
    rw [routeAll_cons] at hstop ⊢
    rcases List.mem_append.mp hstop with hstop | hstop
    · obtain ⟨below, hmem, hat⟩ := ihNode _ _ _ stop hstop i child hchild hadmits
      exact ⟨below, List.mem_append_left _ hmem, hat⟩
    · obtain ⟨below, hmem, hat⟩ := ihNodes _ _ _ _ stop hstop i child hchild hadmits
      exact ⟨below, List.mem_append_right _ hmem, hat⟩

/-- The stops of a tree are at its visited nodes. -/
lemma visits_iff {root node : Node} {address : Address} :
    Visits root address node ↔
      ∃ stop ∈ root.stops, stop.address = address ∧ stop.node = node := by
  constructor
  · intro h
    induction h with
    | root => exact ⟨_, mem_route_self root [] 0 1, rfl, rfl⟩
    | child _ hchild hadmits ih =>
      obtain ⟨stop, hstop, rfl, rfl⟩ := ih
      exact exists_stop_of_admits.1 root [] 0 1 stop hstop _ _ hchild hadmits
  · rintro ⟨stop, hstop, rfl, rfl⟩
    exact (visits_of_mem_route root).1 root [] 0 1 .root stop hstop

/-! ### The order of stops -/

private lemma lt_of_below {address below : Address} {i : Nat} (h : address ++ [i] <+: below) :
    address < below := by
  obtain ⟨rest, rfl⟩ := h
  rw [List.append_assoc]
  conv_lhs => rw [← List.append_nil address]
  exact List.append_left_lt (List.nil_lt_cons _ _)

private lemma lt_of_left {address left right : Address} {i j : Nat} (hij : i < j)
    (hleft : address ++ [i] <+: left) (hright : address ++ [j] <+: right) : left < right := by
  obtain ⟨rest, rfl⟩ := hleft
  obtain ⟨rest', rfl⟩ := hright
  rw [List.append_assoc, List.append_assoc]
  exact List.append_left_lt (List.cons_lt_cons_iff.mpr (.inl hij))

/-- The stops of a route are at or below its first; those of a list are below its address, at or
after the index. -/
lemma isPrefix_of_mem_route :
    (∀ (node : Node) address owner number,
      ∀ stop ∈ node.route address owner number, address <+: stop.address) ∧
    ∀ (nodes : List Node) address index owner number,
      ∀ stop ∈ routeAll address index owner number nodes,
        ∃ j, index ≤ j ∧ address ++ [j] <+: stop.address := by
  apply induction_on_descent
  case node =>
    intro node ih address owner number stop hstop
    rw [route_eq] at hstop
    rcases List.mem_cons.mp hstop with rfl | hstop
    · exact List.prefix_refl _
    · obtain ⟨j, -, hj⟩ := ih _ _ _ _ stop hstop
      exact (List.prefix_append _ _).trans hj
  case nil =>
    intro address index owner number stop hstop
    simp at hstop
  case cons =>
    intro node nodes ihNode ihNodes address index owner number stop hstop
    rw [routeAll_cons] at hstop
    rcases List.mem_append.mp hstop with hstop | hstop
    · exact ⟨index, Nat.le_refl _, ihNode _ _ _ stop hstop⟩
    · obtain ⟨j, hle, hj⟩ := ihNodes _ _ _ _ stop hstop
      exact ⟨j, Nat.le_of_succ_le hle, hj⟩

lemma pairwise_route :
    (∀ (node : Node) address owner number,
      (node.route address owner number).Pairwise fun a b => a.address < b.address) ∧
    ∀ (nodes : List Node) address index owner number,
      (routeAll address index owner number nodes).Pairwise fun a b => a.address < b.address := by
  apply induction_on_descent
  case node =>
    intro node ih address owner number
    rw [route_eq]
    refine List.pairwise_cons.mpr ⟨?_, ih _ _ _ _⟩
    intro stop hstop
    obtain ⟨j, -, hj⟩ := isPrefix_of_mem_route.2 _ _ _ _ _ stop hstop
    exact lt_of_below hj
  case nil => simp
  case cons =>
    intro node nodes ihNode ihNodes address index owner number
    rw [routeAll_cons]
    refine List.pairwise_append.mpr ⟨ihNode _ _ _, ihNodes _ _ _ _, ?_⟩
    intro left hleft right hright
    obtain ⟨j, hj, hbelow⟩ := isPrefix_of_mem_route.2 _ _ _ _ _ right hright
    exact lt_of_left hj (isPrefix_of_mem_route.1 _ _ _ _ left hleft) hbelow

end Node

/-! ### The numbers of stops -/

/-- Whether stops go with the making of contexts from a number on: each has the number that is next
when it is reached, and an owner that has its number by then. -/
def InStep (number : Nat) : List Stop → Prop
  | []            => True
  | stop :: stops =>
    stop.number = number ∧ stop.owner < number ∧
      InStep (if stop.opens then number + 1 else number) stops

lemma openings_cons (stop : Stop) (stops : List Stop) :
    openings (stop :: stops) = (if stop.opens then 1 else 0) + openings stops := by
  rw [openings, List.countP_cons, Nat.add_comm]
  rfl

lemma openings_append (stops more : List Stop) :
    openings (stops ++ more) = openings stops + openings more :=
  List.countP_append

namespace InStep

lemma append {stops more : List Stop} {number : Nat} (h : InStep number stops)
    (hmore : InStep (number + openings stops) more) : InStep number (stops ++ more) := by
  induction stops generalizing number with
  | nil => exact hmore
  | cons stop stops ih =>
    obtain ⟨hnumber, howner, hrest⟩ := h
    refine ⟨hnumber, howner, ih hrest ?_⟩
    rw [openings_cons] at hmore
    split
    · next hopens =>
      rw [if_pos hopens] at hmore
      rwa [Nat.add_assoc]
    · next hopens =>
      rw [if_neg hopens, Nat.zero_add] at hmore
      exact hmore

/-- Each owner is older than the next context, whose number lies in the range of the stops. -/
lemma bounds {stops : List Stop} {number : Nat} (h : InStep number stops) {stop : Stop}
    (hstop : stop ∈ stops) :
    stop.owner < stop.number ∧ number ≤ stop.number ∧
      stop.number + (if stop.opens then 1 else 0) ≤ number + openings stops := by
  induction stops generalizing number with
  | nil => cases hstop
  | cons first stops ih =>
    obtain ⟨hnumber, howner, hrest⟩ := h
    rw [openings_cons]
    rcases List.mem_cons.mp hstop with rfl | hstop
    · omega
    · have := ih hrest hstop
      by_cases hopens : first.opens
      · rw [if_pos hopens] at this ⊢
        omega
      · rw [if_neg hopens] at this ⊢
        omega

/-- The contexts opened at stops are numbered without a gap. -/
lemma map_number {stops : List Stop} {number : Nat} (h : InStep number stops) :
    (stops.filter Stop.opens).map (·.number) = List.range' number (openings stops) := by
  induction stops generalizing number with
  | nil => rfl
  | cons stop stops ih =>
    obtain ⟨hnumber, -, hrest⟩ := h
    rw [openings_cons]
    by_cases hopens : stop.opens
    · rw [if_pos hopens] at hrest
      rw [List.filter_cons_of_pos hopens, List.map_cons, ih hrest, hnumber, if_pos hopens,
        Nat.add_comm 1, List.range'_succ]
    · rw [if_neg hopens] at hrest
      rw [List.filter_cons_of_neg hopens, ih hrest, if_neg hopens, Nat.zero_add]

end InStep

namespace Node

/-- A route goes with the making of contexts, when it starts for an owner that is there. -/
lemma inStep_route :
    (∀ (node : Node) address owner number, owner < number →
      InStep number (node.route address owner number)) ∧
    ∀ (nodes : List Node) address index owner number, owner < number →
      InStep number (routeAll address index owner number nodes) := by
  apply induction_on_descent
  case node =>
    intro node ih address owner number howner
    rw [route_eq]
    refine ⟨rfl, howner, ih _ _ _ _ ?_⟩
    change _ < if node.opens then number + 1 else number
    by_cases hopens : node.opens
    · rw [if_pos hopens, if_pos hopens]
      exact Nat.lt_succ_self _
    · rw [if_neg hopens, if_neg hopens]
      exact howner
  case nil =>
    intro address index owner number _
    rw [routeAll_nil]
    trivial
  case cons =>
    intro node nodes ihNode ihNodes address index owner number howner
    rw [routeAll_cons]
    exact (ihNode _ _ _ howner).append (ihNodes _ _ _ _ (Nat.lt_add_right _ howner))

lemma inStep_stops (root : Node) : InStep 1 root.stops :=
  inStep_route.1 root [] 0 1 Nat.zero_lt_one

/-- A stop of a route is for the route's owner or for a context opened on the route. -/
lemma owner_of_mem_route :
    (∀ (node : Node) address owner number, ∀ stop ∈ node.route address owner number,
      stop.owner = owner ∨ number ≤ stop.owner) ∧
    ∀ (nodes : List Node) address index owner number,
      ∀ stop ∈ routeAll address index owner number nodes,
        stop.owner = owner ∨ number ≤ stop.owner := by
  apply induction_on_descent
  case node =>
    intro node ih address owner number stop hstop
    rw [route_eq] at hstop
    rcases List.mem_cons.mp hstop with rfl | hstop
    · exact .inl rfl
    · have := ih _ _ _ _ stop hstop
      split at this
      · exact .inr (by omega)
      · exact this
  case nil =>
    intro address index owner number stop hstop
    simp at hstop
  case cons =>
    intro node nodes ihNode ihNodes address index owner number stop hstop
    rw [routeAll_cons] at hstop
    rcases List.mem_append.mp hstop with hstop | hstop
    · exact ihNode _ _ _ stop hstop
    · have := ihNodes _ _ _ _ stop hstop
      exact this.imp_right (by omega)

/-! ### Owners and declarations -/

/-- The stops of a route whose owner has the place of the nearest declaration are all for the
nearest declaration around them, when every context opened on the route has the place of its
declaration. -/
lemma place_owner_of_mem_route (root : Node) (place : Nat → Option Address) :
    (∀ (node : Node) address owner number, root.at? address = some node →
      place owner = root.owner? address →
      (∀ stop ∈ node.route address owner number, stop.opens →
        place stop.number = some stop.address) →
      ∀ stop ∈ node.route address owner number, place stop.owner = root.owner? stop.address) ∧
    ∀ (nodes : List Node) address index owner number,
      (∀ j child, nodes[j]? = some child → root.at? (address ++ [index + j]) = some child) →
      (∀ j, place owner = root.owner? (address ++ [j])) →
      (∀ stop ∈ routeAll address index owner number nodes, stop.opens →
        place stop.number = some stop.address) →
      ∀ stop ∈ routeAll address index owner number nodes,
        place stop.owner = root.owner? stop.address := by
  apply induction_on_descent
  case node =>
    intro node ih address owner number hnode howner hplace stop hstop
    rw [route_eq] at hstop hplace
    rcases List.mem_cons.mp hstop with rfl | hstop
    · exact howner
    · refine ih _ _ _ _ ?_ ?_ (fun s hs => hplace s (List.mem_cons_of_mem _ hs)) stop hstop
      · intro j child hchild
        rw [descent_getElem?] at hchild
        exact at?_child hnode hchild
      · intro j
        rw [owner?_child hnode]
        split
        · next hopens => exact hplace _ List.mem_cons_self hopens
        · exact howner
  case nil =>
    intro address index owner number _ _ _ stop hstop
    simp at hstop
  case cons =>
    intro node nodes ihNode ihNodes address index owner number hnodes howner hplace stop hstop
    rw [routeAll_cons] at hstop hplace
    rcases List.mem_append.mp hstop with hstop | hstop
    · exact ihNode _ _ _ (hnodes 0 node rfl) (howner index)
        (fun s hs => hplace s (List.mem_append_left _ hs)) stop hstop
    · refine ihNodes _ _ _ _ ?_ howner
        (fun s hs => hplace s (List.mem_append_right _ hs)) stop hstop
      intro j child hchild
      have := hnodes (j + 1) child (by simpa using hchild)
      rwa [Nat.add_assoc, Nat.add_comm 1 j]

end Node

/-! ### Walking the contexts of a route -/

/-- The numbers of the contexts that are opened at stops for an owner. -/
def openedFor (owner : Nat) (stops : List Stop) : List Nat :=
  (stops.filter fun stop => stop.opens && stop.owner = owner).map (·.number)

lemma openedFor_cons (owner : Nat) (stop : Stop) (stops : List Stop) :
    openedFor owner (stop :: stops) =
      if stop.opens ∧ stop.owner = owner then stop.number :: openedFor owner stops
      else openedFor owner stops := by
  by_cases h : stop.opens ∧ stop.owner = owner
  · simp [openedFor, h]
  · rw [if_neg h, openedFor, List.filter_cons_of_neg (by simpa using h)]
    rfl

lemma openedFor_append (owner : Nat) (stops more : List Stop) :
    openedFor owner (stops ++ more) = openedFor owner stops ++ openedFor owner more := by
  simp [openedFor]

lemma openedFor_eq_nil {owner : Nat} {stops : List Stop}
    (h : ∀ stop ∈ stops, stop.owner ≠ owner) : openedFor owner stops = [] := by
  simp only [openedFor, List.map_eq_nil_iff, List.filter_eq_nil_iff]
  intro stop hstop
  simp [h stop hstop]

/-- Whether a walk from a context that is opened at stops meets it first, and then what walks from
the contexts that are opened for it meet. -/
def Unfolds (walk : Nat → List Nat) (stops : List Stop) : Prop :=
  ∀ stop ∈ stops, stop.opens →
    walk stop.number = stop.number :: (openedFor stop.number stops).flatMap walk

namespace Unfolds

variable {walk : Nat → List Nat} {stop : Stop} {stops first rest : List Stop}

lemma of_cons (h : Unfolds walk (stop :: stops))
    (hstop : ∀ s ∈ stops, s.opens → ¬ (stop.opens ∧ stop.owner = s.number)) :
    Unfolds walk stops := by
  intro s hs hopens
  have hwalk := h s (List.mem_cons_of_mem _ hs) hopens
  rw [openedFor_cons, if_neg (hstop s hs hopens)] at hwalk
  exact hwalk

lemma left (h : Unfolds walk (first ++ rest))
    (hrest : ∀ s ∈ first, s.opens → ∀ other ∈ rest, other.owner ≠ s.number) :
    Unfolds walk first := by
  intro s hs hopens
  have hwalk := h s (List.mem_append_left _ hs) hopens
  rw [openedFor_append, openedFor_eq_nil (hrest s hs hopens), List.append_nil] at hwalk
  exact hwalk

lemma right (h : Unfolds walk (first ++ rest))
    (hfirst : ∀ s ∈ rest, s.opens → ∀ other ∈ first, other.owner ≠ s.number) :
    Unfolds walk rest := by
  intro s hs hopens
  have hwalk := h s (List.mem_append_right _ hs) hopens
  rw [openedFor_append, openedFor_eq_nil (hfirst s hs hopens), List.nil_append] at hwalk
  exact hwalk

end Unfolds

/-- Contexts that are met before those opened for them are met in the order of their numbers. -/
lemma flatMap_openedFor (walk : Nat → List Nat) :
    (∀ (node : Node) address owner number, owner < number →
      Unfolds walk (node.route address owner number) →
      (openedFor owner (node.route address owner number)).flatMap walk =
        List.range' number (openings (node.route address owner number))) ∧
    ∀ (nodes : List Node) address index owner number, owner < number →
      Unfolds walk (Node.routeAll address index owner number nodes) →
      (openedFor owner (Node.routeAll address index owner number nodes)).flatMap walk =
        List.range' number (openings (Node.routeAll address index owner number nodes)) := by
  apply Node.induction_on_descent
  case node =>
    intro node ih address owner number howner hwalk
    rw [Node.route_eq] at hwalk ⊢
    rw [openings_cons]
    by_cases hopens : node.opens
    · have hself : Stop.opens ⟨address, node, owner, number⟩ = true := hopens
      simp only [hopens, if_true] at hwalk ⊢
      rw [if_pos hself]
      have hstep := Node.inStep_route.2 node.descent address node.firstVisited number (number + 1)
        (Nat.lt_succ_self _)
      have hothers : openedFor owner
          (Node.routeAll address node.firstVisited number (number + 1) node.descent) = [] := by
        apply openedFor_eq_nil
        intro stop hstop
        have := Node.owner_of_mem_route.2 _ _ _ _ _ stop hstop
        omega
      have hbelow := ih address node.firstVisited number (number + 1) (Nat.lt_succ_self _) (by
        apply hwalk.of_cons
        intro stop hstop _
        have := hstep.bounds hstop
        simp only [not_and]
        omega)
      rw [openedFor_cons, if_pos ⟨hself, rfl⟩, hothers, List.flatMap_singleton,
        hwalk _ List.mem_cons_self hself, openedFor_cons, if_neg (by simp only [not_and]; omega),
        hbelow, Nat.add_comm 1, List.range'_succ]
    · have hself : ¬ Stop.opens ⟨address, node, owner, number⟩ = true := hopens
      simp only [hopens] at hwalk ⊢
      rw [if_neg hself, Nat.zero_add, openedFor_cons, if_neg (fun h => hself h.1)]
      apply ih address node.firstVisited owner number howner
      exact hwalk.of_cons fun _ _ _ h => hself h.1
  case nil => simp [openedFor, openings]
  case cons =>
    intro node nodes ihNode ihNodes address index owner number howner hwalk
    rw [Node.routeAll_cons] at hwalk ⊢
    have hfirst := Node.inStep_route.1 node (address ++ [index]) owner number howner
    have hlater := Nat.lt_add_right
      (openings (node.route (address ++ [index]) owner number)) howner
    have hrest := Node.inStep_route.2 nodes address (index + 1) owner _ hlater
    rw [openedFor_append, List.flatMap_append, openings_append, ← List.range'_append_1]
    congr 1
    · apply ihNode _ _ _ howner
      apply hwalk.left
      intro stop hstop hopens other hother
      have hbounds := hfirst.bounds hstop
      rw [if_pos hopens] at hbounds
      have := Node.owner_of_mem_route.2 _ _ _ _ _ other hother
      omega
    · apply ihNodes _ _ _ _ hlater
      apply hwalk.right
      intro stop hstop _ other hother
      have := hrest.bounds hstop
      have := hfirst.bounds hother
      omega

end Outline
