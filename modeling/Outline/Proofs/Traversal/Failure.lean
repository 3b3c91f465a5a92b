import Outline.Proofs.Traversal.Ownership
import Outline.Proofs.Traversal.Reads

/-!
# Visits that fail

A visit does to a store what is done by the handlers of the visited nodes in the order of the
document, each for the context that the node above it left, up to the first that fails. One fails
just in case a span that is read of its node has a point outside the lines. Nothing else stops a
visit, and a handler that fails has done nothing, so that what is kept is what the handlers before
it recorded.
-/

namespace Outline

namespace Progress

/-- Runs the handlers of nodes one after the other until the first error. `contexts` says which
context the node at an address left to those below it. -/
def handle (view : SourceView) (contexts : Address → Nat) (progress : Progress) :
    List (Address × Node) → Visited
  | []                      => ⟨progress, none⟩
  | (address, node) :: rest =>
    match progress.interpret view (contexts address.dropLast) node with
    | .error error         => ⟨progress, some error⟩
    | .ok (progress, next) => progress.handle view (Function.update contexts address next) rest

/-! ### A visit as a run of handlers -/

/-- The handlers at and below a node do what a visit of the node does. They say nothing about the
contexts left by nodes that are not at or below it. -/
lemma handle_route (view : SourceView) :
    (∀ (node : Node) address owner number (contexts : Address → Nat) (progress : Progress) rest,
      ∃ after : Address → Nat, (∀ other, ¬ address <+: other → after other = contexts other) ∧
        progress.handle view contexts
            ((node.route address owner number).map (fun s => (s.address, s.node)) ++ rest) =
          (progress.descend view (contexts address.dropLast) node).andThen fun progress =>
            progress.handle view after rest) ∧
    ∀ (nodes : List Node) address index owner number (contexts : Address → Nat)
        (progress : Progress) rest,
      ∃ after : Address → Nat,
        (∀ other, (∀ j, ¬ address ++ [j] <+: other) → after other = contexts other) ∧
        progress.handle view contexts
            ((Node.routeAll address index owner number nodes).map (fun s => (s.address, s.node))
              ++ rest) =
          (progress.descendAll view (contexts address) nodes).andThen fun progress =>
            progress.handle view after rest := by
  apply Node.induction_on_descent
  case node =>
    intro node ih address owner number contexts progress rest
    rw [Node.route_eq, List.map_cons, List.cons_append, handle, descend]
    cases progress.interpret view (contexts address.dropLast) node with
    | error error => exact ⟨contexts, fun _ _ => rfl, rfl⟩
    | ok answer =>
      obtain ⟨middle, next⟩ := answer
      -- the children look for their owner at the address of the node, which holds what it left
      obtain ⟨after, hafter, hhandle⟩ := ih address node.firstVisited
        (if node.opens then number else owner) (if node.opens then number + 1 else number)
        (Function.update contexts address next) middle rest
      refine ⟨after, ?_, ?_⟩
      · intro other hother
        have hne : other ≠ address := fun h => hother (h ▸ List.prefix_refl _)
        rw [hafter other fun j hj => hother ((List.prefix_append _ _).trans hj),
          Function.update_of_ne hne]
      · rw [Function.update_self] at hhandle
        exact hhandle
  case nil =>
    intro address index owner number contexts progress rest
    refine ⟨contexts, fun _ _ => rfl, ?_⟩
    rw [Node.routeAll_nil, descendAll]
    rfl
  case cons =>
    intro node nodes ihNode ihNodes address index owner number contexts progress rest
    rw [Node.routeAll_cons, List.map_append, List.append_assoc, descendAll]
    obtain ⟨middle, hmiddle, hfirst⟩ := ihNode (address ++ [index]) owner number contexts progress
      ((Node.routeAll address (index + 1) owner
        (number + openings (node.route (address ++ [index]) owner number)) nodes).map
          (fun s => (s.address, s.node)) ++ rest)
    rw [hfirst, List.dropLast_concat]
    -- the first child and those below it leave the entry of their parent alone
    have haddress : middle address = contexts address := by
      apply hmiddle
      intro hprefix
      have := hprefix.length_le
      simp only [List.length_append, List.length_singleton] at this
      omega
    obtain ⟨kept, _ | error⟩ := progress.descend view (contexts address) node
    · obtain ⟨after, hafter, hrest⟩ := ihNodes address (index + 1) owner
        (number + openings (node.route (address ++ [index]) owner number)) middle kept rest
      refine ⟨after, ?_, ?_⟩
      · intro other hother
        rw [hafter other hother, hmiddle other (hother index)]
      · rw [haddress] at hrest
        exact hrest
    · exact ⟨contexts, fun _ _ => rfl, rfl⟩

end Progress

/-- A visit runs the handlers of the visited nodes in the order of the document. -/
lemma Store.visit_eq_handle (store : Store String) (view : SourceView) (root : Node)
    (target : Nat) :
    store.visit view root target =
      Progress.handle view (fun _ => target) { store } root.visited := by
  obtain ⟨after, -, hhandle⟩ :=
    (Progress.handle_route view).1 root [] 0 1 (fun _ => target) { store } []
  rw [List.append_nil] at hhandle
  rw [store.visit_eq, Node.visited, Node.stops, hhandle]
  cases h : Progress.descend view { store } target root with
  | mk progress failure =>
    cases failure with
    | none => rfl
    | some error => rfl

/-! ### Handlers that can read and handlers that cannot -/

namespace Progress

variable {view : SourceView} {progress : Progress} {owner : Nat} {node : Node} {place : Point}

lemma interpret_of_faultIn (hstart : view.place node.start = .ok place) {error : SpanError}
    (h : view.faultIn (node.spansRead view) = some error) :
    progress.interpret view owner node = .error (.span error) := by
  unfold Node.spansRead at h
  split at h
  · cases h
  · next role hrole =>
    rw [← role.fault?_finding hstart] at h
    cases hfinding : role.finding view node with
    | ok finding =>
      rw [hfinding] at h
      cases h
    | error other =>
      rw [hfinding] at h
      cases h
      exact interpret_of_error (by rw [Node.finding?, hrole, Option.map_some, hfinding])

/-- A handler that does not fail keeps the store closed and leaves a context of it for what is
below. It adds the notice of what it found, if there is one. -/
lemma exists_interpret_of_found (closed : progress.store.Closed)
    (howner : owner < progress.store.size) {found : Option Finding}
    (h : node.finding? view = found.map .ok) :
    ∃ after next, progress.interpret view owner node = .ok (after, next) ∧
      after.store.Closed ∧ progress.store.size ≤ after.store.size ∧ next < after.store.size ∧
      after.notices = progress.notices ++ (found.bind Finding.notice).toArray := by
  cases found with
  | none => exact ⟨progress, owner, interpret_of_none h, closed, le_rfl, howner, by simp⟩
  | some finding =>
    have hopens := Node.isSome_shape?_of_finding h
    refine ⟨_, _, interpret_of_ok closed howner h, closed.recorded howner finding.fact, ?_, ?_, rfl⟩
    · rw [Store.size_recorded]
      exact Nat.le_add_right _ _
    · simp only [Store.size_recorded, hopens]
      split <;> omega

lemma exists_interpret_eq_ok (closed : progress.store.Closed) (howner : owner < progress.store.size)
    (hstart : view.place node.start = .ok place)
    (h : view.faultIn (node.spansRead view) = none) :
    ∃ after next, progress.interpret view owner node = .ok (after, next) ∧
      after.store.Closed ∧ progress.store.size ≤ after.store.size ∧ next < after.store.size := by
  obtain ⟨found, hfound⟩ : ∃ found : Option Finding, node.finding? view = found.map .ok := by
    unfold Node.spansRead at h
    unfold Node.finding?
    split at h
    · next hrole => exact ⟨none, by rw [hrole]; rfl⟩
    · next role hrole =>
      rw [← role.fault?_finding hstart] at h
      cases hfinding : role.finding view node with
      | ok finding => exact ⟨some finding, by rw [hrole, Option.map_some, hfinding]; rfl⟩
      | error error =>
        rw [hfinding] at h
        cases h
  obtain ⟨after, next, hinterpret, closed', hsize, hnext, -⟩ :=
    exists_interpret_of_found closed howner hfound
  exact ⟨after, next, hinterpret, closed', hsize, hnext⟩

/-- Handlers that can read all their spans do not fail, and what comes after them goes on from what
they left. -/
lemma exists_handle_append (progress : Progress) (contexts : Address → Nat)
    {places : List (Address × Node)} (closed : progress.store.Closed)
    (hcontexts : ∀ a, contexts a < progress.store.size)
    (hstart : ∀ p ∈ places, ∃ place, view.place p.2.start = .ok place)
    (hread : ∀ p ∈ places, view.faultIn (p.2.spansRead view) = none) :
    ∃ (after : Progress) (contexts' : Address → Nat),
      ∀ rest, progress.handle view contexts (places ++ rest) =
        after.handle view contexts' rest := by
  induction places generalizing progress contexts with
  | nil => exact ⟨progress, contexts, fun _ => rfl⟩
  | cons first places ih =>
    obtain ⟨address, node⟩ := first
    obtain ⟨place, hplace⟩ := hstart _ List.mem_cons_self
    obtain ⟨middle, next, hinterpret, closed', hsize, hnext⟩ := exists_interpret_eq_ok closed
      (hcontexts address.dropLast) hplace (hread _ List.mem_cons_self)
    have hcontexts' : ∀ a, Function.update contexts address next a < middle.store.size := by
      intro a
      rw [Function.update_apply]
      split
      · exact hnext
      · exact Nat.lt_of_lt_of_le (hcontexts a) hsize
    obtain ⟨after, contexts', hrest⟩ := ih middle _ closed' hcontexts'
      (fun p hp => hstart p (List.mem_cons_of_mem _ hp))
      (fun p hp => hread p (List.mem_cons_of_mem _ hp))
    refine ⟨after, contexts', fun rest => ?_⟩
    rw [List.cons_append, handle, hinterpret]
    exact hrest rest

end Progress

/-! ### Visits -/

section

variable {view : SourceView} {store : Store String} {root : Node} {target : Nat}

/-- A visit does not fail when all spans of the visited nodes can be read. -/
lemma failure_visit_eq_none (closed : store.Closed) (htarget : target < store.size)
    (hstart : ∀ p ∈ root.visited, ∃ place, view.place p.2.start = .ok place)
    (hread : ∀ p ∈ root.visited, view.faultIn (p.2.spansRead view) = none) :
    (store.visit view root target).failure = none := by
  obtain ⟨after, contexts, hhandle⟩ :=
    Progress.exists_handle_append { store } (fun _ => target) closed (fun _ => htarget)
      hstart hread
  rw [store.visit_eq_handle, ← List.append_nil root.visited, hhandle]
  rfl

/-- A visit fails at the first node of which a span cannot be read, and keeps what the handlers
before it did. -/
lemma visit_eq_of_fault (closed : store.Closed) (htarget : target < store.size)
    {before after : List (Address × Node)} {failing : Address × Node}
    (hvisited : root.visited = before ++ failing :: after)
    (hstart : ∀ p ∈ root.visited, ∃ place, view.place p.2.start = .ok place)
    (hread : ∀ p ∈ before, view.faultIn (p.2.spansRead view) = none) {error : SpanError}
    (hfault : view.faultIn (failing.2.spansRead view) = some error) :
    ∃ progress : Progress,
      Progress.handle view (fun _ => target) { store } before = ⟨progress, none⟩ ∧
      store.visit view root target = ⟨progress, some (.span error)⟩ := by
  obtain ⟨address, node⟩ := failing
  have hbefore : ∀ p ∈ before, ∃ place, view.place p.2.start = .ok place := by
    intro p hp
    exact hstart p (hvisited ▸ List.mem_append_left _ hp)
  obtain ⟨place, hplace⟩ : ∃ place, view.place node.start = .ok place :=
    hstart (address, node) (by simp [hvisited])
  obtain ⟨progress, contexts, hhandle⟩ :=
    Progress.exists_handle_append { store } (fun _ => target) closed (fun _ => htarget)
      hbefore hread
  refine ⟨progress, ?_, ?_⟩
  · rw [← List.append_nil before, hhandle]
    rfl
  · rw [store.visit_eq_handle, hvisited, hhandle, Progress.handle,
      Progress.interpret_of_faultIn hplace hfault]

end

/-- The first point that is read of a node and has its place outside the lines. -/
def Node.pointOutside? (view : SourceView) (place : Point → Point) (node : Node) : Option Point :=
  ((node.spansRead view).flatMap Span.points).find? fun point => view.lines.Outside (place point)

lemma Node.pointOutside?_eq_none_iff {view : SourceView} {place : Point → Point} {node : Node} :
    node.pointOutside? view place = none ↔ ∀ span ∈ node.spansRead view,
      ¬ view.lines.Outside (place span.start) ∧ ¬ view.lines.Outside (place span.stop) := by
  simp [pointOutside?, Span.points]

section

variable {view : SourceView} {place : Point → Point}

lemma Node.faultIn_spansRead (hplace : ∀ point, view.place point = .ok (place point))
    (node : Node) :
    view.faultIn (node.spansRead view) =
      (node.pointOutside? view place).map fun point => view.lines.faultAt (place point) :=
  view.faultIn_eq_find? fun _ _ point _ => hplace point

variable {store : Store String} {root : Node} {target : Nat}

lemma visit_of_inside (hplace : ∀ point, view.place point = .ok (place point))
    (closed : store.Closed) (htarget : target < store.size)
    (hinside : ∀ p ∈ root.visited, p.2.pointOutside? view place = none) :
    (store.visit view root target).failure = none := by
  refine failure_visit_eq_none closed htarget (fun p _ => ⟨_, hplace p.2.start⟩) ?_
  intro p hp
  rw [Node.faultIn_spansRead hplace, hinside p hp]
  rfl

/-- A visit ends in the error of the first point outside the lines that is read of the first node of
which there is one. -/
lemma visit_of_outside (hplace : ∀ point, view.place point = .ok (place point))
    (closed : store.Closed) (htarget : target < store.size)
    {before after : List (Address × Node)} {address : Address} {node : Node} {point : Point}
    (hvisited : root.visited = before ++ (address, node) :: after)
    (hbefore : ∀ p ∈ before, p.2.pointOutside? view place = none)
    (hpoint : node.pointOutside? view place = some point) :
    ∃ progress : Progress,
      Progress.handle view (fun _ => target) { store } before = ⟨progress, none⟩ ∧
      store.visit view root target =
        ⟨progress, some (.span (view.lines.faultAt (place point)))⟩ := by
  refine visit_eq_of_fault closed htarget hvisited (fun p _ => ⟨_, hplace p.2.start⟩) ?_ ?_
  · intro p hp
    rw [Node.faultIn_spansRead hplace, hbefore p hp]
    rfl
  · rw [Node.faultIn_spansRead hplace, hpoint]
    rfl

end

/-- A visit fails just in case a span is read of a visited node that has a point outside the lines.
It then ends in the error of the first such point of the first such node, and has done what the
handlers of the nodes before that do. It does not end in any other error. -/
theorem visit_fails_at_first_outside (lines : Lines) (place : Point → Point)
    (store : Store String) (root : Node) (target : Nat) (closed : store.Closed)
    (htarget : target < store.size) :
    let view : SourceView := ⟨lines, fun point => .ok (place point)⟩
    ∃ visited : List (Address × Node),
      visited.Pairwise (fun a b => a.1 < b.1) ∧
      (∀ address node, (address, node) ∈ visited ↔ root.Visits address node) ∧
      ((store.visit view root target).failure ≠ none ↔
        ∃ address node, root.Visits address node ∧ ∃ span ∈ node.spansRead view,
          lines.Outside (place span.start) ∨ lines.Outside (place span.stop)) ∧
      (∀ before address node after point, visited = before ++ (address, node) :: after →
        (∀ p ∈ before, p.2.pointOutside? view place = none) →
        node.pointOutside? view place = some point →
        ∃ progress : Progress,
          Progress.handle view (fun _ => target) { store } before = ⟨progress, none⟩ ∧
          store.visit view root target =
            ⟨progress, some (.span (lines.faultAt (place point)))⟩) ∧
      ∀ error, (store.visit view root target).failure ≠ some (.attach error) := by
  intro view
  have hplace : ∀ point, view.place point = .ok (place point) := fun _ => rfl
  have hfirst : ∀ before address node after point,
      root.visited = before ++ (address, node) :: after →
      (∀ p ∈ before, p.2.pointOutside? view place = none) →
      node.pointOutside? view place = some point → _ :=
    fun _ _ _ _ _ => visit_of_outside hplace closed htarget
  cases hfind : root.visited.findSome? fun p => p.2.pointOutside? view place with
  | none =>
    have hnone := List.findSome?_eq_none_iff.mp hfind
    have hok := visit_of_inside hplace closed htarget hnone
    refine ⟨root.visited, root.pairwise_visited, fun _ _ => Node.mem_visited_iff, ?_, hfirst, ?_⟩
    · refine iff_of_false (not_not.mpr hok) ?_
      rintro ⟨address, node, hvisits, span, hspan, houtside⟩
      have hinside := Node.pointOutside?_eq_none_iff.mp
        (hnone (address, node) (Node.mem_visited_iff.mpr hvisits)) span hspan
      exact houtside.elim hinside.1 hinside.2
    · rw [hok]
      nofun
  | some point =>
    obtain ⟨before, ⟨address, node⟩, after, hvisited, hpoint, hbefore⟩ :=
      List.findSome?_eq_some_iff.mp hfind
    obtain ⟨progress, -, hvisit⟩ := visit_of_outside hplace closed htarget hvisited hbefore hpoint
    have hmem : root.Visits address node := Node.mem_visited_iff.mp (by simp [hvisited])
    refine ⟨root.visited, root.pairwise_visited, fun _ _ => Node.mem_visited_iff, ?_, hfirst, ?_⟩
    · refine iff_of_true ?_ ⟨address, node, hmem, ?_⟩
      · rw [hvisit]
        nofun
      · by_contra hnot
        push Not at hnot
        rw [Node.pointOutside?_eq_none_iff.mpr hnot] at hpoint
        cases hpoint
    · rw [hvisit]
      nofun

/-- A class with a call in it whose name is past the end of the line. -/
def overlongTree : Node :=
  ⟨"class_declaration", ⟨0, 0⟩, ⟨0, 28⟩, [
    ⟨"identifier", ⟨0, 6⟩, ⟨0, 7⟩, []⟩,
    ⟨"class_body", ⟨0, 8⟩, ⟨0, 28⟩, [
      ⟨"method_invocation", ⟨0, 10⟩, ⟨0, 13⟩, [⟨"identifier", ⟨0, 28⟩, ⟨0, 29⟩, []⟩]⟩]⟩]⟩

/-- The visit of that tree into a new file fails, so that a visited node reads outside the lines. -/
theorem visit_fails_at_overlong_call :
    let store := (({} : Store String).newFile nestedLines).1
    let view : SourceView := ⟨nestedLines, fun point => .ok (id point)⟩
    store.Closed ∧ 0 < store.size ∧ (store.visit view overlongTree 0).failure ≠ none ∧
      ∃ address node, overlongTree.Visits address node ∧ ∃ span ∈ node.spansRead view,
        nestedLines.Outside span.start ∨ nestedLines.Outside span.stop := by
  intro store view
  have closed : store.Closed := (Store.forest_empty.newFile nestedLines).closed
  have hsize : 0 < store.size := by decide
  have hfailure : (store.visit view overlongTree 0).failure ≠ none := by decide +kernel
  obtain ⟨visited, -, -, hiff, -⟩ :=
    visit_fails_at_first_outside nestedLines id store overlongTree 0 closed hsize
  exact ⟨closed, hsize, hfailure, hiff.mp hfailure⟩

end Outline
