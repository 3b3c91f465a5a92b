import Outline.Proofs.Context.Navigation
import Outline.Proofs.Traversal.Records
import Outline.Summary

/-!
# Who owns what

After a visit into a new file that did not fail, the contexts are the file and one for each visited
declaration, numbered in the order of the document. Each has the context of the nearest declaration
around its own for a parent, and exactly the records of the visited nodes that it owns, in the order
of the document. Walking from the file meets the contexts in that order too.
-/

namespace Outline

/-- Where the declaration of a context stands among visited nodes. The file, which has number zero,
has no declaration; the others are numbered as their declarations are visited. -/
def contextPlace (visited : List (Address × Node)) : Nat → Option Address
  | 0          => none
  | number + 1 => (visited.filter (·.2.opens))[number]?.map (·.1)

/-- The visited nodes of a kind that a context owns: its declaration is the nearest around them. -/
def ownedNodes (root : Node) (visited : List (Address × Node)) (id : Nat) (kind : String) :
    List Node :=
  (visited.filter fun place =>
    place.2.kind = kind && root.owner? place.1 = contextPlace visited id).map (·.2)

/-- The contexts of a store are those of the declarations among visited nodes of a tree, and hold
what the nodes that they own say. -/
structure Store.Reflects (store : Store String) (view : SourceView) (root : Node)
    (visited : List (Address × Node)) : Prop where
  size_eq     : store.size = (visited.filter (·.2.opens)).length + 1
  file        : (store.context fileId).shape = .file ∧ (store.context fileId).parent = none
  declaration : ∀ number address node,
    (visited.filter (·.2.opens))[number]? = some (address, node) →
      ∃ fact owner, node.fact? view = some (.ok fact) ∧
        fact.shape? = some (store.context (number + 1)).shape ∧
        (store.context (number + 1)).parent = some owner ∧ owner < store.size ∧
        contextPlace visited owner = root.owner? address
  imports     : ∀ id < store.size,
    (ownedNodes root visited id "import_declaration").map (·.fact? view) =
      (store.context id).imports.toList.map fun text => some (.ok (.imported text))
  fields      : ∀ id < store.size,
    (ownedNodes root visited id "field_declaration").map (·.fact? view) =
      (store.context id).fields.toList.map fun entry => some (.ok (.field entry))
  invocations : ∀ id < store.size,
    (ownedNodes root visited id "method_invocation").map (·.fact? view) =
      (store.context id).invocations.toList.map fun call => some (.ok (.invocation call))
  walk_eq     : store.walk fileId = List.range store.size

/-! ### Records of one kind -/

/-- Where nothing found at stops is in error, the records of one kind that are entered are the facts
of the nodes of that kind. -/
lemma map_fact?_filter {β : Type} {view : SourceView} {role : Role} {make : β → Fact}
    {get : Fact → Option β} (carries : Fact.Carries role make get) {stops : List Stop}
    (hok : ∀ stop ∈ stops, ∀ error, stop.node.finding? view ≠ some (.error error)) :
    (stops.filter (·.node.kind = role.kind)).map (·.node.fact? view) =
      ((stops.filterMap (Stop.entry? view)).filterMap fun entry => get entry.fact).map
        fun record => some (.ok (make record)) := by
  induction stops with
  | nil => rfl
  | cons stop stops ih =>
    have ih := ih fun s hs => hok s (List.mem_cons_of_mem _ hs)
    cases hfinding : stop.node.finding? view with
    | none =>
      have hkind : ¬ stop.node.kind = role.kind := by
        intro hkind
        rw [Node.finding?, Node.role?_eq_some_iff.mpr hkind] at hfinding
        cases hfinding
      rw [List.filter_cons_of_neg (by simpa using hkind), ih,
        List.filterMap_cons_none (by simp [Stop.entry?, hfinding])]
    | some outcome =>
      cases outcome with
      | error error => exact absurd hfinding (hok stop List.mem_cons_self error)
      | ok finding =>
        have hentry : stop.entry? view = some ⟨stop.number, finding.fact⟩ := by
          simp [Stop.entry?, hfinding]
        have hkind := Node.role?_eq_some_iff.mp (Node.role?_of_finding hfinding)
        rw [List.filterMap_cons_some hentry]
        by_cases h : finding.fact.role = role
        · obtain ⟨record, hrecord⟩ := carries.exists_make h
          have hget : get finding.fact = some record := by rw [hrecord, carries.get_make]
          have hfact : stop.node.fact? view = some (.ok (make record)) := by
            simp [Node.fact?, hfinding, Except.map, hrecord]
          rw [List.filter_cons_of_pos (by simp [hkind, h]), List.map_cons, ih,
            List.filterMap_cons_some (f := fun entry : Entry => get entry.fact) hget, List.map_cons,
            hfact]
        · have hne : ¬ stop.node.kind = role.kind := by
            intro hsame
            rw [hkind] at hsame
            exact h (Option.some.inj (by rw [← Role.ofKind?_kind, ← Role.ofKind?_kind, hsame]))
          rw [List.filter_cons_of_neg (by simpa using hne), ih,
            List.filterMap_cons_none (f := fun entry : Entry => get entry.fact)
              (carries.get_of_other h)]

/-- Where nothing found at stops is in error, the entries for a context name the contexts that are
opened for it. -/
lemma filterMap_child?_entriesFor {view : SourceView} {id : Nat} {stops : List Stop}
    (hok : ∀ stop ∈ stops, ∀ error, stop.node.finding? view ≠ some (.error error)) :
    (entriesFor view id stops).filterMap Entry.child? = openedFor id stops := by
  induction stops with
  | nil => rfl
  | cons stop stops ih =>
    have hstop : (stop.entry? view).toList.filterMap Entry.child? =
        if stop.opens then [stop.number] else [] := by
      cases hfinding : stop.node.finding? view with
      | none =>
        have hopens : ¬ stop.opens := Node.opens_of_finding?_none hfinding
        simp [Stop.entry?, hfinding, hopens]
      | some outcome =>
        cases outcome with
        | error error => exact absurd hfinding (hok stop List.mem_cons_self error)
        | ok finding =>
          have hopens : finding.fact.shape?.isSome ↔ stop.opens :=
            Node.isSome_shape?_of_finding hfinding
          by_cases h : stop.opens
          · simp [Stop.entry?, hfinding, Entry.child?, h, hopens]
          · simp [Stop.entry?, hfinding, Entry.child?, h, hopens]
    rw [entriesFor_cons, openedFor_cons, List.filterMap_append,
      ih fun s hs => hok s (List.mem_cons_of_mem _ hs)]
    by_cases howner : stop.owner = id
    · rw [if_pos howner, hstop]
      by_cases hopens : stop.opens
      · simp [hopens, howner]
      · simp [hopens]
    · simp [howner]

/-! ### Places of contexts -/

namespace Node

/-- The visited nodes of a tree with their addresses, in the order of the document. -/
def visited (root : Node) : List (Address × Node) :=
  root.stops.map fun stop => (stop.address, stop.node)

lemma pairwise_visited (root : Node) : root.visited.Pairwise fun a b => a.1 < b.1 :=
  List.pairwise_map.mpr (pairwise_route.1 root [] 0 1)

lemma mem_visited_iff {root node : Node} {address : Address} :
    (address, node) ∈ root.visited ↔ root.Visits address node := by
  rw [visits_iff, visited, List.mem_map]
  constructor
  · rintro ⟨stop, hstop, h⟩
    cases h
    exact ⟨stop, hstop, rfl, rfl⟩
  · rintro ⟨stop, hstop, rfl, rfl⟩
    exact ⟨stop, hstop, rfl⟩

lemma filter_opens_visited (root : Node) :
    root.visited.filter (·.2.opens) =
      (root.stops.filter Stop.opens).map fun stop => (stop.address, stop.node) := by
  rw [visited, List.filter_map]
  rfl

/-- The declaration at an index among those visited opens the context with the next number. -/
lemma number_of_getElem? {root : Node} {k : Nat} {stop : Stop}
    (h : (root.stops.filter Stop.opens)[k]? = some stop) : stop.number = k + 1 := by
  have hk := (List.getElem?_eq_some_iff.mp h).1
  have hnumber := congrArg (·[k]?) root.inStep_stops.map_number
  simp only [List.getElem?_map, h, Option.map_some] at hnumber
  rw [List.getElem?_range' (by rwa [← List.countP_eq_length_filter] at hk)] at hnumber
  have := Option.some.inj hnumber
  omega

lemma contextPlace_number {root : Node} {stop : Stop} (hstop : stop ∈ root.stops)
    (hopens : stop.opens) : contextPlace root.visited stop.number = some stop.address := by
  have hmem : stop ∈ root.stops.filter Stop.opens := List.mem_filter.mpr ⟨hstop, hopens⟩
  obtain ⟨k, hk⟩ := List.mem_iff_getElem?.mp hmem
  rw [number_of_getElem? hk, contextPlace, filter_opens_visited, List.getElem?_map, hk]
  rfl

/-- A stop is for the context whose declaration is the nearest around it. -/
lemma contextPlace_owner {root : Node} {stop : Stop} (hstop : stop ∈ root.stops) :
    contextPlace root.visited stop.owner = root.owner? stop.address :=
  (place_owner_of_mem_route root (contextPlace root.visited)).1 root [] 0 1 rfl rfl
    (fun _ => contextPlace_number) stop hstop

/-- No two contexts have one place. -/
lemma contextPlace_inj {root : Node} {a b : Nat} (ha : a ≤ openings root.stops)
    (hb : b ≤ openings root.stops)
    (h : contextPlace root.visited a = contextPlace root.visited b) : a = b := by
  have hlength : (root.visited.filter (·.2.opens)).length = openings root.stops := by
    rw [filter_opens_visited, List.length_map]
    exact List.countP_eq_length_filter.symm
  have hnodup : ((root.visited.filter (·.2.opens)).map (·.1)).Nodup :=
    List.pairwise_map.mpr ((root.pairwise_visited.filter _).imp ne_of_lt)
  have hplace : ∀ k, contextPlace root.visited (k + 1) =
      ((root.visited.filter (·.2.opens)).map (·.1))[k]? := by
    intro k
    rw [contextPlace, List.getElem?_map]
  have hlt : ∀ {k}, k + 1 ≤ openings root.stops →
      k < ((root.visited.filter (·.2.opens)).map (·.1)).length := by
    intro k hk
    rw [List.length_map, hlength]
    exact hk
  cases a with
  | zero =>
    cases b with
    | zero => rfl
    | succ k =>
      rw [hplace, List.getElem?_eq_getElem (hlt hb)] at h
      cases h
  | succ i =>
    rw [hplace] at h
    cases b with
    | zero =>
      rw [List.getElem?_eq_getElem (hlt ha)] at h
      cases h
    | succ j =>
      rw [hplace] at h
      rw [(List.getElem?_inj (hlt ha) hnodup).mp h]

/-- The visited nodes that a context owns are those of the stops for it. -/
lemma ownedNodes_eq {root : Node} {id : Nat} (hid : id ≤ openings root.stops) (kind : String) :
    ownedNodes root root.visited id kind =
      ((root.stops.filter (·.owner = id)).filter (·.node.kind = kind)).map (·.node) := by
  have hfilter : root.visited.filter (fun place =>
        place.2.kind = kind && root.owner? place.1 = contextPlace root.visited id) =
      (root.stops.filter fun stop => stop.node.kind = kind && stop.owner = id).map
        fun stop => (stop.address, stop.node) := by
    rw [visited, List.filter_map]
    congr 1
    apply List.filter_congr
    intro stop hstop
    have howner : stop.owner ≤ openings root.stops := by
      have := root.inStep_stops.bounds hstop
      omega
    have hiff : root.owner? stop.address = contextPlace root.visited id ↔ stop.owner = id := by
      rw [← contextPlace_owner hstop]
      exact ⟨contextPlace_inj howner hid, congrArg _⟩
    simp only [Function.comp_apply, visited] at hiff ⊢
    simp only [hiff]
  rw [ownedNodes, hfilter, List.map_map, List.filter_filter]
  rfl

end Node

/-! ### Visits into a new file -/

/-- The store that a visit into a new file starts from. -/
def fileStart (lines : Lines) : Progress :=
  { store := (({} : Store String).newFile lines).1 }

lemma forest_fileStart (lines : Lines) : (fileStart lines).store.Forest :=
  Store.forest_empty.newFile lines

lemma buildContext_eq_follow (lines : Lines) (view : SourceView) (root : Node) :
    buildContext lines view root = (fileStart lines).follow view root.stops := by
  change (fileStart lines).store.visit view root 0 = _
  rw [Store.visit_eq]
  exact (Progress.descend_eq_follow view).1 root [] 0 (fileStart lines) (forest_fileStart lines)
    Nat.zero_lt_one

section

variable {lines : Lines} {view : SourceView} {root : Node} {after : Progress}
  (h : (fileStart lines).follow view root.stops = ⟨after, none⟩)

include h

lemma forest_of_follow : after.store.Forest ∧ after.store.size = openings root.stops + 1 := by
  obtain ⟨forest, hsize⟩ := Progress.follow_ok (forest_fileStart lines) root.inStep_stops h
  exact ⟨forest, hsize.trans (Nat.add_comm _ _)⟩

/-- Every context after the visit is the file or is opened at a stop. -/
lemma exists_stop_of_lt {id : Nat} (hid : id < after.store.size) (hne : id ≠ 0) :
    ∃ stop ∈ root.stops, stop.opens ∧ stop.number = id := by
  have hmem : id ∈ (root.stops.filter Stop.opens).map (·.number) := by
    rw [root.inStep_stops.map_number, List.mem_range'_1]
    have := (forest_of_follow h).2
    omega
  obtain ⟨stop, hstop, rfl⟩ := List.mem_map.mp hmem
  obtain ⟨hstop, hopens⟩ := List.mem_filter.mp hstop
  exact ⟨stop, hstop, hopens, rfl⟩

/-- Every context after the visit holds the entries of the stops for it, and nothing else. -/
lemma context_eq_extend {id : Nat} (hid : id < after.store.size) :
    ∃ shape parent lines, after.store.context id =
      ({ shape, parent, lines } : Context String).extend (entriesFor view id root.stops) := by
  by_cases hzero : id = 0
  · subst hzero
    rw [Progress.context_follow (forest_fileStart lines) root.inStep_stops h Nat.zero_lt_one]
    exact ⟨.file, none, lines, rfl⟩
  · obtain ⟨stop, hstop, hopens, rfl⟩ := exists_stop_of_lt h hid hzero
    obtain ⟨finding, shape, lines, -, -, hcontext⟩ :=
      Progress.context_follow_number (forest_fileStart lines) root.inStep_stops h hstop hopens
    exact ⟨shape, some stop.owner, lines, hcontext⟩

lemma finding_of_follow {stop : Stop} (hstop : stop ∈ root.stops) (error : SpanError) :
    stop.node.finding? view ≠ some (.error error) :=
  Progress.finding_follow (forest_fileStart lines) root.inStep_stops h hstop error

/-- The records of one kind of a context are what the nodes of that kind say that it owns. -/
lemma map_fact?_ownedNodes {β : Type} {role : Role} {make : β → Fact} {get : Fact → Option β}
    (carries : Fact.Carries role make get) {id : Nat} (hid : id < after.store.size) :
    (ownedNodes root root.visited id role.kind).map (·.fact? view) =
      ((entriesFor view id root.stops).filterMap fun entry => get entry.fact).map
        fun record => some (.ok (make record)) := by
  have hid' : id ≤ openings root.stops := by
    rw [(forest_of_follow h).2] at hid
    exact Nat.le_of_lt_succ hid
  rw [Node.ownedNodes_eq hid', List.map_map]
  apply map_fact?_filter carries
  intro stop hstop
  exact finding_of_follow h (List.mem_filter.mp hstop).1

/-- The children of a context are the contexts opened at the stops for it. -/
lemma children_eq_openedFor {id : Nat} (hid : id < after.store.size) :
    (after.store.context id).children.toList = openedFor id root.stops := by
  obtain ⟨shape, parent, lines, hcontext⟩ := context_eq_extend h hid
  have hchildren : (entriesFor view id root.stops).filterMap Entry.child? =
      openedFor id root.stops := filterMap_child?_entriesFor fun _ => finding_of_follow h
  rw [hcontext, ← hchildren]
  simp [Context.extend]

/-- The walk from the file meets the contexts in the order of their numbers. -/
lemma walk_fileId : after.store.walk fileId = List.range after.store.size := by
  obtain ⟨forest, hsize⟩ := forest_of_follow h
  have hwalk : ∀ id < after.store.size, after.store.walk id =
      id :: (openedFor id root.stops).flatMap after.store.walk := by
    intro id hid
    rw [forest.walk_eq_children, children_eq_openedFor h hid]
  have hfile := (flatMap_openedFor after.store.walk).1 root [] 0 1 Nat.zero_lt_one (by
    intro stop hstop hopens
    apply hwalk
    have := root.inStep_stops.bounds hstop
    rw [if_pos hopens] at this
    omega)
  have hrange : List.range (openings root.stops + 1) =
      0 :: List.range' 1 (openings root.stops) := by
    rw [List.range_eq_range', List.range'_succ]
  rw [fileId, hwalk 0 (by omega), hsize, hrange]
  exact congrArg _ hfile

end

/-- A visit into a new file that does not fail reflects the visited nodes: the contexts below the
file are those of the visited declarations, each has the context of its declaration's owner for a
parent, its records are those of the visited nodes that it owns, and a walk from the file meets the
contexts in the order of the document. -/
theorem buildContext_reflects (lines : Lines) (view : SourceView) (root : Node)
    (success : (buildContext lines view root).failure = none) :
    ∃ visited : List (Address × Node),
      visited.Pairwise (fun a b => a.1 < b.1) ∧
      (∀ address node, (address, node) ∈ visited ↔ root.Visits address node) ∧
      (buildContext lines view root).progress.store.Reflects view root visited := by
  refine ⟨root.visited, root.pairwise_visited, fun _ _ => Node.mem_visited_iff, ?_⟩
  obtain ⟨after, h⟩ : ∃ after, (fileStart lines).follow view root.stops = ⟨after, none⟩ := by
    rw [buildContext_eq_follow] at success
    exact ⟨_, by rw [← success]⟩
  rw [buildContext_eq_follow, h]
  obtain ⟨forest, hsize⟩ := forest_of_follow h
  refine ⟨?_, ?_, ?_, ?_, ?_, ?_, walk_fileId h⟩
  · rw [hsize, Node.filter_opens_visited, List.length_map]
    exact congrArg (· + 1) List.countP_eq_length_filter
  · rw [fileId,
      Progress.context_follow (forest_fileStart lines) root.inStep_stops h Nat.zero_lt_one]
    exact ⟨rfl, rfl⟩
  · intro number address node hplace
    rw [Node.filter_opens_visited, List.getElem?_map] at hplace
    obtain ⟨stop, hget, hstop⟩ := Option.map_eq_some_iff.mp hplace
    cases hstop
    obtain ⟨hstop, hopens⟩ := List.mem_filter.mp (List.mem_of_getElem? hget)
    obtain ⟨finding, shape, lines, hfinding, hshape, hcontext⟩ :=
      Progress.context_follow_number (forest_fileStart lines) root.inStep_stops h hstop hopens
    have howner := (root.inStep_stops.bounds hstop)
    rw [if_pos hopens] at howner
    rw [← Node.number_of_getElem? hget, hcontext]
    refine ⟨finding.fact, stop.owner, ?_, hshape, rfl, ?_, Node.contextPlace_owner hstop⟩
    · rw [Node.fact?, hfinding]
      rfl
    · rw [hsize]
      omega
  · intro id hid
    obtain ⟨shape, parent, lines, hcontext⟩ := context_eq_extend h hid
    refine (map_fact?_ownedNodes h Fact.carries_import hid).trans ?_
    simp [hcontext, Context.extend]
  · intro id hid
    obtain ⟨shape, parent, lines, hcontext⟩ := context_eq_extend h hid
    refine (map_fact?_ownedNodes h Fact.carries_field hid).trans ?_
    simp [hcontext, Context.extend]
  · intro id hid
    obtain ⟨shape, parent, lines, hcontext⟩ := context_eq_extend h hid
    refine (map_fact?_ownedNodes h Fact.carries_invocation hid).trans ?_
    simp [hcontext, Context.extend]

/-- A source in which a class makes a call and declares another class. -/
def nestedLines : Lines :=
  #["class C { f(); class D { } }"]

/-- The parse tree of that source. -/
def nestedTree : Node :=
  ⟨"class_declaration", ⟨0, 0⟩, ⟨0, 28⟩, [
    ⟨"identifier", ⟨0, 6⟩, ⟨0, 7⟩, []⟩,
    ⟨"class_body", ⟨0, 8⟩, ⟨0, 28⟩, [
      ⟨"method_invocation", ⟨0, 10⟩, ⟨0, 13⟩, [⟨"identifier", ⟨0, 10⟩, ⟨0, 11⟩, []⟩]⟩,
      ⟨"class_declaration", ⟨0, 15⟩, ⟨0, 26⟩, [
        ⟨"identifier", ⟨0, 21⟩, ⟨0, 22⟩, []⟩,
        ⟨"class_body", ⟨0, 23⟩, ⟨0, 26⟩, []⟩]⟩]⟩]⟩

/-- The visit of that tree does not fail, so that its contexts reflect the visited nodes. -/
theorem buildContext_reflects_nested :
    (buildContext nestedLines (.ofLines nestedLines) nestedTree).failure = none ∧
      ∃ visited : List (Address × Node),
        visited.Pairwise (fun a b => a.1 < b.1) ∧
        (∀ address node, (address, node) ∈ visited ↔ nestedTree.Visits address node) ∧
        (buildContext nestedLines (.ofLines nestedLines) nestedTree).progress.store.Reflects
          (.ofLines nestedLines) nestedTree visited :=
  have success : (buildContext nestedLines (.ofLines nestedLines) nestedTree).failure = none := by
    decide +kernel
  ⟨success, buildContext_reflects nestedLines (.ofLines nestedLines) nestedTree success⟩

end Outline
