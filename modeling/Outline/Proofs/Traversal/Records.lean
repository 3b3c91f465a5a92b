import Outline.Proofs.Context.Forest
import Outline.Proofs.Outcomes
import Outline.Proofs.Traversal.Route

/-!
# What a visit records

A visit follows the route of its tree. At each interpreted stop the fact that the node says is
entered for the owner, and a context is made where it opens one. So the contexts after a visit are
those from before and those opened on the way, each with the entries of the stops that it owns at
the ends of its lists.
-/

namespace Outline

/-! ### Facts -/

namespace Fact

/-- The role of a node that says a fact. -/
def role : Fact → Role
  | .imported ..       => .importDeclaration
  | .classOpened ..    => .classDeclaration
  | .functionOpened .. => .methodDeclaration
  | .field ..          => .fieldDeclaration
  | .invocation ..     => .methodInvocation

/-- The shape of the context that a fact opens. -/
def shape? : Fact → Option (Shape String)
  | .classOpened modifier identifier => some (.classDef modifier identifier)
  | .functionOpened modifiers identifier parameters returnType =>
    some (.functionDef modifiers identifier parameters returnType)
  | _ => none

def import? : Fact → Option String
  | .imported text => some text
  | _              => none

def field? : Fact → Option (FieldEntry String)
  | .field entry => some entry
  | _            => none

def invocation? : Fact → Option (Invocation String)
  | .invocation call => some call
  | _                => none

end Fact

lemma Fact.isSome_shape? (fact : Fact) :
    fact.shape?.isSome ↔ fact.role = .classDeclaration ∨ fact.role = .methodDeclaration := by
  cases fact <;> simp [Fact.shape?, Fact.role]

/-- Facts of one role carry one record: it can be made into such a fact, and it is got back from
such a fact and from no other. -/
structure Fact.Carries {β : Type} (role : Role) (make : β → Fact) (get : Fact → Option β) :
    Prop where
  get_make     : ∀ record, get (make record) = some record
  exists_make  : ∀ {fact : Fact}, fact.role = role → ∃ record, fact = make record
  get_of_other : ∀ {fact : Fact}, fact.role ≠ role → get fact = none

lemma Fact.carries_import : Fact.Carries .importDeclaration .imported Fact.import? where
  get_make _ := rfl
  exists_make {fact} h := by cases fact <;> first | exact ⟨_, rfl⟩ | cases h
  get_of_other {fact} h := by cases fact <;> first | rfl | exact absurd rfl h

lemma Fact.carries_field : Fact.Carries .fieldDeclaration .field Fact.field? where
  get_make _ := rfl
  exists_make {fact} h := by cases fact <;> first | exact ⟨_, rfl⟩ | cases h
  get_of_other {fact} h := by cases fact <;> first | rfl | exact absurd rfl h

lemma Fact.carries_invocation : Fact.Carries .methodInvocation .invocation Fact.invocation? where
  get_make _ := rfl
  exists_make {fact} h := by cases fact <;> first | exact ⟨_, rfl⟩ | cases h
  get_of_other {fact} h := by cases fact <;> first | rfl | exact absurd rfl h

/-- A node in a role says a fact of that role. -/
lemma Role.role_of_finding {role : Role} {view : SourceView} {node : Node} {finding : Finding}
    (h : role.finding view node = .ok finding) : finding.fact.role = role := by
  cases role with
  | importDeclaration =>
    obtain ⟨text, -, h⟩ := bind_eq_ok h
    cases h
    rfl
  | classDeclaration | fieldDeclaration | methodDeclaration =>
    obtain ⟨scan, -, h⟩ := bind_eq_ok h
    obtain ⟨notice, -, h⟩ := bind_eq_ok h
    cases h
    rfl
  | methodInvocation =>
    obtain ⟨scan, -, h⟩ := bind_eq_ok h
    obtain ⟨target, -, h⟩ := bind_eq_ok h
    obtain ⟨notice, -, h⟩ := bind_eq_ok h
    cases h
    rfl

namespace Node

/-- What is found at a node, if it is interpreted. -/
def finding? (view : SourceView) (node : Node) : Option (Except SpanError Finding) :=
  node.role?.map fun role => role.finding view node

/-- The fact that a node says, if it is interpreted. -/
def fact? (view : SourceView) (node : Node) : Option (Except SpanError Fact) :=
  (node.finding? view).map fun outcome => outcome.map Finding.fact

lemma role?_of_finding {view : SourceView} {node : Node} {finding : Finding}
    (h : node.finding? view = some (.ok finding)) : node.role? = some finding.fact.role := by
  obtain ⟨role, hrole, hfinding⟩ := Option.map_eq_some_iff.mp h
  rw [hrole, Role.role_of_finding hfinding]

lemma opens_iff (node : Node) :
    node.opens ↔ node.role? = some .classDeclaration ∨ node.role? = some .methodDeclaration := by
  simp [opens, role?_eq_some_iff, Role.kind]

/-- A fact opens a context just in case it was found at a declaration. -/
lemma isSome_shape?_of_finding {view : SourceView} {node : Node} {finding : Finding}
    (h : node.finding? view = some (.ok finding)) :
    finding.fact.shape?.isSome ↔ node.opens := by
  rw [Fact.isSome_shape?, opens_iff, role?_of_finding h, Option.some.injEq, Option.some.injEq]

lemma opens_of_finding?_none {view : SourceView} {node : Node}
    (h : node.finding? view = none) : ¬ node.opens := by
  have hrole : node.role? = none := Option.map_eq_none_iff.mp h
  simp [opens_iff, hrole]

end Node

/-- A fact with the number that was next when it was found. -/
structure Entry where
  number : Nat
  fact   : Fact

/-- The number of the context that an entry is about, if it opens one. -/
def Entry.child? (entry : Entry) : Option Nat :=
  if entry.fact.shape?.isSome then some entry.number else none

/-- A context with entries at the ends of its lists. -/
def Context.extend (context : Context String) (entries : List Entry) : Context String :=
  { context with
    imports     := context.imports ++ (entries.filterMap (·.fact.import?)).toArray
    fields      := context.fields ++ (entries.filterMap (·.fact.field?)).toArray
    invocations := context.invocations ++ (entries.filterMap (·.fact.invocation?)).toArray
    children    := context.children ++ (entries.filterMap Entry.child?).toArray }

@[simp] lemma Context.extend_nil (context : Context String) : context.extend [] = context := by
  simp [Context.extend]

lemma Context.extend_append (context : Context String) (entries more : List Entry) :
    context.extend (entries ++ more) = (context.extend entries).extend more := by
  simp [Context.extend, ← List.append_toArray, Array.append_assoc]

@[simp] lemma Context.extend_imported (context : Context String) (number : Nat) (text : String) :
    context.extend [⟨number, .imported text⟩] =
      { context with imports := context.imports.push text } := by
  simp [Context.extend, Fact.import?, Fact.field?, Fact.invocation?, Entry.child?, Fact.shape?]

@[simp] lemma Context.extend_field (context : Context String) (number : Nat)
    (entry : FieldEntry String) :
    context.extend [⟨number, .field entry⟩] =
      { context with fields := context.fields.push entry } := by
  simp [Context.extend, Fact.import?, Fact.field?, Fact.invocation?, Entry.child?, Fact.shape?]

@[simp] lemma Context.extend_invocation (context : Context String) (number : Nat)
    (call : Invocation String) :
    context.extend [⟨number, .invocation call⟩] =
      { context with invocations := context.invocations.push call } := by
  simp [Context.extend, Fact.import?, Fact.field?, Fact.invocation?, Entry.child?, Fact.shape?]

/-- A fact that opens a context adds its number to the children and nothing to the records. -/
lemma Context.extend_opened (context : Context String) (number : Nat) {fact : Fact}
    (h : fact.shape?.isSome) :
    context.extend [⟨number, fact⟩] =
      { context with children := context.children.push number } := by
  cases fact with
  | classOpened | functionOpened =>
    simp [Context.extend, Fact.import?, Fact.field?, Fact.invocation?, Entry.child?, Fact.shape?]
  | _ => simp [Fact.shape?] at h

/-! ### Recording a fact -/

namespace Store

/-- The context that a fact with a shape opens for an owner. -/
def opened (store : Store String) (owner : Nat) (shape : Shape String) : Context String :=
  { shape, parent := some owner, lines := (store.context owner).lines }

/-- A store after a fact was recorded for an owner. -/
def recorded (store : Store String) (owner : Nat) (fact : Fact) : Store String :=
  match fact.shape? with
  | none       => store.update owner (·.extend [⟨store.size, fact⟩])
  | some shape =>
    (store.insert (store.opened owner shape)).1.update owner (·.extend [⟨store.size, fact⟩])

section

variable {store : Store String} {owner : Nat}

/-- A context that was just made for an owner can be attached to it. -/
lemma addChild_opened (closed : store.Closed) (howner : owner < store.size) (shape : Shape String) :
    (store.insert (store.opened owner shape)).1.addChild owner store.size =
      .ok ((store.insert (store.opened owner shape)).1.update owner fun c =>
        { c with children := c.children.push store.size }) := by
  refine addChild_eq_ok_iff.mpr ⟨?_, ?_, rfl⟩
  · rw [context_insert_self]
    rfl
  · rw [context_insert_of_lt _ howner]
    intro h
    exact Nat.lt_irrefl _ (closed owner _ h)

lemma record_of_shape {fact : Fact} {shape : Shape String} (h : fact.shape? = some shape) :
    store.record owner fact =
      ((store.insert (store.opened owner shape)).1.addChild owner store.size).map
        fun after => (after, store.size) := by
  have hmap : ∀ x : Except (AttachError String) (Store String),
      (do return (← x, store.size)) = x.map fun after => (after, store.size) := by
    intro x
    cases x <;> rfl
  cases fact with
  | classOpened | functionOpened =>
    cases h
    exact hmap _
  | _ => cases h

/-- Recording never fails; the owner below an opened context is that context. -/
lemma record_eq (closed : store.Closed) (howner : owner < store.size) (fact : Fact) :
    store.record owner fact =
      .ok (store.recorded owner fact, if fact.shape?.isSome then store.size else owner) := by
  cases hshape : fact.shape? with
  | none =>
    cases fact with
    | imported text => simp [record, recorded, addImport, Fact.shape?]
    | field entry => simp [record, recorded, addField, Fact.shape?]
    | invocation call => simp [record, recorded, addInvocation, Fact.shape?]
    | classOpened | functionOpened => cases hshape
  | some shape =>
    have hextend : ∀ context : Context String, context.extend [⟨store.size, fact⟩] =
        { context with children := context.children.push store.size } :=
      fun context => context.extend_opened store.size (by simp [hshape])
    rw [record_of_shape hshape, addChild_opened closed howner]
    simp [recorded, hshape, hextend, Except.map]

lemma size_recorded (store : Store String) (owner : Nat) (fact : Fact) :
    (store.recorded owner fact).size = store.size + if fact.shape?.isSome then 1 else 0 := by
  unfold recorded
  split
  · next h => simp [h]
  · next h => simp [h]

/-- A context that was there before a fact was recorded has the entry if it is the owner, and is as
it was if it is another. -/
lemma context_recorded (howner : owner < store.size) (fact : Fact) {id : Nat}
    (hid : id < store.size) :
    (store.recorded owner fact).context id =
      (store.context id).extend (if owner = id then [⟨store.size, fact⟩] else []) := by
  have hread : (store.recorded owner fact).context id =
      if id = owner then (store.context owner).extend [⟨store.size, fact⟩]
      else store.context id := by
    unfold recorded
    split
    · rw [context_update _ howner]
    · next shape _ =>
      have hsize : owner < (store.insert (store.opened owner shape)).1.size := by
        rw [size_insert]
        exact Nat.lt_succ_of_lt howner
      rw [context_update _ hsize, context_insert_of_lt _ howner, context_insert_of_lt _ hid]
  rw [hread]
  by_cases h : id = owner
  · rw [if_pos h, if_pos h.symm, h]
  · rw [if_neg h, if_neg (Ne.symm h), Context.extend_nil]

/-- A context that a fact opens is there after the fact was recorded. -/
lemma context_recorded_size (howner : owner < store.size) {fact : Fact} {shape : Shape String}
    (h : fact.shape? = some shape) :
    (store.recorded owner fact).context store.size = store.opened owner shape := by
  have hsize : owner < (store.insert (store.opened owner shape)).1.size := by
    rw [size_insert]
    exact Nat.lt_succ_of_lt howner
  simp only [recorded, h]
  rw [context_update _ hsize, if_neg (Nat.ne_of_gt howner), context_insert_self]

lemma Closed.recorded (closed : store.Closed) (howner : owner < store.size) (fact : Fact) :
    (store.recorded owner fact).Closed := by
  intro id child hchild
  rw [size_recorded]
  by_cases hid : id < store.size
  · rw [context_recorded howner fact hid] at hchild
    have hcases : child ∈ (store.context id).children ∨
        fact.shape?.isSome ∧ child = store.size := by
      split_ifs at hchild
      · cases hshape : fact.shape? with
        | none => simpa [Context.extend, Entry.child?, hshape] using hchild
        | some shape =>
          rw [Context.extend_opened _ _ (by simp [hshape])] at hchild
          simpa using hchild
      · exact .inl (by simpa using hchild)
    rcases hcases with hold | ⟨hopens, rfl⟩
    · exact Nat.lt_add_right _ (closed id child hold)
    · simp [hopens]
  · -- a context past those of the store is new and has no children
    exfalso
    cases hshape : fact.shape? with
    | none =>
      rw [context_of_le (by rw [size_recorded, hshape]; simpa using hid)] at hchild
      simp at hchild
    | some shape =>
      rcases Nat.eq_or_lt_of_le (Nat.le_of_not_lt hid) with rfl | hlt
      · rw [context_recorded_size howner hshape] at hchild
        simp [opened] at hchild
      · have hsize : (store.recorded owner fact).size ≤ id := by
          rw [size_recorded, hshape]
          exact hlt
        rw [context_of_le hsize] at hchild
        simp at hchild

lemma Forest.recorded (forest : store.Forest) (howner : owner < store.size) (fact : Fact) :
    (store.recorded owner fact).Forest := by
  cases hshape : fact.shape? with
  | none =>
    have hchildren : ((store.context owner).extend [⟨store.size, fact⟩]).children =
        (store.context owner).children := by
      simp [Context.extend, Entry.child?, hshape]
    simp only [Store.recorded, hshape]
    exact forest.update howner rfl rfl rfl hchildren
  | some shape =>
    have hmade : (store.insert (store.opened owner shape)).1.Forest := by
      apply forest.build (store.builder owner) howner rfl
      cases fact <;> cases hshape <;> nofun
    have hextend : (fun context : Context String => context.extend [⟨store.size, fact⟩]) =
        fun context => { context with children := context.children.push store.size } := by
      funext context
      exact context.extend_opened store.size (by simp [hshape])
    obtain ⟨hparent, hnew, -⟩ := addChild_eq_ok_iff.mp (addChild_opened forest.closed howner shape)
    simp only [Store.recorded, hshape, hextend]
    exact hmade.attach hparent hnew

end

end Store

/-! ### Interpreting a node -/

namespace Progress

variable {view : SourceView} {progress : Progress} {owner : Nat} {node : Node}

/-- A node that is not interpreted leaves everything as it is. -/
lemma interpret_of_none (h : node.finding? view = none) :
    progress.interpret view owner node = .ok (progress, owner) := by
  have hrole : node.role? = none := Option.map_eq_none_iff.mp h
  simp [interpret, hrole]

lemma interpret_of_error {error : SpanError} (h : node.finding? view = some (.error error)) :
    progress.interpret view owner node = .error (.span error) := by
  obtain ⟨role, hrole, hfinding⟩ := Option.map_eq_some_iff.mp h
  simp [interpret, hrole, hfinding]

/-- What is found at a node is recorded for its owner, and that never fails. -/
lemma interpret_of_ok (closed : progress.store.Closed) (howner : owner < progress.store.size)
    {finding : Finding} (h : node.finding? view = some (.ok finding)) :
    progress.interpret view owner node =
      .ok (⟨progress.store.recorded owner finding.fact,
          progress.notices ++ finding.notice.toArray⟩,
        if node.opens then progress.store.size else owner) := by
  obtain ⟨role, hrole, hfinding⟩ := Option.map_eq_some_iff.mp h
  have hopens := Node.isSome_shape?_of_finding h
  simp [interpret, hrole, hfinding, Store.record_eq closed howner, hopens]

/-- After a node was interpreted the store is still a forest, with one context more if the node is a
declaration. That context is then the owner. -/
lemma interpret_ok (forest : progress.store.Forest) (howner : owner < progress.store.size)
    {after : Progress} {next : Nat}
    (h : progress.interpret view owner node = .ok (after, next)) :
    after.store.Forest ∧
      after.store.size = (if node.opens then progress.store.size + 1 else progress.store.size) ∧
      next = if node.opens then progress.store.size else owner := by
  cases hfinding : node.finding? view with
  | none =>
    have hopens := Node.opens_of_finding?_none hfinding
    rw [interpret_of_none hfinding] at h
    cases h
    rw [if_neg hopens, if_neg hopens]
    exact ⟨forest, rfl, rfl⟩
  | some outcome =>
    cases outcome with
    | error error =>
      rw [interpret_of_error hfinding] at h
      cases h
    | ok finding =>
      have hopens := Node.isSome_shape?_of_finding hfinding
      rw [interpret_of_ok forest.closed howner hfinding] at h
      cases h
      refine ⟨forest.recorded howner finding.fact, ?_, rfl⟩
      simp only [Store.size_recorded, hopens]
      split <;> rfl

/-! ### Following a route -/

/-- Interprets the nodes of stops one after the other, each for its owner, until the first error. -/
def follow (view : SourceView) (progress : Progress) : List Stop → Visited
  | []            => ⟨progress, none⟩
  | stop :: stops =>
    match progress.interpret view stop.owner stop.node with
    | .error error        => ⟨progress, some error⟩
    | .ok (progress, _)   => follow view progress stops

lemma follow_append (stops more : List Stop) :
    progress.follow view (stops ++ more) =
      (progress.follow view stops).andThen fun progress => progress.follow view more := by
  induction stops generalizing progress with
  | nil => rfl
  | cons stop stops ih =>
    simp only [List.cons_append, follow]
    split
    · rfl
    · exact ih

/-- Stops that were followed without an error begin with one that was, and the rest goes on in step
from a forest. -/
lemma follow_cons_ok (forest : progress.store.Forest) {stop : Stop} {stops : List Stop}
    (inStep : InStep progress.store.size (stop :: stops)) {after : Progress}
    (h : progress.follow view (stop :: stops) = ⟨after, none⟩) :
    ∃ (middle : Progress) (next : Nat),
      progress.interpret view stop.owner stop.node = .ok (middle, next) ∧
      middle.follow view stops = ⟨after, none⟩ ∧ middle.store.Forest ∧
      InStep middle.store.size stops ∧
      middle.store.size = progress.store.size + if stop.opens then 1 else 0 := by
  obtain ⟨-, howner, hrest⟩ := inStep
  rw [follow] at h
  split at h
  · cases h
  · next middle next hinterpret =>
    obtain ⟨forest', hsize, -⟩ := interpret_ok forest howner hinterpret
    change middle.store.size = if stop.opens then _ else _ at hsize
    refine ⟨middle, next, hinterpret, h, forest', by rw [hsize]; exact hrest, ?_⟩
    rw [hsize]
    split <;> rfl

/-- Stops that go with the making of contexts keep a forest and open their contexts. -/
lemma follow_ok (forest : progress.store.Forest) {stops : List Stop}
    (inStep : InStep progress.store.size stops) {after : Progress}
    (h : progress.follow view stops = ⟨after, none⟩) :
    after.store.Forest ∧ after.store.size = progress.store.size + openings stops := by
  induction stops generalizing progress with
  | nil =>
    cases h
    exact ⟨forest, rfl⟩
  | cons stop stops ih =>
    obtain ⟨middle, next, -, hfollow, forest', hrest, hsize⟩ := follow_cons_ok forest inStep h
    obtain ⟨hforest, hafter⟩ := ih forest' hrest hfollow
    refine ⟨hforest, ?_⟩
    rw [hafter, hsize, openings_cons, Nat.add_assoc]

/-- A visit follows the route of its node. -/
lemma descend_eq_follow (view : SourceView) :
    (∀ node address owner (progress : Progress), progress.store.Forest →
      owner < progress.store.size →
      progress.descend view owner node =
        progress.follow view (node.route address owner progress.store.size)) ∧
    ∀ nodes address index owner (progress : Progress), progress.store.Forest →
      owner < progress.store.size →
      progress.descendAll view owner nodes =
        progress.follow view (Node.routeAll address index owner progress.store.size nodes) := by
  apply Node.induction_on_descent
  case node =>
    intro node ih address owner progress forest howner
    rw [Node.route_eq, descend, follow]
    cases hinterpret : progress.interpret view owner node with
    | error error => rfl
    | ok answer =>
      obtain ⟨after, next⟩ := answer
      obtain ⟨forest', hsize, rfl⟩ := interpret_ok forest howner hinterpret
      rw [← hsize]
      apply ih _ _ _ after forest'
      rw [hsize]
      split <;> omega
  case nil =>
    intro address index owner progress _ _
    rw [descendAll, Node.routeAll_nil, follow]
  case cons =>
    intro node nodes ihNode ihNodes address index owner progress forest howner
    rw [descendAll, Node.routeAll_cons, follow_append,
      ihNode (address ++ [index]) owner progress forest howner]
    cases hfirst : progress.follow view (node.route (address ++ [index]) owner
      progress.store.size) with
    | mk after failure =>
      cases failure with
      | some error => rfl
      | none =>
        have hstep := Node.inStep_route.1 node (address ++ [index]) owner _ howner
        obtain ⟨forest', hsize⟩ := follow_ok forest hstep hfirst
        simp only [Visited.andThen_ok]
        rw [← hsize]
        apply ihNodes address (index + 1) owner after forest'
        rw [hsize]
        exact Nat.lt_add_right _ howner

end Progress

/-! ### The entries of contexts -/

/-- The entry that a stop gives rise to. -/
def Stop.entry? (view : SourceView) (stop : Stop) : Option Entry :=
  match stop.node.finding? view with
  | some (.ok finding) => some ⟨stop.number, finding.fact⟩
  | _                  => none

/-- The entries of the stops that a context owns. -/
def entriesFor (view : SourceView) (owner : Nat) (stops : List Stop) : List Entry :=
  (stops.filter (·.owner = owner)).filterMap (Stop.entry? view)

lemma entriesFor_cons (view : SourceView) (owner : Nat) (stop : Stop) (stops : List Stop) :
    entriesFor view owner (stop :: stops) =
      (if stop.owner = owner then (stop.entry? view).toList else []) ++
        entriesFor view owner stops := by
  by_cases h : stop.owner = owner
  · rw [if_pos h, entriesFor, List.filter_cons_of_pos (by simpa using h)]
    cases hentry : stop.entry? view <;> simp [entriesFor, hentry]
  · rw [if_neg h, entriesFor, List.filter_cons_of_neg (by simpa using h)]
    rfl

namespace Progress

variable {view : SourceView} {progress after : Progress}

/-- One stop enters what is found at it for its owner, and nothing anywhere else. -/
lemma context_interpret (forest : progress.store.Forest) {stop : Stop} {next : Nat}
    (hnumber : stop.number = progress.store.size) (howner : stop.owner < progress.store.size)
    (h : progress.interpret view stop.owner stop.node = .ok (after, next)) {id : Nat}
    (hid : id < progress.store.size) :
    after.store.context id =
      (progress.store.context id).extend
        (if stop.owner = id then (stop.entry? view).toList else []) := by
  cases hfinding : stop.node.finding? view with
  | none =>
    rw [interpret_of_none hfinding] at h
    cases h
    simp [Stop.entry?, hfinding]
  | some outcome =>
    cases outcome with
    | error error =>
      rw [interpret_of_error hfinding] at h
      cases h
    | ok finding =>
      rw [interpret_of_ok forest.closed howner hfinding] at h
      cases h
      simp only [Stop.entry?, hfinding, hnumber]
      exact Store.context_recorded howner finding.fact hid

/-- A stop at a declaration opens the context with its number. -/
lemma context_interpret_number (forest : progress.store.Forest) {stop : Stop} {next : Nat}
    (hnumber : stop.number = progress.store.size) (howner : stop.owner < progress.store.size)
    (h : progress.interpret view stop.owner stop.node = .ok (after, next)) (hopens : stop.opens) :
    ∃ finding shape, stop.node.finding? view = some (.ok finding) ∧
      finding.fact.shape? = some shape ∧
      after.store.context stop.number = progress.store.opened stop.owner shape := by
  cases hfinding : stop.node.finding? view with
  | none => exact absurd hopens (Node.opens_of_finding?_none hfinding)
  | some outcome =>
    cases outcome with
    | error error =>
      rw [interpret_of_error hfinding] at h
      cases h
    | ok finding =>
      obtain ⟨shape, hshape⟩ :=
        Option.isSome_iff_exists.mp ((Node.isSome_shape?_of_finding hfinding).mpr hopens)
      rw [interpret_of_ok forest.closed howner hfinding] at h
      cases h
      refine ⟨finding, shape, rfl, hshape, ?_⟩
      rw [hnumber]
      exact Store.context_recorded_size howner hshape

/-- A context from before the stops has their entries for it at the ends of its lists. -/
lemma context_follow (forest : progress.store.Forest) {stops : List Stop}
    (inStep : InStep progress.store.size stops)
    (h : progress.follow view stops = ⟨after, none⟩) {id : Nat} (hid : id < progress.store.size) :
    after.store.context id =
      (progress.store.context id).extend (entriesFor view id stops) := by
  induction stops generalizing progress with
  | nil =>
    cases h
    simp [entriesFor]
  | cons stop stops ih =>
    obtain ⟨middle, next, hinterpret, hfollow, forest', hrest, hsize⟩ :=
      follow_cons_ok forest inStep h
    have hid' : id < middle.store.size := by
      rw [hsize]
      exact Nat.lt_add_right _ hid
    rw [ih forest' hrest hfollow hid',
      context_interpret forest inStep.1 inStep.2.1 hinterpret hid, entriesFor_cons,
      Context.extend_append]

/-- A context opened at one of the stops is that of its declaration, with its owner for a parent and
the entries of the stops for it. -/
lemma context_follow_number (forest : progress.store.Forest) {stops : List Stop}
    (inStep : InStep progress.store.size stops)
    (h : progress.follow view stops = ⟨after, none⟩) {stop : Stop} (hstop : stop ∈ stops)
    (hopens : stop.opens) :
    ∃ finding shape lines, stop.node.finding? view = some (.ok finding) ∧
      finding.fact.shape? = some shape ∧
      after.store.context stop.number =
        ({ shape, parent := some stop.owner, lines } : Context String).extend
          (entriesFor view stop.number stops) := by
  induction stops generalizing progress with
  | nil => cases hstop
  | cons first stops ih =>
    obtain ⟨middle, next, hinterpret, hfollow, forest', hrest, hsize⟩ :=
      follow_cons_ok forest inStep h
    -- The first stop is for an older context, so it enters nothing for the one that is opened.
    have hentries : entriesFor view stop.number (first :: stops) =
        entriesFor view stop.number stops := by
      have howner := inStep.2.1
      have hnumber := (inStep.bounds hstop).2.1
      rw [entriesFor_cons, if_neg (by omega), List.nil_append]
    rw [hentries]
    rcases List.mem_cons.mp hstop with rfl | hstop
    · obtain ⟨finding, shape, hfinding, hshape, hcontext⟩ :=
        context_interpret_number forest inStep.1 inStep.2.1 hinterpret hopens
      refine ⟨finding, shape, (progress.store.context stop.owner).lines, hfinding, hshape, ?_⟩
      have hid : stop.number < middle.store.size := by
        rw [hsize, if_pos hopens, inStep.1]
        exact Nat.lt_succ_self _
      rw [context_follow forest' hrest hfollow hid, hcontext]
      rfl
    · exact ih forest' hrest hfollow hstop

/-- When stops were followed without an error, there is none in what is found at them. -/
lemma finding_follow (forest : progress.store.Forest) {stops : List Stop}
    (inStep : InStep progress.store.size stops)
    (h : progress.follow view stops = ⟨after, none⟩) {stop : Stop} (hstop : stop ∈ stops)
    (error : SpanError) : stop.node.finding? view ≠ some (.error error) := by
  induction stops generalizing progress with
  | nil => cases hstop
  | cons first stops ih =>
    obtain ⟨middle, next, hinterpret, hfollow, forest', hrest, -⟩ := follow_cons_ok forest inStep h
    rcases List.mem_cons.mp hstop with rfl | hstop
    · intro herror
      rw [interpret_of_error herror] at hinterpret
      cases hinterpret
    · exact ih forest' hrest hfollow hstop

end Progress

end Outline
