import Outline.Proofs.Traversal.Ownership
import Outline.Proofs.Traversal.Upkeep

/-!
# Visits into any context

What a visit adds hangs on the tree and the view alone. It is what the same visit adds to a new
file, grafted onto the target: the file becomes the target, whose lists only grow at their ends, and
the contexts below the file get the next numbers and the lines of the target. No other context
changes.
-/

namespace Outline

/-! ### Grafts -/

/-- A context under other numbers and over other lines. -/
def Context.renumbered (number : Nat → Nat) (lines : Lines) (context : Context String) :
    Context String :=
  { context with
    parent   := context.parent.map number
    lines    := lines
    children := context.children.map number }

/-- A context with what another holds at the ends of its lists. -/
def Context.absorb (number : Nat → Nat) (context grown : Context String) : Context String :=
  { context with
    imports     := context.imports ++ grown.imports
    fields      := context.fields ++ grown.fields
    invocations := context.invocations ++ grown.invocations
    children    := context.children ++ grown.children.map number }

namespace Store

/-- The number of a context after its file was grafted onto a target: the file is the target, and
the others are numbered on. -/
def graftNumber (store : Store String) (target : Nat) : Nat → Nat
  | 0          => target
  | number + 1 => store.size + number

/-- A store with the contexts of another, whose file is grafted onto a target. -/
def graft (store : Store String) (target : Nat) (grown : Store String) : Store String :=
  let number := store.graftNumber target
  ⟨store.contexts.modify target (·.absorb number (grown.context fileId)) ++
    (grown.contexts.extract 1).map (·.renumbered number (store.context target).lines)⟩

end Store

/-- A progress grafted onto a target. -/
def Progress.graft (progress : Progress) (store : Store String) (target : Nat) : Progress :=
  { progress with store := store.graft target progress.store }

/-- A visit's end with what was recorded grafted onto a target. -/
def Visited.graft (visited : Visited) (store : Store String) (target : Nat) : Visited :=
  { visited with progress := visited.progress.graft store target }

/-! ### The contexts of a graft -/

namespace Store

/-- Stores with the same contexts are the same. -/
lemma ext_context {α : Type} {store other : Store α} (hsize : store.size = other.size)
    (h : ∀ id < store.size, store.context id = other.context id) : store = other := by
  obtain ⟨contexts⟩ := store
  obtain ⟨others⟩ := other
  congr 1
  apply Array.ext hsize
  intro id hid hid'
  have hcontext := h id hid
  simpa [context, Array.getD, hid, hid'] using hcontext

variable {store grown : Store String} {target : Nat}

@[simp] lemma graftNumber_zero : store.graftNumber target 0 = target := rfl

@[simp] lemma graftNumber_succ (number : Nat) :
    store.graftNumber target (number + 1) = store.size + number := rfl

lemma graftNumber_injective (htarget : target < store.size) :
    Function.Injective (store.graftNumber target) := by
  intro a b h
  cases a <;> cases b <;> simp only [graftNumber_zero, graftNumber_succ] at h <;> omega

lemma size_graft (store : Store String) (target : Nat) (grown : Store String) :
    (store.graft target grown).size = store.size + (grown.size - 1) := by
  simp [graft, size]

/-- The number that a graft gives next. -/
lemma graftNumber_size (hgrown : 0 < grown.size) :
    store.graftNumber target grown.size = (store.graft target grown).size := by
  obtain ⟨n, hn⟩ := Nat.exists_eq_succ_of_ne_zero (Nat.ne_of_gt hgrown)
  rw [size_graft, hn]
  rfl

lemma graftNumber_lt (htarget : target < store.size) {number : Nat} (h : number < grown.size) :
    store.graftNumber target number < (store.graft target grown).size := by
  rw [size_graft]
  cases number <;> simp only [graftNumber_zero, graftNumber_succ] <;> omega

/-- A context that was there and is not the target is as it was. -/
lemma context_graft_of_ne {id : Nat} (hid : id < store.size) (hne : id ≠ target) :
    (store.graft target grown).context id = store.context id := by
  have hid' : id < store.contexts.size := hid
  simp [graft, context, Array.getD_eq_getD_getElem?, Array.getElem?_append, hid',
    Array.getElem_modify, hne.symm]

/-- The context of a graft that a context of the grown store becomes. -/
def grafted (store : Store String) (target : Nat) : Nat → Context String → Context String
  | 0,     context => (store.context target).absorb (store.graftNumber target) context
  | _ + 1, context => context.renumbered (store.graftNumber target) (store.context target).lines

lemma context_graft (htarget : target < store.size) {number : Nat} (h : number < grown.size) :
    (store.graft target grown).context (store.graftNumber target number) =
      store.grafted target number (grown.context number) := by
  have htarget' : target < store.contexts.size := htarget
  cases number with
  | zero =>
    simp [graft, grafted, context, Array.getD_eq_getD_getElem?, Array.getElem?_append, htarget',
      Array.getElem_modify, fileId]
  | succ number =>
    have h' : number + 1 < grown.contexts.size := h
    have hlt : number < grown.contexts.size - 1 := by omega
    simp [graft, grafted, context, Array.getD_eq_getD_getElem?, size, h', hlt, Nat.add_comm 1]

/-- A context of a graft was there and is not the target, or comes from the grown store. -/
lemma graft_cases (hgrown : 0 < grown.size) {id : Nat}
    (hid : id < (store.graft target grown).size) :
    id < store.size ∧ id ≠ target ∨
      ∃ number < grown.size, id = store.graftNumber target number := by
  rw [size_graft] at hid
  by_cases hold : id < store.size
  · by_cases hne : id = target
    · exact .inr ⟨0, hgrown, hne⟩
    · exact .inl ⟨hold, hne⟩
  · exact .inr ⟨id - store.size + 1, by omega, by rw [graftNumber_succ]; omega⟩

lemma closed_graft (closed : store.Closed) (hclosed : grown.Closed) (htarget : target < store.size)
    (hgrown : 0 < grown.size) : (store.graft target grown).Closed := by
  intro id child hchild
  have hsize : store.size ≤ (store.graft target grown).size := by
    rw [size_graft]
    exact Nat.le_add_right _ _
  by_cases hid : id < (store.graft target grown).size
  · rcases graft_cases hgrown hid with ⟨hold, hne⟩ | ⟨number, hnumber, rfl⟩
    · rw [context_graft_of_ne hold hne] at hchild
      exact Nat.lt_of_lt_of_le (closed id child hchild) hsize
    · -- a child of a context from the grown store is one of the target or comes from there too
      have hcases : child ∈ (store.context target).children ∨
          ∃ below ∈ (grown.context number).children, store.graftNumber target below = child := by
        rw [context_graft htarget hnumber] at hchild
        cases number with
        | zero => simpa [grafted, Context.absorb] using hchild
        | succ number => exact .inr (by simpa [grafted, Context.renumbered] using hchild)
      rcases hcases with hchild | ⟨below, hbelow, rfl⟩
      · exact Nat.lt_of_lt_of_le (closed target child hchild) hsize
      · exact graftNumber_lt htarget (hclosed number below hbelow)
  · rw [context_of_le (Nat.le_of_not_lt hid)] at hchild
    simp at hchild

end Store

/-! ### Steps in a graft -/

/-- An entry under other numbers. -/
def Entry.renumbered (number : Nat → Nat) (entry : Entry) : Entry :=
  { entry with number := number entry.number }

lemma Entry.filterMap_child?_renumbered (number : Nat → Nat) (entries : List Entry) :
    (entries.map (Entry.renumbered number)).filterMap Entry.child? =
      (entries.filterMap Entry.child?).map number := by
  rw [List.filterMap_map, List.map_filterMap]
  congr 1
  funext entry
  by_cases h : entry.fact.shape?.isSome
  · simp [Entry.child?, Entry.renumbered, h]
  · simp [Entry.child?, Entry.renumbered, h]

namespace Context

variable (number : Nat → Nat) (context : Context String) (entries : List Entry)

lemma renumbered_extend (lines : Lines) :
    (context.extend entries).renumbered number lines =
      (context.renumbered number lines).extend (entries.map (Entry.renumbered number)) := by
  simp only [renumbered, extend, Entry.filterMap_child?_renumbered]
  simp [List.filterMap_map, Function.comp_def, Entry.renumbered]

lemma absorb_extend (grown : Context String) :
    context.absorb number (grown.extend entries) =
      (context.absorb number grown).extend (entries.map (Entry.renumbered number)) := by
  simp only [absorb, extend, Entry.filterMap_child?_renumbered]
  simp [List.filterMap_map, Function.comp_def, Entry.renumbered, Array.append_assoc]

end Context

namespace Store

variable {store grown : Store String} {target owner : Nat}

lemma grafted_extend (number : Nat) (context : Context String) (entries : List Entry) :
    store.grafted target number (context.extend entries) =
      (store.grafted target number context).extend
        (entries.map (Entry.renumbered (store.graftNumber target))) := by
  cases number with
  | zero => exact Context.absorb_extend _ _ _ _
  | succ number => exact Context.renumbered_extend _ _ _ _

/-- A context of a graft that comes from the grown store has the lines of the target. -/
lemma lines_grafted (number : Nat) (context : Context String) :
    (store.grafted target number context).lines = (store.context target).lines := by
  cases number <;> rfl

/-- Recording a fact and grafting can be done in either order. -/
lemma recorded_graft (htarget : target < store.size) (howner : owner < grown.size) (fact : Fact) :
    (store.graft target grown).recorded (store.graftNumber target owner) fact =
      store.graft target (grown.recorded owner fact) := by
  have hgrown : 0 < grown.size := Nat.lt_of_le_of_lt (Nat.zero_le _) howner
  have hgraft := graftNumber_lt htarget howner
  have hmore : grown.size ≤ (grown.recorded owner fact).size := by
    rw [size_recorded]
    exact Nat.le_add_right _ _
  have hsize : ((store.graft target grown).recorded (store.graftNumber target owner) fact).size =
      (store.graft target (grown.recorded owner fact)).size := by
    simp only [size_recorded, size_graft]
    omega
  apply ext_context hsize
  intro id hid
  rw [hsize] at hid
  rcases graft_cases (Nat.lt_of_lt_of_le hgrown hmore) hid with
    ⟨hold, hne⟩ | ⟨number, hnumber, rfl⟩
  · -- the owner is the target or newer than the store
    have hother : store.graftNumber target owner ≠ id := by
      cases owner with
      | zero => exact Ne.symm hne
      | succ owner => simp only [graftNumber_succ]; omega
    have hid' : id < (store.graft target grown).size := by
      rw [size_graft]
      omega
    rw [context_recorded hgraft fact hid', if_neg hother, Context.extend_nil,
      context_graft_of_ne hold hne, context_graft_of_ne hold hne]
  · rw [context_graft htarget hnumber]
    by_cases hlt : number < grown.size
    · rw [context_recorded hgraft fact (graftNumber_lt htarget hlt),
        context_recorded howner fact hlt, context_graft htarget hlt, grafted_extend]
      congr 1
      by_cases hself : owner = number
      · simp [hself, Entry.renumbered, graftNumber_size hgrown]
      · rw [if_neg hself, if_neg (mt (graftNumber_injective htarget).eq_iff.mp hself)]
        rfl
    · -- the context that the fact opens
      obtain ⟨hopens, rfl⟩ : fact.shape?.isSome ∧ number = grown.size := by
        rw [size_recorded] at hnumber
        split at hnumber
        · next hopens => exact ⟨hopens, by omega⟩
        · omega
      obtain ⟨shape, hshape⟩ := Option.isSome_iff_exists.mp hopens
      rw [graftNumber_size hgrown, context_recorded_size hgraft hshape,
        context_recorded_size howner hshape, opened, context_graft htarget howner, lines_grafted]
      obtain ⟨n, hn⟩ := Nat.exists_eq_succ_of_ne_zero (Nat.ne_of_gt hgrown)
      rw [hn]
      simp [opened, grafted, Context.renumbered]

/-- Nothing is changed by a graft of a new file. -/
lemma graft_newFile (store : Store String) (target : Nat) (lines : Lines) :
    store.graft target (({} : Store String).newFile lines).1 = store := by
  have hsize : (store.graft target (({} : Store String).newFile lines).1).size = store.size := by
    rw [size_graft]
    rfl
  apply ext_context hsize
  intro id hid
  rw [hsize] at hid
  by_cases hne : id = target
  · subst hne
    have hgrown : 0 < (({} : Store String).newFile lines).1.size := Nat.zero_lt_one
    have hcontext := context_graft hid hgrown
    rw [graftNumber_zero] at hcontext
    rw [hcontext]
    simp [grafted, Context.absorb, context, newFile, insert]
  · exact context_graft_of_ne hid hne

end Store

/-! ### Visits in a graft -/

section

variable {store : Store String} {target : Nat} {view : SourceView}

/-- Interpreting a node and grafting can be done in either order. -/
lemma Progress.interpret_graft (closed : store.Closed) (htarget : target < store.size)
    {progress : Progress} {owner : Nat} (hclosed : progress.store.Closed)
    (howner : owner < progress.store.size) (node : Node) :
    (progress.graft store target).interpret view (store.graftNumber target owner) node =
      (progress.interpret view owner node).map fun answer =>
        (answer.1.graft store target, store.graftNumber target answer.2) := by
  have hgrown : 0 < progress.store.size := Nat.lt_of_le_of_lt (Nat.zero_le _) howner
  cases hfinding : node.finding? view with
  | none => rw [interpret_of_none hfinding, interpret_of_none hfinding]; rfl
  | some outcome =>
    cases outcome with
    | error error => rw [interpret_of_error hfinding, interpret_of_error hfinding]; rfl
    | ok finding =>
      have hclosed' : (progress.graft store target).store.Closed :=
        Store.closed_graft closed hclosed htarget hgrown
      have howner' : store.graftNumber target owner < (progress.graft store target).store.size :=
        Store.graftNumber_lt htarget howner
      rw [interpret_of_ok hclosed' howner' hfinding, interpret_of_ok hclosed howner hfinding]
      simp only [Except.map, Progress.graft, Store.recorded_graft htarget howner,
        ← Store.graftNumber_size hgrown]
      split <;> rfl

/-- Visiting and grafting can be done in either order. -/
lemma Progress.descend_graft (closed : store.Closed) (htarget : target < store.size) :
    (∀ (node : Node) (progress : Progress) owner, progress.store.Forest →
      owner < progress.store.size →
      (progress.graft store target).descend view (store.graftNumber target owner) node =
        (progress.descend view owner node).graft store target) ∧
    ∀ (nodes : List Node) (progress : Progress) owner, progress.store.Forest →
      owner < progress.store.size →
      (progress.graft store target).descendAll view (store.graftNumber target owner) nodes =
        (progress.descendAll view owner nodes).graft store target := by
  apply Node.induction_on_descent
  case node =>
    intro node ih progress owner forest howner
    rw [descend, descend, interpret_graft closed htarget forest.closed howner]
    cases hinterpret : progress.interpret view owner node with
    | error error => rfl
    | ok answer =>
      obtain ⟨after, next⟩ := answer
      obtain ⟨forest', hsize, hnext⟩ := interpret_ok forest howner hinterpret
      apply ih after next forest'
      rw [hsize, hnext]
      split <;> omega
  case nil =>
    intro progress owner _ _
    rw [descendAll, descendAll]
    rfl
  case cons =>
    intro node nodes ihNode ihNodes progress owner forest howner
    rw [descendAll, descendAll, ihNode progress owner forest howner]
    have well : (progress.descend view owner node).Well (fun _ => True) progress.store.size :=
      (well_descend fun _ _ _ _ => trivial).1 node progress owner forest howner trivial
    generalize progress.descend view owner node = visited at well ⊢
    obtain ⟨middle, _ | error⟩ := visited
    · exact ihNodes middle owner well.forest (Nat.lt_of_lt_of_le howner well.size_le)
    · rfl

/-- A visit into a context leaves what a visit into a new file leaves, grafted onto the context. -/
lemma Store.visit_eq_graft (closed : store.Closed) (htarget : target < store.size) (lines : Lines)
    (node : Node) :
    store.visit view node target = (buildContext lines view node).graft store target := by
  have hstart : (fileStart lines).graft store target = { store } := by
    simp only [Progress.graft, fileStart, graft_newFile]
  rw [store.visit_eq, ← hstart]
  change _ = ((fileStart lines).store.visit view node 0).graft store target
  rw [Store.visit_eq]
  exact (Progress.descend_graft closed htarget).1 node (fileStart lines) 0 (forest_fileStart lines)
    Nat.zero_lt_one

end

/-! ### What is added -/

/-- Whether every context but the file is a class or a function and a child of its parent. -/
def Store.Declared (store : Store String) : Prop :=
  ∀ id < store.size, id ≠ fileId →
    ((store.context id).shape.kind = "class" ∨ (store.context id).shape.kind = "function") ∧
      ∃ parent, (store.context id).parent = some parent ∧ id ∈ (store.context parent).children

lemma Fact.kind_of_shape? {fact : Fact} {shape : Shape String} (h : fact.shape? = some shape) :
    shape.kind = "class" ∨ shape.kind = "function" := by
  cases fact with
  | classOpened => cases h; exact .inl rfl
  | functionOpened => cases h; exact .inr rfl
  | _ => cases h

lemma Context.mem_children_extend {context : Context String} {child : Nat}
    (h : child ∈ context.children) (entries : List Entry) :
    child ∈ (context.extend entries).children :=
  Array.mem_append_left _ h

namespace Store

variable {store grown : Store String} {target : Nat}

lemma Declared.recorded (declared : store.Declared) (forest : store.Forest) {owner : Nat}
    (howner : owner < store.size) (fact : Fact) : (store.recorded owner fact).Declared := by
  intro id hid hne
  by_cases hold : id < store.size
  · obtain ⟨hkind, parent, hparent, hchild⟩ := declared id hold hne
    have hlt := Nat.lt_trans (forest.parent_lt hparent) hold
    rw [context_recorded howner fact hold]
    refine ⟨hkind, parent, hparent, ?_⟩
    rw [context_recorded howner fact hlt]
    exact Context.mem_children_extend hchild _
  · obtain ⟨hopens, rfl⟩ : fact.shape?.isSome ∧ id = store.size := by
      rw [size_recorded] at hid
      split at hid
      · next hopens => exact ⟨hopens, by omega⟩
      · omega
    obtain ⟨shape, hshape⟩ := Option.isSome_iff_exists.mp hopens
    rw [context_recorded_size howner hshape]
    refine ⟨Fact.kind_of_shape? hshape, owner, rfl, ?_⟩
    rw [context_recorded howner fact howner, if_pos rfl, Context.extend_opened _ _ hopens]
    exact Array.mem_push_self

/-- After a visit into a new file there is a forest of declarations below the file. -/
lemma forest_buildContext (lines : Lines) (view : SourceView) (node : Node) :
    let grown := (buildContext lines view node).progress.store
    grown.Forest ∧ 0 < grown.size ∧ grown.Declared := by
  have well : (buildContext lines view node).Well Store.Declared 1 := by
    apply (forest_fileStart lines).well_visit Nat.zero_lt_one node
    · intro _ _ _ _ forest howner _ declared
      exact declared.recorded forest howner _
    · intro id hid hne
      exact absurd (Nat.lt_one_iff.mp hid) hne
  exact ⟨well.forest, well.size_le, well.keeps⟩

/-- In a graft every declaration is below the target. -/
lemma below_graft (forest : (store.graft target grown).Forest) (hgrown : grown.Forest)
    (declared : grown.Declared) (htarget : target < store.size) (number : Nat) :
    number < grown.size → number ≠ 0 →
      target ∈ (store.graft target grown).ancestors (store.graftNumber target number) ∧
        store.graftNumber target number ∈ (store.graft target grown).walk target := by
  induction number using Nat.strong_induction_on with
  | _ number ih =>
    intro hlt hne
    obtain ⟨-, parent, hparent, hchild⟩ := declared number hlt hne
    have hbelow := hgrown.parent_lt hparent
    have hparent' : ((store.graft target grown).context (store.graftNumber target number)).parent =
        some (store.graftNumber target parent) := by
      obtain ⟨n, rfl⟩ := Nat.exists_eq_succ_of_ne_zero hne
      rw [context_graft htarget hlt]
      exact congrArg (Option.map _) hparent
    have hchild' : store.graftNumber target number ∈
        ((store.graft target grown).context (store.graftNumber target parent)).children := by
      rw [context_graft htarget (Nat.lt_trans hbelow hlt)]
      cases parent with
      | zero => exact Array.mem_append_right _ (Array.mem_map_of_mem hchild)
      | succ parent => exact Array.mem_map_of_mem hchild
    rw [forest.ancestors_of_some hparent']
    by_cases hroot : parent = 0
    · subst hroot
      refine ⟨List.mem_cons_self, forest.child_mem_walk ?_ hchild'⟩
      rw [graftNumber_zero, walk_eq]
      exact List.mem_cons_self
    · obtain ⟨habove, hwalk⟩ := ih parent hbelow (Nat.lt_trans hbelow hlt) hroot
      exact ⟨List.mem_cons_of_mem _ habove, forest.child_mem_walk hwalk hchild'⟩

end Store

/-- A context that has only grown: its lists go on from what they were, and all else is the same. -/
structure Context.Grows (old new : Context String) : Prop where
  shape       : new.shape = old.shape
  parent      : new.parent = old.parent
  lines       : new.lines = old.lines
  imports     : old.imports.toList <+: new.imports.toList
  fields      : old.fields.toList <+: new.fields.toList
  invocations : old.invocations.toList <+: new.invocations.toList
  children    : old.children.toList <+: new.children.toList

lemma Context.grows_absorb (number : Nat → Nat) (context grown : Context String) :
    context.Grows (context.absorb number grown) := by
  constructor <;> simp [absorb]

/-- A visit into a context, whether it fails or not, leaves every other context as it was and lets
the lists of this one grow at their ends. The contexts that it makes are classes and functions below
this one, with its lines. What it adds, and whether it fails, is the same for all contexts: it is
what a visit into a new file leaves, grafted onto the context. -/
theorem visit_appends_only (deeds : List (Deed String)) (view : SourceView) (node : Node)
    (target : Nat) (htarget : target < (Session.afterDeeds deeds).store.size) :
    let store := (Session.afterDeeds deeds).store
    let after := (store.visit view node target).progress.store
    store.size ≤ after.size ∧
    (∀ id < store.size, id ≠ target → after.context id = store.context id) ∧
    (store.context target).Grows (after.context target) ∧
    (∀ id < after.size, store.size ≤ id →
      ((after.context id).shape.kind = "class" ∨ (after.context id).shape.kind = "function") ∧
      target ∈ after.ancestors id ∧ id ∈ after.walk target ∧
      (after.context id).lines = (store.context target).lines) ∧
    ∀ lines, store.visit view node target = (buildContext lines view node).graft store target := by
  intro store after
  have sound := Session.Sound.afterDeeds deeds
  have hgraft : ∀ lines, store.visit view node target =
      (buildContext lines view node).graft store target :=
    fun lines => Store.visit_eq_graft sound.forest.closed htarget lines node
  let grown := (buildContext #[] view node).progress.store
  have hafter : after = store.graft target grown := congrArg (·.progress.store) (hgraft #[])
  obtain ⟨forest, hpos, declared⟩ := Store.forest_buildContext #[] view node
  have hforest : (store.graft target grown).Forest :=
    hafter ▸ (sound.visit view node htarget).forest
  rw [hafter]
  refine ⟨?_, ?_, ?_, ?_, hgraft⟩
  · rw [Store.size_graft]
    exact Nat.le_add_right _ _
  · intro id hid hne
    exact Store.context_graft_of_ne hid hne
  · have hcontext : (store.graft target grown).context (store.graftNumber target 0) = _ :=
      Store.context_graft htarget hpos
    rw [Store.graftNumber_zero] at hcontext
    rw [hcontext]
    exact Context.grows_absorb _ _ _
  · intro id hid hnew
    rcases Store.graft_cases hpos hid with ⟨hold, -⟩ | ⟨number, hnumber, rfl⟩
    · exact absurd hold (Nat.not_lt.mpr hnew)
    · have hne : number ≠ 0 := by
        rintro rfl
        exact absurd htarget (Nat.not_lt.mpr hnew)
      obtain ⟨habove, hwalk⟩ := Store.below_graft hforest forest declared htarget number hnumber hne
      refine ⟨?_, habove, hwalk, ?_⟩
      · obtain ⟨hkind, -⟩ := declared number hnumber hne
        obtain ⟨n, rfl⟩ := Nat.exists_eq_succ_of_ne_zero hne
        rw [Store.context_graft htarget hnumber]
        exact hkind
      · rw [Store.context_graft htarget hnumber]
        exact Store.lines_grafted _ _

/-- A history that visits a tree into a new file. -/
def nestedDeeds : List (Deed String) :=
  [.operation (.newFile nestedLines), .visit (.ofLines nestedLines) nestedTree 0]

/-- Visiting the tree again over other lines, into the class from before, makes two classes below
that class; they have the lines of the file, and the file is as it was. -/
theorem visit_appends_only_to_class :
    let store := (Session.afterDeeds nestedDeeds).store
    let view : SourceView := .ofLines #["class X { g(); class Y { } }"]
    let after := (store.visit view nestedTree 1).progress.store
    1 < store.size ∧ after.size = 5 ∧ after.context 0 = store.context 0 ∧
      (store.context 1).Grows (after.context 1) ∧
      1 ∈ after.ancestors 4 ∧ 4 ∈ after.walk 1 ∧
      (after.context 4).lines = (store.context 1).lines ∧
      (after.context 4).shape = .classDef "default" "Y" := by
  intro store view after
  have htarget : 1 < store.size := by decide +kernel
  have hsize : after.size = 5 := by decide +kernel
  have hstore : store.size = 3 := by decide +kernel
  have hshape : (after.context 4).shape = .classDef "default" "Y" := by decide +kernel
  obtain ⟨-, hothers, hgrows, hnew, -⟩ :=
    visit_appends_only nestedDeeds view nestedTree 1 htarget
  obtain ⟨-, habove, hwalk, hlines⟩ := hnew 4 (by rw [hsize]; decide) (by rw [hstore]; decide)
  exact ⟨htarget, hsize, hothers 0 (Nat.lt_trans Nat.zero_lt_one htarget) Nat.zero_ne_one, hgrows,
    habove, hwalk, hlines, hshape⟩

end Outline
