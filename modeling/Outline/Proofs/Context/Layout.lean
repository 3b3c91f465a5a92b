import Outline.Proofs.Context.Report
import Outline.Proofs.Traversal.Graft

/-!
# The layout of reports

Reports recurse through the tree under a context, the walk goes from context to context, and the
chain of parents goes up. All three agree: a text report is made of the lines of each context on the
walk, indented by the steps that the context is below the start, and a structured report has the
headings of the walk.
-/

namespace Outline

variable {α : Type}

/-! ### Lines of a context -/

/-- A line of a report without its end; a negative indentation is none. -/
def indented (indent : Int) (text : String) : String :=
  String.ofList (List.replicate (max 0 indent).toNat ' ') ++ text

lemma reportLine_eq (indent : Int) (text : String) :
    reportLine indent text = indented indent text ++ "\n" := by
  have hspaces : (max 0 indent).toNat = indent.toNat := by omega
  rw [reportLine, indented, hspaces]

section

variable [Part α]

/-- What a context has to show besides its heading. -/
def Contents.entries (contents : Contents α) : List String :=
  contents.imports.toList.map Part.shown ++ contents.fields.toList.map FieldEntry.render
    ++ contents.invocations.toList.map fun call => "Invoke: " ++ call.render

/-- The lines that a context has of its own in a report, without their ends. -/
def Contents.ownLines (contents : Contents α) (indent : Int) : List String :=
  indented indent contents.shape.header :: contents.entries.map (indented (indent + 2))

/-- Lines put one after the other, each with its end. -/
def joinLines (lines : List String) : String :=
  String.join (lines.map (· ++ "\n"))

lemma joinLines_append (lines others : List String) :
    joinLines (lines ++ others) = joinLines lines ++ joinLines others := by
  rw [joinLines, List.map_append, String.join_append, joinLines, joinLines]

lemma joinLines_flatMap {β : Type} (as : List β) (f : β → List String) :
    joinLines (as.flatMap f) = String.join (as.map fun a => joinLines (f a)) := by
  induction as with
  | nil => rfl
  | cons a as ih => rw [List.flatMap_cons, joinLines_append, ih, List.map_cons, String.join_cons]

lemma Contents.block_eq (contents : Contents α) (indent : Int) :
    contents.block indent = joinLines (contents.ownLines indent) := by
  simp [block, joinLines, ownLines, entries, reportLine_eq, Function.comp_def]

end

/-! ### Steps up the chain -/

namespace Store

variable {store : Store α}

/-- The number of steps up the chain of parents from a context to another. -/
def stepsUp (store : Store α) (id above : Nat) : Nat :=
  (id :: store.ancestors id).idxOf above

lemma getElem?_stepsUp {id above : Nat} (h : above = id ∨ above ∈ store.ancestors id) :
    (id :: store.ancestors id)[store.stepsUp id above]? = some above :=
  List.getElem?_idxOf (List.mem_cons.mpr h)

@[simp] lemma stepsUp_self (store : Store α) (id : Nat) : store.stepsUp id id = 0 :=
  List.idxOf_cons_self

namespace Forest

lemma stepsUp_of_parent (forest : store.Forest) {id parent above : Nat}
    (hparent : (store.context id).parent = some parent) (hne : above ≠ id) :
    store.stepsUp id above = store.stepsUp parent above + 1 := by
  rw [stepsUp, forest.ancestors_of_some hparent, List.idxOf_cons_ne _ hne.symm]
  rfl

/-- From a context on, the parent is one step further up. -/
lemma stepsUp_parent (forest : store.Forest) {id child parent : Nat}
    (hparent : (store.context child).parent = some parent)
    (h : child = id ∨ child ∈ store.ancestors id) :
    store.stepsUp id parent = store.stepsUp id child + 1 := by
  revert h
  induction id using forest.induction_on_parent with
  | root id hnone =>
    rintro (rfl | h)
    · rw [hnone] at hparent
      cases hparent
    · simp [ancestors_of_none hnone] at h
  | child id above hsome ih =>
    have hlt := forest.parent_lt hparent
    rintro (rfl | h)
    · rw [forest.stepsUp_of_parent hparent (Nat.ne_of_lt hlt), stepsUp_self, stepsUp_self]
    · -- neither the child nor its parent is `id`, so both are reached through the parent of `id`
      have hbelow := forest.lt_of_mem_ancestors h
      rw [forest.ancestors_of_some hsome] at h
      rw [forest.stepsUp_of_parent hsome (Nat.ne_of_lt (Nat.lt_trans hlt hbelow)),
        forest.stepsUp_of_parent hsome (Nat.ne_of_lt hbelow), ih (List.mem_cons.mp h)]

/-- What is below a child is one step further below its parent. -/
lemma stepsUp_of_mem_walk (forest : store.Forest) {id child other : Nat}
    (hchild : child ∈ (store.context id).children) (h : other ∈ store.walk child) :
    store.stepsUp other id = store.stepsUp other child + 1 :=
  forest.stepsUp_parent (forest.child_of hchild).2 (forest.mem_walk h)

/-! ### Text reports -/

variable [Part α]

/-- A text report has the lines of each context on the walk, indented by its steps. -/
lemma format_tree (forest : store.Forest) (id : Nat) (indent : Int) :
    (store.tree id).format indent = joinLines ((store.walk id).flatMap fun other =>
      (store.context other).ownLines (indent + 2 * store.stepsUp other id)) := by
  revert indent
  induction id using forest.induction_on_children with
  | step id ih =>
    intro indent
    rw [tree_eq, ContextTree.format, ContextTree.formatList_eq_join, Contents.block_eq,
      forest.below_eq, forest.walk_eq_children, List.flatMap_cons, joinLines_append,
      List.flatMap_assoc, joinLines_flatMap, List.map_map, stepsUp_self]
    congr 1
    · simp
    · congr 1
      apply List.map_congr_left
      intro child hchild
      rw [Array.mem_toList_iff] at hchild
      rw [Function.comp_apply, ih child hchild]
      congr 1
      apply List.flatMap_congr
      intro other hother
      -- the recursion is one step deeper below a child, and the chain up from there one step longer
      rw [forest.stepsUp_of_mem_walk hchild hother]
      congr 1
      omega

end Forest

end Store

/-! ### Structured reports -/

namespace Json

/-- The member of an object with a name. -/
def member? (name : String) : Json → Option Json
  | .obj members => members.lookup (.text name)
  | _            => none

/-- The items of the array that is a member of an object. -/
def itemsAt (name : String) (value : Json) : List Json :=
  match value.member? name with
  | some (.arr items) => items
  | _                 => []

lemma sizeOf_lt_of_mem_itemsAt {name : String} {value item : Json}
    (h : item ∈ value.itemsAt name) : sizeOf item < sizeOf value := by
  rw [itemsAt] at h
  split at h
  · next items hitems =>
    cases value with
    | obj members =>
      obtain ⟨before, after, rfl, -⟩ := List.lookup_eq_some_iff.mp hitems
      have hitem := List.sizeOf_lt_of_mem h
      have hmember := List.sizeOf_lt_of_mem (List.mem_append_right before
        (List.mem_cons_self (a := (Text.Name.text name, Json.arr items)) (l := after)))
      simp only [Prod.mk.sizeOf_spec, arr.sizeOf_spec, obj.sizeOf_spec] at hmember ⊢
      omega
    | _ => cases hitems
  · cases h

/-- The headings in a structured report: its own, then those of its children in order. -/
def headings (value : Json) : List String :=
  ((value.member? "header").bind text?).toList
    ++ ((value.itemsAt "children").attach.map fun ⟨child, _⟩ => headings child).flatten
termination_by value
decreasing_by
  rename_i h
  exact sizeOf_lt_of_mem_itemsAt h

lemma headings_eq (value : Json) :
    value.headings = ((value.member? "header").bind text?).toList
      ++ (value.itemsAt "children").flatMap headings := by
  rw [headings, List.flatMap_def]
  simp

end Json

section

variable [Part α]

namespace ContextTree

lemma member?_header (tree : ContextTree α) :
    tree.toJson.member? "header" = some (.str tree.contents.shape.header) := by
  cases tree
  rw [toJson]
  rfl

lemma itemsAt_children (tree : ContextTree α) :
    tree.toJson.itemsAt "children" = tree.children.map toJson := by
  cases tree
  rw [← toJsonList_eq_map, toJson]
  rfl

lemma headings_toJson (tree : ContextTree α) :
    tree.toJson.headings =
      tree.contents.shape.header :: tree.children.flatMap fun child => child.toJson.headings := by
  rw [Json.headings_eq, member?_header, itemsAt_children, List.flatMap_map]
  rfl

end ContextTree

/-- A structured report has the headings of the contexts on the walk. -/
lemma Store.Forest.headings_tree {store : Store α} (forest : store.Forest) (id : Nat) :
    (store.tree id).toJson.headings =
      (store.walk id).map fun other => (store.context other).shape.header := by
  induction id using forest.induction_on_children with
  | step id ih =>
    rw [tree_eq, ContextTree.headings_toJson, forest.below_eq, forest.walk_eq_children,
      List.map_cons, List.map_flatMap, List.flatMap_map]
    congr 1
    apply List.flatMap_congr
    intro child hchild
    exact ih child (Array.mem_toList_iff.mp hchild)

/-- The report of a context in a history is laid out by the walk and the chains of parents. Asked
for at an indentation that is no machine word, or where there is no room for the spaces or for the
nesting of the contexts, it is refused. -/
theorem format_lays_out_walk (deeds : List (Deed α)) (room : Room α) (id : Nat) (indent : Int) :
    let store := (Session.afterDeeds deeds).store
    let text := joinLines ((store.walk id).flatMap fun other =>
      (store.context other).ownLines (indent + 2 * store.stepsUp other id))
    (store.tree id).format indent = text ∧
    (store.tree id).formatAt room (.int indent) =
      (if !fitsWord indent then .error .beyondWord
      else if !room.spaces indent (store.tree id) then .error .noRoom
      else if !room.fits .text (store.tree id) then .error .nesting
      else .ok text) ∧
    (∀ other ∈ store.walk id,
      (other :: store.ancestors other)[store.stepsUp other id]? = some id) ∧
    (store.tree id).toJson.headings =
      (store.walk id).map fun other => (store.context other).shape.header := by
  intro store text
  have forest := (Session.Sound.afterDeeds deeds).forest
  have htext : (store.tree id).format indent = text := forest.format_tree id indent
  refine ⟨htext, ?_, ?_, forest.headings_tree id⟩
  · rw [← htext]
    rfl
  · intro other hother
    exact Store.getElem?_stepsUp (forest.mem_walk hother)

end

/-- Three columns to the left, the file and the outer class have no space before them, and the call
and the inner class have one. -/
theorem format_lays_out_nested :
    let store := (Session.afterDeeds nestedDeeds).store
    (store.tree 0).formatAt {} (.int (-3)) =
        .ok "File\ndefault class C\n Invoke: f\n default class D\n" ∧
      2 ∈ store.walk 0 ∧ (2 :: store.ancestors 2)[2]? = some 0 ∧
      (store.tree 0).toJson.headings = ["File", "default class C", "default class D"] := by
  intro store
  have hwalk : 2 ∈ store.walk 0 := by decide +kernel
  have hsteps : store.stepsUp 2 0 = 2 := by decide +kernel
  obtain ⟨-, htext, habove, hheadings⟩ := format_lays_out_walk nestedDeeds {} 0 (-3)
  refine ⟨?_, hwalk, ?_, ?_⟩
  · rw [htext]
    decide +kernel
  · rw [← habove 2 hwalk]
    exact congrArg _ hsteps.symm
  · rw [hheadings]
    decide +kernel

/-- There is no report of a file one step beyond the least machine word, where no line would have a
space. -/
theorem format_refused_beyond_word :
    let store := (Session.afterDeeds [.operation (.newFile #[])] : Session String).store
    let indent : Int := -9223372036854775809
    (store.tree 0).formatAt {} (.int indent) = .error .beyondWord ∧
      joinLines ((store.walk 0).flatMap fun other =>
        (store.context other).ownLines (indent + 2 * store.stepsUp other 0)) = "File\n" := by
  decide +kernel

end Outline
