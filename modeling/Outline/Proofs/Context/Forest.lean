import Outline.Context.Store
import Mathlib.Data.List.Chain
import Mathlib.Data.List.Nodup
import Mathlib.Logic.Function.Iterate
import Mathlib.Tactic.Common

/-!
# Stores as forests

`Store.Forest` says how parents, children and lines of the contexts of a store hang together. Each
operation on a store keeps it. In a forest the conditions by which `below` and `ancestors` come to
an end are always met, so both follow the links as they stand; the walk from a context meets no
context twice, and the loop that takes contexts off a stack ends with it.
-/

namespace Outline

variable {α : Type}

namespace Store

/-- The contexts of a store make up a forest. A number that was never given reads as an empty file,
which is a tree of its own. -/
structure Forest (store : Store α) : Prop where
  parent_lt   : ∀ {id parent}, (store.context id).parent = some parent → parent < id
  lines_eq    : ∀ {id parent}, (store.context id).parent = some parent →
    (store.context id).lines = (store.context parent).lines
  shape_file  : ∀ {id}, (store.context id).parent = none ↔ (store.context id).shape = .file
  child_of    : ∀ {id child}, child ∈ (store.context id).children →
    child < store.size ∧ (store.context child).parent = some id
  nodup       : ∀ id, (store.context id).children.toList.Nodup

/-- Every child in a store is a number that was given. -/
def Closed (store : Store α) : Prop :=
  ∀ id, ∀ child ∈ (store.context id).children, child < store.size

lemma Forest.closed {store : Store α} (forest : store.Forest) : store.Closed :=
  fun _ _ h => (forest.child_of h).1

/-! ### Reading contexts after a change -/

lemma context_of_le {store : Store α} {id : Nat} (h : store.size ≤ id) :
    store.context id = { shape := .file } := by
  have h' : store.contexts.size ≤ id := h
  rw [Store.context, Array.getD_eq_getD_getElem?, Array.getElem?_eq_none h']
  rfl

lemma lt_size_of_parent {store : Store α} {id parent : Nat}
    (h : (store.context id).parent = some parent) : id < store.size := by
  by_contra hid
  rw [context_of_le (Nat.le_of_not_lt hid)] at h
  cases h

lemma context_insert (store : Store α) (context : Context α) (id : Nat) :
    (store.insert context).1.context id =
      if id = store.size then context else store.context id := by
  rcases Nat.lt_trichotomy id store.size with hlt | rfl | hgt
  · rw [context_insert_of_lt context hlt, if_neg (Nat.ne_of_lt hlt)]
  · rw [context_insert_self, if_pos rfl]
  · have hsize : (store.insert context).1.size ≤ id := by rw [size_insert]; exact hgt
    rw [context_of_le hsize, context_of_le (Nat.le_of_lt hgt), if_neg (Nat.ne_of_gt hgt)]

lemma context_update {store : Store α} {id : Nat} (f : Context α → Context α)
    (h : id < store.size) (other : Nat) :
    (store.update id f).context other =
      if other = id then f (store.context id) else store.context other := by
  by_cases ho : other = id
  · rw [if_pos ho, ho, context_update_self f h]
  · rw [if_neg ho, context_update_of_ne store f ho]

/-- What a change keeps of the one context is kept of all. -/
lemma field_update {β : Type} {store : Store α} {id : Nat} {f : Context α → Context α}
    (hid : id < store.size) (field : Context α → β)
    (h : field (f (store.context id)) = field (store.context id)) (other : Nat) :
    field ((store.update id f).context other) = field (store.context other) := by
  rw [context_update f hid]
  split
  · next hother => rw [hother, h]
  · rfl

/-! ### Attaching -/

/-- Attaching succeeds for a context that was made for this one and is not yet among its
children. -/
lemma addChild_eq_ok_iff {store after : Store α} {id child : Nat} :
    store.addChild id child = .ok after ↔
      (store.context child).parent = some id ∧ child ∉ (store.context id).children ∧
        after = store.update id fun c => { c with children := c.children.push child } := by
  by_cases hparent : (store.context child).parent = some id
  · by_cases hchild : child ∈ (store.context id).children
    · simp [addChild, hparent, hchild]
    · simp [addChild, hparent, hchild, eq_comm]
  · simp [addChild, hparent]

/-- Attaching fails for any other context. -/
lemma addChild_eq_error_iff (store : Store α) (id child : Nat) :
    (∃ error, store.addChild id child = .error error) ↔
      (store.context child).parent ≠ some id ∨ child ∈ (store.context id).children := by
  cases h : store.addChild id child with
  | ok after =>
    obtain ⟨hparent, hnew, -⟩ := addChild_eq_ok_iff.mp h
    simp [hparent, hnew]
  | error error =>
    refine iff_of_true ⟨error, rfl⟩ ?_
    by_contra hnot
    rw [not_or, not_not] at hnot
    rw [addChild_eq_ok_iff.mpr ⟨hnot.1, hnot.2, rfl⟩] at h
    cases h

/-! ### Forests under operations -/

lemma forest_empty : ({} : Store α).Forest := by
  have h : ∀ id, ({} : Store α).context id = { shape := .file } :=
    fun id => context_of_le (Nat.zero_le id)
  constructor <;> simp [h]

namespace Forest

variable {store : Store α}

/-- Taking in a context without children keeps a forest, when its parent is there and shares its
lines with it, and when only a file is without a parent. -/
lemma insert (forest : store.Forest) {context : Context α} (hchildren : context.children = #[])
    (hshape : context.parent = none ↔ context.shape = .file)
    (hparent : ∀ parent, context.parent = some parent →
      parent < store.size ∧ context.lines = (store.context parent).lines) :
    (store.insert context).1.Forest where
  parent_lt := by
    intro id parent h
    rw [context_insert] at h
    split at h
    · next hid => rw [hid]; exact (hparent parent h).1
    · exact forest.parent_lt h
  lines_eq := by
    intro id parent h
    rw [context_insert] at h
    rw [context_insert, context_insert]
    split at h
    · next hid =>
      obtain ⟨hlt, hlines⟩ := hparent parent h
      rw [if_pos hid, if_neg (Nat.ne_of_lt hlt), hlines]
    · next hid =>
      have hlt := Nat.lt_trans (forest.parent_lt h) (lt_size_of_parent h)
      rw [if_neg hid, if_neg (Nat.ne_of_lt hlt), forest.lines_eq h]
  shape_file := by
    intro id
    rw [context_insert]
    split
    · exact hshape
    · exact forest.shape_file
  child_of := by
    intro id child h
    rw [context_insert] at h
    split at h
    · simp [hchildren] at h
    · obtain ⟨hlt, hof⟩ := forest.child_of h
      rw [size_insert, context_insert, if_neg (Nat.ne_of_lt hlt)]
      exact ⟨Nat.lt_succ_of_lt hlt, hof⟩
  nodup := by
    intro id
    rw [context_insert]
    split
    · simp [hchildren]
    · exact forest.nodup id

/-- A change that leaves the parent, the lines and the shape of a context alone keeps a forest, when
the context then has only contexts for children that were made for it, each once. -/
lemma relink (forest : store.Forest) {id : Nat} (hid : id < store.size)
    {f : Context α → Context α}
    (hparent : (f (store.context id)).parent = (store.context id).parent)
    (hlines : (f (store.context id)).lines = (store.context id).lines)
    (hshape : (f (store.context id)).shape = (store.context id).shape)
    (hchildren : ∀ child ∈ (f (store.context id)).children,
      child < store.size ∧ (store.context child).parent = some id)
    (hnodup : (f (store.context id)).children.toList.Nodup) :
    (store.update id f).Forest := by
  have hp := field_update hid Context.parent hparent
  have hl := field_update hid Context.lines hlines
  have hs := field_update hid (fun c => c.shape) hshape
  refine ⟨?_, ?_, ?_, ?_, ?_⟩
  · intro n parent h
    rw [hp] at h
    exact forest.parent_lt h
  · intro n parent h
    rw [hp] at h
    rw [hl, hl, forest.lines_eq h]
  · intro n
    rw [hp, hs]
    exact forest.shape_file
  · intro n m h
    rw [size_update, hp]
    rw [context_update _ hid] at h
    split at h
    · next hn =>
      rw [hn]
      exact hchildren m h
    · exact forest.child_of h
  · intro n
    rw [context_update _ hid]
    split
    · exact hnodup
    · exact forest.nodup n

/-- A change that leaves the links, the lines and the shape of a context alone keeps a forest. -/
lemma update (forest : store.Forest) {id : Nat} (hid : id < store.size)
    {f : Context α → Context α}
    (hparent : (f (store.context id)).parent = (store.context id).parent)
    (hlines : (f (store.context id)).lines = (store.context id).lines)
    (hshape : (f (store.context id)).shape = (store.context id).shape)
    (hchildren : (f (store.context id)).children = (store.context id).children) :
    (store.update id f).Forest := by
  apply forest.relink hid hparent hlines hshape
  · intro child h
    rw [hchildren] at h
    exact forest.child_of h
  · rw [hchildren]
    exact forest.nodup id

/-- Attaching a context to its parent keeps a forest, when it was not attached before. -/
lemma attach (forest : store.Forest) {id child : Nat}
    (hparent : (store.context child).parent = some id)
    (hnew : child ∉ (store.context id).children) :
    (store.update id fun c => { c with children := c.children.push child }).Forest := by
  have hchild : child < store.size := lt_size_of_parent hparent
  have hid : id < store.size := Nat.lt_trans (forest.parent_lt hparent) hchild
  apply forest.relink hid rfl rfl rfl
  · intro other h
    rcases Array.mem_push.mp h with hold | rfl
    · exact forest.child_of hold
    · exact ⟨hchild, hparent⟩
  · rw [Array.toList_push, List.nodup_append_comm, List.singleton_append, List.nodup_cons]
    exact ⟨by simpa using hnew, forest.nodup id⟩

lemma newFile (forest : store.Forest) (lines : Array α) : (store.newFile lines).1.Forest :=
  forest.insert rfl (by simp) (by simp)

/-- A context that a builder makes keeps a forest, when the builder's parent is there and its lines
are the builder's. -/
lemma build (forest : store.Forest) (builder : Builder α) (hparent : builder.parent < store.size)
    (hlines : builder.lines = (store.context builder.parent).lines) {shape : Shape α}
    (hshape : shape ≠ .file) :
    (store.insert { shape, parent := some builder.parent, lines := builder.lines }).1.Forest := by
  apply forest.insert rfl
  · simpa using hshape
  · intro parent h
    cases h
    exact ⟨hparent, hlines⟩

end Forest

end Store

end Outline
