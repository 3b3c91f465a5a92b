import Outline.Context.Record
import Outline.Context.Shape

/-!
# Stores of contexts

Contexts are numbered in the order they are made and live in a store. The parent of a context is
fixed when it is made and is always older; becoming a child of that parent is a separate step, taken
at most once. All lists of a context only grow at their ends. The parts of a context are of one type
throughout a store.
-/

namespace Outline

/-- What a context holds of its own. -/
structure Contents (α : Type) where
  shape       : Shape α
  imports     : Array α := #[]
  fields      : Array (FieldEntry α) := #[]
  invocations : Array (Invocation α) := #[]
  deriving DecidableEq, Inhabited

/-- A context: its contents, the number of its parent, the source lines it shares with the parent,
and the numbers of its children. -/
structure Context (α : Type) extends Contents α where
  parent   : Option Nat := none
  lines    : Array α := #[]
  children : Array Nat := #[]
  deriving DecidableEq, Inhabited

/-- All contexts made so far. -/
structure Store (α : Type) where
  contexts : Array (Context α) := #[]
  deriving DecidableEq, Inhabited

/-- Makes contexts for a parent, with the lines of the parent. -/
structure Builder (α : Type) where
  parent : Nat
  lines  : Array α

/-- Why a context cannot become a child. -/
inductive AttachError (α : Type) where
  | otherParent (child : Shape α)
  | alreadyChild (child : Shape α)
  deriving DecidableEq

/-- The wording of an attachment error. -/
def AttachError.message {α : Type} [Part α] : AttachError α → String
  | .otherParent child  => s!"{child.label} was built for a different parent context"
  | .alreadyChild child => s!"{child.mention} is already a child of this context"

namespace Store

variable {α : Type}

/-- The number of contexts. -/
def size (store : Store α) : Nat :=
  store.contexts.size

/-- The context with a number; a number that was never given reads as an empty file. -/
def context (store : Store α) (id : Nat) : Context α :=
  store.contexts.getD id default

/-! ### Making contexts -/

/-- Takes in a context, which gets the next number. -/
def insert (store : Store α) (context : Context α) : Store α × Nat :=
  (⟨store.contexts.push context⟩, store.size)

/-- A new file over lines. -/
def newFile (store : Store α) (lines : Array α) : Store α × Nat :=
  store.insert { shape := .file, lines }

/-- A builder for children of a context. -/
def builder (store : Store α) (id : Nat) : Builder α :=
  ⟨id, (store.context id).lines⟩

/-- A new package, not yet attached. -/
def buildPackage (store : Store α) (b : Builder α) : Store α × Nat :=
  store.insert { shape := .package, parent := some b.parent, lines := b.lines }

/-- A new class, not yet attached. -/
def buildClass (store : Store α) (b : Builder α) (modifier identifier : α) : Store α × Nat :=
  store.insert
    { shape := .classDef modifier identifier, parent := some b.parent, lines := b.lines }

/-- A new function, not yet attached. -/
def buildFunction (store : Store α) (b : Builder α)
    (modifiers identifier parameters returnType : α) : Store α × Nat :=
  store.insert
    { shape  := .functionDef modifiers identifier parameters returnType
      parent := some b.parent
      lines  := b.lines }

/-! ### Filling contexts -/

/-- Changes the context with a number. -/
def update (store : Store α) (id : Nat) (f : Context α → Context α) : Store α :=
  ⟨store.contexts.modify id f⟩

/-- Attaches a context to the parent it was made for; a context is attached once. -/
def addChild (store : Store α) (id child : Nat) : Except (AttachError α) (Store α) :=
  let context := store.context child
  if context.parent ≠ some id then .error (.otherParent context.shape)
  else if (store.context id).children.contains child then .error (.alreadyChild context.shape)
  else .ok (store.update id fun c => { c with children := c.children.push child })

/-- Records an import. -/
def addImport (store : Store α) (id : Nat) (part : α) : Store α :=
  store.update id fun c => { c with imports := c.imports.push part }

/-- Records a field. -/
def addField (store : Store α) (id : Nat) (entry : FieldEntry α) : Store α :=
  store.update id fun c => { c with fields := c.fields.push entry }

/-- Records a call. -/
def addInvocation (store : Store α) (id : Nat) (call : Invocation α) : Store α :=
  store.update id fun c => { c with invocations := c.invocations.push call }

/-! ### What an operation changes -/

@[simp] theorem size_insert (store : Store α) (context : Context α) :
    (store.insert context).1.size = store.size + 1 := by
  simp [insert, size]

@[simp] theorem size_update (store : Store α) (id : Nat) (f : Context α → Context α) :
    (store.update id f).size = store.size := by
  simp [update, size]

/-- A context that was there before another was taken in is as it was. -/
theorem context_insert_of_lt {store : Store α} {id : Nat} (context : Context α)
    (h : id < store.size) : (store.insert context).1.context id = store.context id := by
  have h' : id < store.contexts.size := h
  simp [insert, Store.context, Array.getD_eq_getD_getElem?, Array.getElem?_push, h',
    Nat.ne_of_lt h']

@[simp] theorem context_insert_self (store : Store α) (context : Context α) :
    (store.insert context).1.context store.size = context := by
  simp [insert, Store.context, size, Array.getD_eq_getD_getElem?]

/-- Changing a context leaves every other one as it was. -/
theorem context_update_of_ne {id other : Nat} (store : Store α) (f : Context α → Context α)
    (h : other ≠ id) : (store.update id f).context other = store.context other := by
  simp [update, Store.context, Array.getD_eq_getD_getElem?, Array.getElem?_modify, h.symm]

theorem context_update_self {store : Store α} {id : Nat} (f : Context α → Context α)
    (h : id < store.size) : (store.update id f).context id = f (store.context id) := by
  have h' : id < store.contexts.size := h
  simp [update, Store.context, Array.getD_eq_getD_getElem?, h', Array.getElem_modify]

/-! ### Finding the way -/

/-- The children of a context. They are younger than it, which the condition only spells out. -/
def below (store : Store α) (id : Nat) : List Nat :=
  (store.context id).children.toList.filter fun child => id < child && child < store.size

theorem mem_below {store : Store α} {id child : Nat} (h : child ∈ store.below id) :
    id < child ∧ child < store.size := by
  simpa using (List.mem_filter.1 h).2

/-- The parent of a context, its parent, and so on up to a file. -/
def ancestors (store : Store α) (id : Nat) : List Nat :=
  match (store.context id).parent with
  | none        => []
  | some parent => if parent < id then parent :: ancestors store parent else []
termination_by id

/-- A context and all its descendants, in document order. -/
def walk (store : Store α) (id : Nat) : List Nat :=
  id :: ((store.below id).attach.map fun ⟨child, _⟩ => walk store child).flatten
termination_by store.size - id
decreasing_by
  rename_i h
  have := mem_below h
  omega

theorem walk_eq (store : Store α) (id : Nat) :
    store.walk id = id :: ((store.below id).map store.walk).flatten := by
  rw [walk]; simp

end Store

end Outline
