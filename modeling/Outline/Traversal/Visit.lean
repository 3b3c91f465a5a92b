import Outline.Traversal.Fact

/-!
# Visiting a tree

The walk over a parse tree that fills a store. It goes in document order and carries with each
pending node the context that owns it, so that the depth of a tree costs no stack. A visit that
fails keeps what was recorded before the failing node.
-/

namespace Outline

/-- Why a visit ends early. -/
inductive VisitError where
  | span (error : SpanError)
  | attach (error : AttachError String)
  deriving DecidableEq

/-- The wording of a visit's error. -/
def VisitError.message : VisitError → String
  | .span error   => error.message
  | .attach error => error.message

/-- Records a fact on a context; the answer is also the context that owns what is below. -/
def Store.record (store : Store String) (owner : Nat) :
    Fact → Except (AttachError String) (Store String × Nat)
  | .imported text    => .ok (store.addImport owner text, owner)
  | .field entry      => .ok (store.addField owner entry, owner)
  | .invocation call  => .ok (store.addInvocation owner call, owner)
  | .classOpened modifier identifier => do
    let (store, id) := store.buildClass (store.builder owner) modifier identifier
    return (← store.addChild owner id, id)
  | .functionOpened modifiers identifier parameters returnType => do
    let (store, id) :=
      store.buildFunction (store.builder owner) modifiers identifier parameters returnType
    return (← store.addChild owner id, id)

/-- The store and the notices of a visit so far. -/
structure Progress where
  store   : Store String
  notices : Array Notice := #[]

/-- Interprets one node for its owner; the answer is also the owner of its children. -/
def Progress.interpret (progress : Progress) (view : SourceView) (owner : Nat) (node : Node) :
    Except VisitError (Progress × Nat) :=
  match node.role? with
  | none      => .ok (progress, owner)
  | some role =>
    match role.finding view node with
    | .error error  => .error (.span error)
    | .ok finding   =>
      match progress.store.record owner finding.fact with
      | .error error      => .error (.attach error)
      | .ok (store, next) => .ok (⟨store, progress.notices ++ finding.notice.toArray⟩, next)

/-- A visit's end: what was recorded, and the error if it failed. -/
structure Visited where
  progress : Progress
  failure  : Option VisitError := none

/-- Visits pending nodes, each with its owner, in order; a node's children come before the rest. -/
def Progress.visitAll (view : SourceView) (progress : Progress) (pending : List (Nat × Node)) :
    Visited :=
  match pending with
  | []                    => ⟨progress, none⟩
  | (owner, node) :: rest =>
    match progress.interpret view owner node with
    | .error error         => ⟨progress, some error⟩
    | .ok (progress, next) => visitAll view progress (Node.tagged next node.descent ++ rest)
termination_by Node.size.sizeList (pending.map (·.2))
decreasing_by
  have := Node.sizeList_descent_lt node
  simp only [List.map_append, List.map_cons, Node.map_snd_tagged, Node.sizeList_append,
    Node.size.sizeList]
  omega

/-- Visits a tree into a context of a store, reading texts through a view of a source. -/
def Store.visit (store : Store String) (view : SourceView) (node : Node) (target : Nat) : Visited :=
  Progress.visitAll view { store } [(target, node)]

end Outline
