import Outline.Traversal.Visit
import Mathlib.Logic.Function.Iterate
import Mathlib.Tactic.Common

/-!
# Visiting by recursion

The walk of `Progress.visitAll` keeps its pending nodes in a list. Said by recursion, a visit
interprets a node and then visits the children below it from left to right, for the owner that the
node leaves, until the first error. The two agree in the store, the notices and the error, and the
loop takes one turn for each node that it visits.
-/

namespace Outline

/-- What holds of a node when it holds of the children visited below it, and of a list of nodes when
it holds of each, holds of all nodes. -/
lemma Node.induction_on_descent {P : Node → Prop} {Q : List Node → Prop}
    (node : ∀ node, Q node.descent → P node) (nil : Q [])
    (cons : ∀ node nodes, P node → Q nodes → Q (node :: nodes)) :
    (∀ node, P node) ∧ ∀ nodes, Q nodes := by
  have lists : ∀ n nodes, Node.size.sizeList nodes ≤ n → Q nodes := by
    intro n
    induction n with
    | zero =>
      intro nodes hsize
      cases nodes with
      | nil => exact nil
      | cons first rest =>
        have := first.size_pos
        simp only [Node.size.sizeList] at hsize
        omega
    | succ n ih =>
      intro nodes
      induction nodes with
      | nil => exact fun _ => nil
      | cons first rest ihs =>
        intro hsize
        simp only [Node.size.sizeList] at hsize
        have hbelow := first.sizeList_descent_lt
        have := first.size_pos
        exact cons first rest (node first (ih _ (by omega))) (ihs (by omega))
  exact ⟨fun n => node n (lists _ _ (Nat.le_refl _)), fun nodes => lists _ nodes (Nat.le_refl _)⟩

/-- Goes on after a visit, unless it failed. -/
def Visited.andThen (visited : Visited) (next : Progress → Visited) : Visited :=
  match visited.failure with
  | none   => next visited.progress
  | some _ => visited

@[simp] lemma Visited.andThen_ok (progress : Progress) (next : Progress → Visited) :
    Visited.andThen ⟨progress, none⟩ next = next progress := rfl

@[simp] lemma Visited.andThen_failed (progress : Progress) (error : VisitError)
    (next : Progress → Visited) :
    Visited.andThen ⟨progress, some error⟩ next = ⟨progress, some error⟩ := rfl

lemma Visited.andThen_assoc (visited : Visited) (f g : Progress → Visited) :
    (visited.andThen f).andThen g = visited.andThen fun progress => (f progress).andThen g := by
  obtain ⟨progress, _ | error⟩ := visited <;> rfl

namespace Progress

mutual

/-- Visits a node by recursion: interprets it, then visits the children below it. -/
def descend (view : SourceView) (progress : Progress) (owner : Nat) (node : Node) : Visited :=
  match progress.interpret view owner node with
  | .error error         => ⟨progress, some error⟩
  | .ok (progress, next) => descendAll view progress next node.descent
termination_by 2 * node.size
decreasing_by
  have := node.sizeList_descent_lt
  omega

/-- Visits nodes by recursion, from left to right and for one owner, until the first error. -/
def descendAll (view : SourceView) (progress : Progress) (owner : Nat) (nodes : List Node) :
    Visited :=
  match nodes with
  | []            => ⟨progress, none⟩
  | node :: nodes =>
    (descend view progress owner node).andThen fun progress =>
      descendAll view progress owner nodes
termination_by 2 * Node.size.sizeList nodes + 1
decreasing_by
  · simp only [Node.size.sizeList]
    omega
  · have := node.size_pos
    simp only [Node.size.sizeList]
    omega

end

/-! ### The loop and the recursion -/

@[simp] lemma visitAll_nil (view : SourceView) (progress : Progress) :
    visitAll view progress [] = ⟨progress, none⟩ := by
  rw [visitAll]

lemma visitAll_cons (view : SourceView) (progress : Progress) (owner : Nat) (node : Node)
    (rest : List (Nat × Node)) :
    visitAll view progress ((owner, node) :: rest) =
      match progress.interpret view owner node with
      | .error error         => ⟨progress, some error⟩
      | .ok (progress, next) => visitAll view progress (Node.tagged next node.descent ++ rest) := by
  cases h : progress.interpret view owner node with
  | error error => simp only [visitAll, h]
  | ok after => simp only [visitAll, h]

/-- With whatever is pending behind a node, or behind nodes of one owner, the loop first does what
the recursion does and then, unless that failed, goes on. -/
lemma visitAll_eq_andThen (view : SourceView) :
    (∀ node progress owner rest,
      visitAll view progress ((owner, node) :: rest) =
        (descend view progress owner node).andThen fun progress => visitAll view progress rest) ∧
    ∀ nodes progress owner rest,
      visitAll view progress (Node.tagged owner nodes ++ rest) =
        (descendAll view progress owner nodes).andThen fun progress =>
          visitAll view progress rest := by
  apply Node.induction_on_descent
  case node =>
    intro node ih progress owner rest
    rw [visitAll_cons, descend]
    split
    · rfl
    · next progress next _ => exact ih progress next rest
  case nil =>
    intro progress owner rest
    rw [descendAll]
    rfl
  case cons =>
    intro node nodes ihNode ihNodes progress owner rest
    have split : Node.tagged owner (node :: nodes) ++ rest =
        (owner, node) :: (Node.tagged owner nodes ++ rest) := rfl
    rw [split, ihNode, descendAll, Visited.andThen_assoc]
    congr 1
    funext progress
    exact ihNodes progress owner rest

end Progress

/-! ### Turns of the loop -/

/-- The loop of a visit: with nodes pending, or at its end. -/
inductive Loop where
  | running (progress : Progress) (pending : List (Nat × Node))
  | ended (visited : Visited)

/-- One turn of the loop: the first pending node is interpreted, and its children are pending before
the rest. -/
def Loop.turn (view : SourceView) : Loop → Loop
  | .running progress []                      => .ended ⟨progress, none⟩
  | .running progress ((owner, node) :: rest) =>
    match progress.interpret view owner node with
    | .error error         => .ended ⟨progress, some error⟩
    | .ok (progress, next) => .running progress (Node.tagged next node.descent ++ rest)
  | .ended visited                            => .ended visited

lemma Loop.iterate_ended (view : SourceView) (visited : Visited) (n : Nat) :
    (Loop.turn view)^[n] (.ended visited) = .ended visited :=
  Function.iterate_fixed rfl n

/-- A loop with so many nodes in the pending trees has ended after one turn more. -/
lemma Loop.iterate_running (view : SourceView) (n : Nat) :
    ∀ progress pending, Node.size.sizeList (pending.map (·.2)) ≤ n →
      (Loop.turn view)^[n + 1] (.running progress pending) =
        .ended (progress.visitAll view pending) := by
  induction n with
  | zero =>
    intro progress pending hsize
    cases pending with
    | nil => simp [Loop.turn]
    | cons first rest =>
      have := first.2.size_pos
      simp only [List.map_cons, Node.size.sizeList] at hsize
      omega
  | succ n ih =>
    intro progress pending hsize
    rw [Function.iterate_succ_apply]
    cases pending with
    | nil => rw [Loop.turn, Loop.iterate_ended, Progress.visitAll_nil]
    | cons first rest =>
      obtain ⟨owner, node⟩ := first
      rw [Loop.turn, Progress.visitAll_cons]
      split
      · exact Loop.iterate_ended view _ _
      · next progress next _ =>
        apply ih
        have hbelow := node.sizeList_descent_lt
        simp only [List.map_append, List.map_cons, Node.map_snd_tagged, Node.sizeList_append,
          Node.size.sizeList] at hsize ⊢
        omega

lemma Store.visit_eq (store : Store String) (view : SourceView) (node : Node) (target : Nat) :
    store.visit view node target = Progress.descend view { store } target node := by
  rw [Store.visit, (Progress.visitAll_eq_andThen view).1]
  cases h : Progress.descend view { store } target node with
  | mk progress failure => cases failure <;> simp

/-- A visit does what the recursion does: it leaves the same store and the same notices and ends in
the same error or none. Its loop has ended after at most one turn for each node of the tree and one
more. -/
theorem visit_eq_descend (store : Store String) (view : SourceView) (node : Node) (target : Nat) :
    store.visit view node target = Progress.descend view { store } target node ∧
      (Loop.turn view)^[node.size + 1] (.running { store } [(target, node)]) =
        .ended (Progress.descend view { store } target node) := by
  refine ⟨store.visit_eq view node target, ?_⟩
  rw [Loop.iterate_running view node.size _ _ (by simp [Node.size.sizeList]),
    ← store.visit_eq view node target, Store.visit]

end Outline
