import Outline.Proofs.Context.History
import Outline.Proofs.Traversal.Records

/-!
# What visits keep

A visit changes a store in one way: it records, for an owner, the fact that is found at a node. What
every such step keeps is kept by the visit, whether it fails or not. So a store that is a forest is
one after a visit, and visits may come between the operations of a history.
-/

namespace Outline

/-- A visit ended well if it left a forest with no fewer contexts than there were and with what was
to be kept, and if it failed over nothing but a span. -/
structure Visited.Well (Keeps : Store String → Prop) (size : Nat) (visited : Visited) : Prop where
  forest  : visited.progress.store.Forest
  size_le : size ≤ visited.progress.store.size
  keeps   : Keeps visited.progress.store
  failure : ∀ error, visited.failure ≠ some (.attach error)

namespace Progress

variable {view : SourceView} {Keeps : Store String → Prop}

/-- Interpreting a node leaves a store as it was or records the fact that was found. -/
lemma store_interpret {progress after : Progress} {owner next : Nat} {node : Node}
    (forest : progress.store.Forest) (howner : owner < progress.store.size)
    (h : progress.interpret view owner node = .ok (after, next)) :
    after.store = progress.store ∨ ∃ finding, node.finding? view = some (.ok finding) ∧
      after.store = progress.store.recorded owner finding.fact := by
  cases hfinding : node.finding? view with
  | none =>
    rw [interpret_of_none hfinding] at h
    cases h
    exact .inl rfl
  | some outcome =>
    cases outcome with
    | error error =>
      rw [interpret_of_error hfinding] at h
      cases h
    | ok finding =>
      rw [interpret_of_ok forest.closed howner hfinding] at h
      cases h
      exact .inr ⟨finding, rfl, rfl⟩

/-- Interpreting a node fails over nothing but a span. -/
lemma interpret_ne_attach {progress : Progress} {owner : Nat} (forest : progress.store.Forest)
    (howner : owner < progress.store.size) (node : Node) (error : AttachError String) :
    progress.interpret view owner node ≠ .error (.attach error) := by
  cases hfinding : node.finding? view with
  | none =>
    rw [interpret_of_none hfinding]
    nofun
  | some outcome =>
    cases outcome with
    | error fault =>
      rw [interpret_of_error hfinding]
      nofun
    | ok finding =>
      rw [interpret_of_ok forest.closed howner hfinding]
      nofun

/-- What recording a fact that is found keeps is kept by a visit. -/
lemma well_descend
    (step : ∀ {store : Store String} {owner : Nat} {node : Node} {finding : Finding},
      store.Forest → owner < store.size → node.finding? view = some (.ok finding) →
      Keeps store → Keeps (store.recorded owner finding.fact)) :
    (∀ (node : Node) (progress : Progress) owner, progress.store.Forest →
      owner < progress.store.size → Keeps progress.store →
      (progress.descend view owner node).Well Keeps progress.store.size) ∧
    ∀ (nodes : List Node) (progress : Progress) owner, progress.store.Forest →
      owner < progress.store.size → Keeps progress.store →
      (progress.descendAll view owner nodes).Well Keeps progress.store.size := by
  apply Node.induction_on_descent
  case node =>
    intro node ih progress owner forest howner keeps
    rw [descend]
    cases hinterpret : progress.interpret view owner node with
    | error error =>
      refine ⟨forest, Nat.le_refl _, keeps, ?_⟩
      intro attach hattach
      rw [Option.some.inj hattach] at hinterpret
      exact interpret_ne_attach forest howner node attach hinterpret
    | ok answer =>
      obtain ⟨after, next⟩ := answer
      obtain ⟨forest', hsize, hnext⟩ := interpret_ok forest howner hinterpret
      have hgrown : progress.store.size ≤ after.store.size ∧ next < after.store.size := by
        rw [hsize, hnext]
        split <;> omega
      have keeps' : Keeps after.store := by
        rcases store_interpret forest howner hinterpret with heq | ⟨finding, hfinding, heq⟩
        · rw [heq]
          exact keeps
        · rw [heq]
          exact step forest howner hfinding keeps
      have well := ih after next forest' hgrown.2 keeps'
      exact ⟨well.forest, Nat.le_trans hgrown.1 well.size_le, well.keeps, well.failure⟩
  case nil =>
    intro progress owner forest _ keeps
    rw [descendAll]
    exact ⟨forest, Nat.le_refl _, keeps, fun _ => (Option.some_ne_none _).symm⟩
  case cons =>
    intro node nodes ihNode ihNodes progress owner forest howner keeps
    rw [descendAll]
    have first := ihNode progress owner forest howner keeps
    generalize progress.descend view owner node = visited at first ⊢
    obtain ⟨middle, _ | error⟩ := visited
    · have rest := ihNodes middle owner first.forest (Nat.lt_of_lt_of_le howner first.size_le)
        first.keeps
      exact ⟨rest.forest, Nat.le_trans first.size_le rest.size_le, rest.keeps, rest.failure⟩
    · exact first

end Progress

namespace Store

variable {store : Store String} {target : Nat}

/-- What recording a fact that is found keeps is kept by a visit into a context of a forest. -/
lemma Forest.well_visit {view : SourceView} {Keeps : Store String → Prop} (forest : store.Forest)
    (htarget : target < store.size) (node : Node)
    (step : ∀ {store : Store String} {owner : Nat} {node : Node} {finding : Finding},
      store.Forest → owner < store.size → node.finding? view = some (.ok finding) →
      Keeps store → Keeps (store.recorded owner finding.fact))
    (keeps : Keeps store) : (store.visit view node target).Well Keeps store.size := by
  rw [store.visit_eq]
  exact (Progress.well_descend step).1 node { store } target forest htarget keeps

end Store

/-! ### Histories with visits -/

/-- What is done with contexts: an operation or, where parts are texts, the visit of a tree. -/
inductive Deed : Type → Type 1 where
  | operation {α : Type} (operation : Operation α) : Deed α
  | visit (view : SourceView) (node : Node) (target : Nat) : Deed String

namespace Session

/-- Does a deed. An operation that is refused and a visit into a context that is not there leave all
as it was; a visit that fails leaves what it recorded before. -/
def carryOut : {α : Type} → [Part α] → Session α → Deed α → Session α
  | _, _, session, .operation operation     => (session.perform operation).1
  | _, _, session, .visit view node target =>
    if target < session.store.size then
      { session with store := (session.store.visit view node target).progress.store }
    else session

/-- What a history of deeds leaves. -/
def afterDeeds {α : Type} [Part α] (deeds : List (Deed α)) : Session α :=
  deeds.foldl carryOut {}

lemma Sound.visit {session : Session String} (sound : session.Sound) (view : SourceView)
    (node : Node) {target : Nat} (htarget : target < session.store.size) :
    ({ session with store := (session.store.visit view node target).progress.store } :
      Session String).Sound := by
  have well : (session.store.visit view node target).Well
      (fun store => session.store.size ≤ store.size ∧ ∀ id < session.store.size,
        (store.context id).lines = (session.store.context id).lines) session.store.size := by
    apply sound.forest.well_visit htarget node
    · rintro store owner node finding - howner - ⟨hsize, hlines⟩
      rw [Store.size_recorded]
      refine ⟨Nat.le_add_right_of_le hsize, ?_⟩
      intro id hid
      rw [Store.context_recorded howner finding.fact (Nat.lt_of_lt_of_le hid hsize)]
      exact hlines id hid
    · exact ⟨Nat.le_refl _, fun _ _ => rfl⟩
  exact sound.of_lines well.forest well.keeps.1 well.keeps.2

lemma Sound.carryOut {α : Type} [Part α] {session : Session α} (sound : session.Sound)
    (deed : Deed α) : (session.carryOut deed).Sound := by
  cases deed with
  | operation operation => exact sound.perform operation
  | visit view node target =>
    simp only [Session.carryOut]
    split
    · next htarget => exact sound.visit view node htarget
    · exact sound

/-- Every history with visits leaves a sound session. -/
lemma Sound.afterDeeds {α : Type} [Part α] (deeds : List (Deed α)) :
    (Session.afterDeeds deeds).Sound := by
  have run : ∀ session : Session α, session.Sound →
      (deeds.foldl Session.carryOut session).Sound := by
    induction deeds with
    | nil => exact fun _ sound => sound
    | cons deed deeds ih => exact fun _ sound => ih _ (sound.carryOut deed)
  exact run {} ⟨Store.forest_empty, by simp⟩

end Session

end Outline
