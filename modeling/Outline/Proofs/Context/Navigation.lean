import Outline.Proofs.Context.Forest

/-!
# Finding the way in a forest

The chain of parents above a context and the walk below it, in a store that is a forest. The chain
goes strictly to older contexts and ends in a file; the walk goes to younger ones. Two contexts with
one parent are never on one chain, and so no two parts of a walk meet.
-/

namespace Outline

variable {α : Type}

namespace Store

/-! ### The chain of parents -/

namespace Forest

variable {store : Store α}

lemma ancestors_of_none {id : Nat} (h : (store.context id).parent = none) :
    store.ancestors id = [] := by
  rw [ancestors, h]

/-- The chain follows the parents as they stand: the condition in `ancestors` is always met. -/
lemma ancestors_of_some (forest : store.Forest) {id parent : Nat}
    (h : (store.context id).parent = some parent) :
    store.ancestors id = parent :: store.ancestors parent := by
  rw [ancestors, h]
  exact if_pos (forest.parent_lt h)

/-- What holds of a context whenever it holds of its parent holds of every context. -/
lemma induction_on_parent (forest : store.Forest) {P : Nat → Prop}
    (root : ∀ id, (store.context id).parent = none → P id)
    (child : ∀ id parent, (store.context id).parent = some parent → P parent → P id) :
    ∀ id, P id := by
  intro id
  induction id using Nat.strong_induction_on with
  | _ id ih =>
    cases h : (store.context id).parent with
    | none => exact root id h
    | some parent => exact child id parent h (ih parent (forest.parent_lt h))

lemma lt_of_mem_ancestors (forest : store.Forest) {id ancestor : Nat}
    (h : ancestor ∈ store.ancestors id) : ancestor < id := by
  revert h
  induction id using forest.induction_on_parent with
  | root id hnone =>
    intro h
    simp [ancestors_of_none hnone] at h
  | child id parent hsome ih =>
    intro h
    rw [forest.ancestors_of_some hsome] at h
    have hlt := forest.parent_lt hsome
    rcases List.mem_cons.mp h with rfl | h
    · exact hlt
    · exact Nat.lt_trans (ih h) hlt

lemma isChain_ancestors (forest : store.Forest) (id : Nat) :
    (id :: store.ancestors id).IsChain fun a b => (store.context a).parent = some b := by
  induction id using forest.induction_on_parent with
  | root id hnone =>
    rw [ancestors_of_none hnone]
    exact .singleton id
  | child id parent hsome ih =>
    rw [forest.ancestors_of_some hsome]
    exact .cons_cons hsome ih

lemma getLast_ancestors (forest : store.Forest) (id : Nat) :
    (store.context ((id :: store.ancestors id).getLast (List.cons_ne_nil _ _))).parent = none := by
  induction id using forest.induction_on_parent with
  | root id hnone =>
    simp only [ancestors_of_none hnone, List.getLast_singleton]
    exact hnone
  | child id parent hsome ih =>
    simp only [forest.ancestors_of_some hsome, List.getLast_cons_cons]
    exact ih

lemma nodup_ancestors (forest : store.Forest) (id : Nat) : (id :: store.ancestors id).Nodup := by
  induction id using forest.induction_on_parent with
  | root id hnone =>
    rw [ancestors_of_none hnone]
    exact List.nodup_singleton id
  | child id parent hsome ih =>
    refine List.nodup_cons.mpr ⟨fun h => Nat.lt_irrefl _ (forest.lt_of_mem_ancestors h), ?_⟩
    rw [forest.ancestors_of_some hsome]
    exact ih

lemma lines_of_mem_ancestors (forest : store.Forest) {id ancestor : Nat}
    (h : ancestor ∈ store.ancestors id) :
    (store.context ancestor).lines = (store.context id).lines := by
  revert h
  induction id using forest.induction_on_parent with
  | root id hnone =>
    intro h
    simp [ancestors_of_none hnone] at h
  | child id parent hsome ih =>
    intro h
    rw [forest.ancestors_of_some hsome] at h
    rw [forest.lines_eq hsome]
    rcases List.mem_cons.mp h with rfl | h
    · rfl
    · exact ih h

/-- The parent of a context on a chain is on it too. -/
lemma parent_mem_ancestors (forest : store.Forest) {id ancestor parent : Nat}
    (hparent : (store.context ancestor).parent = some parent)
    (h : ancestor = id ∨ ancestor ∈ store.ancestors id) : parent ∈ store.ancestors id := by
  revert h
  induction id using forest.induction_on_parent with
  | root id hnone =>
    rintro (rfl | h)
    · rw [hnone] at hparent; cases hparent
    · simp [ancestors_of_none hnone] at h
  | child id above hsome ih =>
    rw [forest.ancestors_of_some hsome]
    rintro (rfl | h)
    · rw [hsome] at hparent
      cases hparent
      exact List.mem_cons_self
    · rcases List.mem_cons.mp h with rfl | h
      · exact List.mem_cons_of_mem _ (ih (.inl rfl))
      · exact List.mem_cons_of_mem _ (ih (.inr h))

/-- Of two contexts on a chain one is above the other. -/
lemma comparable (forest : store.Forest) {id a b : Nat} (ha : a = id ∨ a ∈ store.ancestors id)
    (hb : b = id ∨ b ∈ store.ancestors id) :
    a = b ∨ a ∈ store.ancestors b ∨ b ∈ store.ancestors a := by
  revert ha hb
  induction id using forest.induction_on_parent with
  | root id hnone =>
    rw [ancestors_of_none hnone]
    rintro (rfl | ha) (rfl | hb)
    · exact .inl rfl
    · cases hb
    · cases ha
    · cases ha
  | child id parent hsome ih =>
    rintro (rfl | ha) (rfl | hb)
    · exact .inl rfl
    · exact .inr (.inr hb)
    · exact .inr (.inl ha)
    · rw [forest.ancestors_of_some hsome] at ha hb
      exact ih (List.mem_cons.mp ha) (List.mem_cons.mp hb)

/-- Two contexts with one parent are on one chain only if they are the same. -/
lemma eq_of_siblings (forest : store.Forest) {id a b parent : Nat}
    (hpa : (store.context a).parent = some parent) (hpb : (store.context b).parent = some parent)
    (ha : a = id ∨ a ∈ store.ancestors id) (hb : b = id ∨ b ∈ store.ancestors id) : a = b := by
  -- A proper ancestor of `b` is at or above the parent, and so older than a child of the parent.
  have above : ∀ {a b : Nat}, (store.context a).parent = some parent →
      (store.context b).parent = some parent → a ∉ store.ancestors b := by
    intro a b hpa hpb h
    rw [forest.ancestors_of_some hpb] at h
    have hlt := forest.parent_lt hpa
    rcases List.mem_cons.mp h with rfl | h
    · exact Nat.lt_irrefl _ hlt
    · exact Nat.lt_asymm hlt (forest.lt_of_mem_ancestors h)
  rcases forest.comparable ha hb with h | h | h
  · exact h
  · exact absurd h (above hpa hpb)
  · exact absurd h (above hpb hpa)

/-! ### The walk -/

lemma child_lt (forest : store.Forest) {id child : Nat}
    (h : child ∈ (store.context id).children) : id < child :=
  forest.parent_lt (forest.child_of h).2

/-- The walk follows the children as they stand: the condition in `below` is always met. -/
lemma below_eq (forest : store.Forest) (id : Nat) :
    store.below id = (store.context id).children.toList := by
  rw [below, List.filter_eq_self]
  intro child h
  rw [Array.mem_toList_iff] at h
  simp [forest.child_lt h, (forest.child_of h).1]

lemma walk_eq_children (forest : store.Forest) (id : Nat) :
    store.walk id = id :: (store.context id).children.toList.flatMap store.walk := by
  rw [walk_eq, forest.below_eq, List.flatMap_def]

/-- What holds of a context whenever it holds of its children holds of every context. -/
lemma induction_on_children (forest : store.Forest) {P : Nat → Prop}
    (step : ∀ id, (∀ child ∈ (store.context id).children, P child) → P id) : ∀ id, P id := by
  intro id
  induction hn : store.size - id using Nat.strong_induction_on generalizing id with
  | _ n ih =>
    apply step
    intro child h
    have hlt := forest.child_lt h
    have hsize := (forest.child_of h).1
    exact ih (store.size - child) (by omega) child rfl

/-- A walk meets the context it starts from and contexts below it. -/
lemma mem_walk (forest : store.Forest) {id other : Nat} (h : other ∈ store.walk id) :
    id = other ∨ id ∈ store.ancestors other := by
  revert h
  induction id using forest.induction_on_children with
  | step id ih =>
    intro h
    rw [forest.walk_eq_children] at h
    rcases List.mem_cons.mp h with rfl | h
    · exact .inl rfl
    · obtain ⟨child, hchild, hother⟩ := List.mem_flatMap.mp h
      rw [Array.mem_toList_iff] at hchild
      exact .inr (forest.parent_mem_ancestors (forest.child_of hchild).2 (ih child hchild hother))

/-- A walk meets the children of each context that it meets. -/
lemma child_mem_walk (forest : store.Forest) {id other child : Nat} (h : other ∈ store.walk id)
    (hchild : child ∈ (store.context other).children) : child ∈ store.walk id := by
  revert h
  induction id using forest.induction_on_children with
  | step id ih =>
    intro h
    rw [forest.walk_eq_children] at h ⊢
    apply List.mem_cons_of_mem
    rcases List.mem_cons.mp h with rfl | h
    · refine List.mem_flatMap.mpr ⟨child, Array.mem_toList_iff.mpr hchild, ?_⟩
      rw [forest.walk_eq_children]
      exact List.mem_cons_self
    · obtain ⟨above, habove, hother⟩ := List.mem_flatMap.mp h
      exact List.mem_flatMap.mpr ⟨above, habove, ih above (Array.mem_toList_iff.mp habove) hother⟩

lemma nodup_walk (forest : store.Forest) (id : Nat) : (store.walk id).Nodup := by
  induction id using forest.induction_on_children with
  | step id ih =>
    rw [forest.walk_eq_children, List.nodup_cons, List.nodup_flatMap]
    refine ⟨?_, ?_, ?_⟩
    · intro h
      obtain ⟨child, hchild, hid⟩ := List.mem_flatMap.mp h
      rw [Array.mem_toList_iff] at hchild
      have hlt := forest.child_lt hchild
      rcases forest.mem_walk hid with rfl | habove
      · exact Nat.lt_irrefl _ hlt
      · exact Nat.lt_asymm hlt (forest.lt_of_mem_ancestors habove)
    · intro child hchild
      exact ih child (Array.mem_toList_iff.mp hchild)
    · refine (forest.nodup id).imp_of_mem ?_
      intro a b ha hb hne
      rw [Array.mem_toList_iff] at ha hb
      intro other hwa hwb
      exact hne (forest.eq_of_siblings (forest.child_of ha).2 (forest.child_of hb).2
        (forest.mem_walk hwa) (forest.mem_walk hwb))

end Forest

/-! ### The loop of the walk -/

/-- One turn of the loop that walks a store: the first pending context is met, and its children
are pending before the rest. The loop knows nothing of a forest. -/
def walkStep (store : Store α) : List Nat × List Nat → List Nat × List Nat
  | ([], met)           => ([], met)
  | (id :: pending, met) => ((store.context id).children.toList ++ pending, met ++ [id])

/-- The loop has met the walk of a pending context after as many turns as the walk is long. -/
lemma Forest.walkStep_iterate {store : Store α} (forest : store.Forest) (id : Nat)
    (pending met : List Nat) :
    store.walkStep^[(store.walk id).length] (id :: pending, met) =
      (pending, met ++ store.walk id) := by
  revert pending met
  induction id using forest.induction_on_children with
  | step id ih =>
    intro pending met
    -- The children are walked one after the other, each down to what was pending behind it.
    have children : ∀ (ids : List Nat), (∀ child ∈ ids, child ∈ (store.context id).children) →
        ∀ met, store.walkStep^[(ids.flatMap store.walk).length] (ids ++ pending, met) =
          (pending, met ++ ids.flatMap store.walk) := by
      intro ids
      induction ids with
      | nil => intro _ met; simp
      | cons child ids ihs =>
        intro hmem met
        rw [List.flatMap_cons, List.length_append, Nat.add_comm, Function.iterate_add_apply,
          List.cons_append, ih child (hmem child List.mem_cons_self)]
        rw [ihs (fun c hc => hmem c (List.mem_cons_of_mem _ hc)), List.append_assoc]
    rw [forest.walk_eq_children, List.length_cons, Function.iterate_succ_apply]
    change store.walkStep^[_] ((store.context id).children.toList ++ pending, met ++ [id]) = _
    rw [children _ (fun child h => Array.mem_toList_iff.mp h), List.append_assoc]
    rfl

end Store

end Outline
