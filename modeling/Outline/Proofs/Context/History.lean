import Outline.Proofs.Context.Navigation
import Outline.Proofs.Outcomes

/-!
# Histories of a store

Whoever works on contexts holds a store and the builders it has asked for, and may use any of them
at any later time. An operation that is refused leaves all of it as it was. After every history the
store is a forest, and every builder still fits the parent it was asked of.
-/

namespace Outline

variable {α : Type}

/-- A store with the builders that were asked of its contexts, in the order of asking. -/
structure Session (α : Type) where
  store    : Store α := {}
  builders : Array (Builder α) := #[]

/-- What can be done with contexts and builders, which go by their numbers. -/
inductive Operation (α : Type) where
  | newFile (lines : Array α)
  | newBuilder (id : Nat)
  | buildPackage (builder : Nat)
  | buildClass (builder : Nat) (modifier identifier : α)
  | buildFunction (builder : Nat) (modifiers identifier parameters returnType : α)
  | addChild (id child : Nat)
  | addImport (id : Nat) (part : α)
  | addField (id : Nat) (modifier identifier typeName : Handed α)
  | addInvocation (id : Nat) (target identifier arguments : Handed α)

/-- Why an operation is refused: there is no such context or builder, a context cannot become a
child, or the parts of a record are no strings. -/
inductive Refusal (α : Type) where
  | absent
  | attach (error : AttachError α)
  | record (rejections : List Rejection)

/-! ### Records of values that are handed in -/

/-- Whether a value is taken for a string, as every part of a record has to be: it is one, which
need be no text, or it is bytes that are a text in UTF-8. -/
def Handed.IsString : Handed α → Prop
  | .string _      => True
  | .bytes content => ∃ cs, Text.Utf8.decode content = .ok cs
  | .other         => False

private lemma asString_cases [Part α] (value : Handed α) :
    (∃ part, value.asString = .ok part ∧ value.IsString) ∨
      ∃ complaint, value.asString = .error complaint ∧ ¬ value.IsString := by
  cases value with
  | string part => exact .inl ⟨part, rfl, trivial⟩
  | bytes content =>
    cases h : Text.Utf8.decode content with
    | ok cs => exact .inl ⟨_, by rw [Handed.asString, h], cs, h⟩
    | error fault => exact .inr ⟨_, by rw [Handed.asString, h], by simp [Handed.IsString, h]⟩
  | other => exact .inr ⟨_, rfl, id⟩

/-- A record is made of three values just in case each is taken for a string. -/
private lemma threeStrings_error_iff [Part α] {β : Type} (names : String × String × String)
    {make : α × α × α → Except (List Rejection) β} (hmake : ∀ parts, ∃ made, make parts = .ok made)
    (a b c : Handed α) :
    (∃ rejections, (threeStrings names (a, b, c) >>= make) = .error rejections) ↔
      ¬ (a.IsString ∧ b.IsString ∧ c.IsString) := by
  have hok : ∀ parts rejections, make parts ≠ .error rejections := by
    intro parts rejections h
    obtain ⟨made, hmade⟩ := hmake parts
    cases hmade.symm.trans h
  unfold threeStrings
  rcases asString_cases a with ⟨_, ha, ha'⟩ | ⟨_, ha, ha'⟩ <;>
  rcases asString_cases b with ⟨_, hb, hb'⟩ | ⟨_, hb, hb'⟩ <;>
  rcases asString_cases c with ⟨_, hc, hc'⟩ | ⟨_, hc, hc'⟩ <;>
  simp [ha, hb, hc, ha', hb', hc', hok]

lemma FieldEntry.ofHanded_error_iff [Part α] (modifier identifier typeName : Handed α) :
    (∃ rejections, FieldEntry.ofHanded modifier identifier typeName = .error rejections) ↔
      ¬ (modifier.IsString ∧ identifier.IsString ∧ typeName.IsString) :=
  threeStrings_error_iff _ (fun _ => ⟨_, rfl⟩) _ _ _

lemma Invocation.ofHanded_error_iff [Part α] (target identifier arguments : Handed α) :
    (∃ rejections, Invocation.ofHanded target identifier arguments = .error rejections) ↔
      ¬ (target.IsString ∧ identifier.IsString ∧ arguments.IsString) :=
  threeStrings_error_iff _ (fun _ => ⟨_, rfl⟩) _ _ _

/-- A string that is no text is recorded as it is, and bytes as the text that they are. -/
example : FieldEntry.ofHanded (.string (.loose [0xD800])) (.bytes [0x69]) (.string (.str "int")) =
    .ok (⟨.loose [0xD800], .str "i", .str "int"⟩ : FieldEntry Json) :=
  rfl

namespace Session

/-- Lets a builder make a context. -/
def build (session : Session α) (builder : Nat) (make : Store α → Builder α → Store α × Nat) :
    Session α × Option (Refusal α) :=
  match session.builders[builder]? with
  | none         => (session, some .absent)
  | some builder => ({ session with store := (make session.store builder).1 }, none)

/-- Puts something into contexts that are there. -/
def fill (session : Session α) (ids : List Nat) (change : Except (Refusal α) (Store α)) :
    Session α × Option (Refusal α) :=
  if ids.all (· < session.store.size) then
    match change with
    | .ok store      => ({ session with store }, none)
    | .error refusal => (session, some refusal)
  else (session, some .absent)

/-- Carries out an operation; the answer is also why it was refused, if it was. -/
def perform [Part α] (session : Session α) : Operation α → Session α × Option (Refusal α)
  | .newFile lines        => ({ session with store := (session.store.newFile lines).1 }, none)
  | .newBuilder id        =>
    if id < session.store.size then
      ({ session with builders := session.builders.push (session.store.builder id) }, none)
    else (session, some .absent)
  | .buildPackage builder => session.build builder Store.buildPackage
  | .buildClass builder modifier identifier =>
    session.build builder fun store b => store.buildClass b modifier identifier
  | .buildFunction builder modifiers identifier parameters returnType =>
    session.build builder fun store b =>
      store.buildFunction b modifiers identifier parameters returnType
  | .addChild id child    =>
    session.fill [id, child] ((session.store.addChild id child).mapError .attach)
  | .addImport id part    => session.fill [id] (.ok (session.store.addImport id part))
  | .addField id modifier identifier typeName =>
    session.fill [id] (((FieldEntry.ofHanded modifier identifier typeName).mapError .record).map
      (session.store.addField id))
  | .addInvocation id target identifier arguments =>
    session.fill [id] (((Invocation.ofHanded target identifier arguments).mapError .record).map
      (session.store.addInvocation id))

/-- What a history of operations leaves, each carried out or refused. -/
def after [Part α] (operations : List (Operation α)) : Session α :=
  operations.foldl (fun session operation => (session.perform operation).1) {}

/-- A session whose store is a forest and whose builders fit the parents they make contexts for. -/
structure Sound (session : Session α) : Prop where
  forest   : session.store.Forest
  builders : ∀ builder ∈ session.builders, builder.parent < session.store.size ∧
    builder.lines = (session.store.context builder.parent).lines

namespace Sound

variable {session : Session α}

/-- Builders fit a store in which no context has been lost or has other lines than before. -/
lemma of_lines (sound : session.Sound) {store : Store α} (forest : store.Forest)
    (hsize : session.store.size ≤ store.size)
    (hlines : ∀ id < session.store.size,
      (store.context id).lines = (session.store.context id).lines) :
    ({ session with store } : Session α).Sound := by
  refine ⟨forest, ?_⟩
  intro builder hmem
  obtain ⟨hparent, hbuilder⟩ := sound.builders builder hmem
  refine ⟨Nat.lt_of_lt_of_le hparent hsize, ?_⟩
  rw [hlines builder.parent hparent]
  exact hbuilder

lemma insert (sound : session.Sound) {context : Context α}
    (forest : (session.store.insert context).1.Forest) :
    ({ session with store := (session.store.insert context).1 } : Session α).Sound := by
  apply sound.of_lines forest
  · rw [Store.size_insert]
    exact Nat.le_succ _
  · intro id hid
    rw [Store.context_insert_of_lt context hid]

lemma update (sound : session.Sound) {id : Nat} {f : Context α → Context α}
    (hid : id < session.store.size) (forest : (session.store.update id f).Forest)
    (hlines : (f (session.store.context id)).lines = (session.store.context id).lines) :
    ({ session with store := session.store.update id f } : Session α).Sound := by
  apply sound.of_lines forest
  · rw [Store.size_update]
  · intro other _
    exact Store.field_update hid Context.lines hlines other

lemma newBuilder (sound : session.Sound) {id : Nat} (hid : id < session.store.size) :
    ({ session with builders := session.builders.push (session.store.builder id) } :
      Session α).Sound := by
  refine ⟨sound.forest, ?_⟩
  intro builder hmem
  rcases Array.mem_push.mp hmem with hold | rfl
  · exact sound.builders builder hold
  · exact ⟨hid, rfl⟩

/-- A builder, whenever it was asked for, makes a context that fits in. -/
lemma build (sound : session.Sound) (number : Nat)
    {make : Store α → Builder α → Store α × Nat} (shape : Shape α) (hshape : shape ≠ .file)
    (hmake : ∀ store b,
      make store b = store.insert { shape, parent := some b.parent, lines := b.lines }) :
    (session.build number make).1.Sound := by
  unfold Session.build
  split
  · exact sound
  · next builder hbuilder =>
    obtain ⟨hparent, hlines⟩ := sound.builders builder (Array.mem_of_getElem? hbuilder)
    simp only [hmake]
    exact sound.insert (sound.forest.build builder hparent hlines hshape)

/-- What is put into contexts fits in if it does so whenever it is not refused. -/
lemma fill (sound : session.Sound) {ids : List Nat} {change : Except (Refusal α) (Store α)}
    (h : (∀ id ∈ ids, id < session.store.size) → ∀ store, change = .ok store →
      ({ session with store } : Session α).Sound) :
    (session.fill ids change).1.Sound := by
  unfold Session.fill
  split
  · next hids =>
    have hids : ∀ id ∈ ids, id < session.store.size := by simpa using hids
    split
    · next store => exact h hids store rfl
    · exact sound
  · exact sound

variable [Part α]

/-- Every operation leaves a sound session, also one that is refused. -/
lemma perform (sound : session.Sound) (operation : Operation α) :
    (session.perform operation).1.Sound := by
  cases operation with
  | newFile lines => exact sound.insert (sound.forest.newFile lines)
  | newBuilder id =>
    simp only [Session.perform]
    split
    · next hid => exact sound.newBuilder hid
    · exact sound
  | buildPackage builder => exact sound.build builder .package nofun fun _ _ => rfl
  | buildClass builder modifier identifier =>
    exact sound.build builder (.classDef modifier identifier) nofun fun _ _ => rfl
  | buildFunction builder modifiers identifier parameters returnType =>
    exact sound.build builder (.functionDef modifiers identifier parameters returnType)
      nofun fun _ _ => rfl
  | addChild id child =>
    apply sound.fill
    intro hids store h
    obtain ⟨hparent, hnew, rfl⟩ := Store.addChild_eq_ok_iff.mp (mapError_eq_ok h)
    exact sound.update (hids id List.mem_cons_self) (sound.forest.attach hparent hnew) rfl
  | addImport id part =>
    apply sound.fill
    intro hids store h
    cases h
    have hid := hids id List.mem_cons_self
    exact sound.update hid (sound.forest.update hid rfl rfl rfl rfl) rfl
  | addField id modifier identifier typeName =>
    apply sound.fill
    intro hids store h
    obtain ⟨entry, -, rfl⟩ := map_eq_ok h
    have hid := hids id List.mem_cons_self
    exact sound.update hid (sound.forest.update hid rfl rfl rfl rfl) rfl
  | addInvocation id target identifier arguments =>
    apply sound.fill
    intro hids store h
    obtain ⟨call, -, rfl⟩ := map_eq_ok h
    have hid := hids id List.mem_cons_self
    exact sound.update hid (sound.forest.update hid rfl rfl rfl rfl) rfl

/-- Every history leaves a sound session. -/
lemma after (operations : List (Operation α)) : (Session.after operations).Sound := by
  have run : ∀ session : Session α, session.Sound →
      (operations.foldl (fun session operation => (session.perform operation).1)
        session).Sound := by
    induction operations with
    | nil => exact fun _ sound => sound
    | cons operation operations ih => exact fun _ sound => ih _ (sound.perform operation)
  exact run {} ⟨Store.forest_empty, by simp⟩

end Sound

/-! ### Refusals -/

lemma build_eq_of_refused {session : Session α} {number : Nat}
    {make : Store α → Builder α → Store α × Nat} (h : (session.build number make).2 ≠ none) :
    (session.build number make).1 = session := by
  unfold build at h ⊢
  split
  · rfl
  · next hbuilder => simp [hbuilder] at h

lemma fill_eq_of_refused {session : Session α} {ids : List Nat}
    {change : Except (Refusal α) (Store α)} (h : (session.fill ids change).2 ≠ none) :
    (session.fill ids change).1 = session := by
  unfold fill at h ⊢
  split
  · next hids =>
    rw [if_pos hids] at h
    cases change with
    | ok store => exact absurd rfl h
    | error refusal => rfl
  · rfl

lemma fill_refused_iff {session : Session α} {ids : List Nat}
    {change : Except (Refusal α) (Store α)} (hids : ∀ id ∈ ids, id < session.store.size) :
    (session.fill ids change).2 ≠ none ↔ ∃ refusal, change = .error refusal := by
  have hall : ids.all (· < session.store.size) = true := by simpa using hids
  unfold fill
  rw [if_pos hall]
  cases change with
  | ok store => simp
  | error refusal => simp

variable [Part α]

/-- An operation that is refused changes nothing. -/
lemma perform_eq_of_refused {session : Session α} {operation : Operation α}
    (h : (session.perform operation).2 ≠ none) : (session.perform operation).1 = session := by
  cases operation with
  | newFile lines => exact absurd rfl h
  | newBuilder id =>
    by_cases hid : id < session.store.size
    · simp [perform, hid] at h
    · simp [perform, hid]
  | buildPackage | buildClass | buildFunction => exact build_eq_of_refused h
  | addChild | addImport | addField | addInvocation => exact fill_eq_of_refused h

lemma addChild_refused_iff {session : Session α} {id child : Nat} (hid : id < session.store.size)
    (hchild : child < session.store.size) :
    (session.perform (.addChild id child)).2 ≠ none ↔
      (session.store.context child).parent ≠ some id ∨
        child ∈ (session.store.context id).children := by
  rw [← Store.addChild_eq_error_iff, perform, fill_refused_iff (by simp [hid, hchild])]
  cases session.store.addChild id child with
  | ok after => simp
  | error error => simp

lemma addField_refused_iff {session : Session α} {id : Nat} (hid : id < session.store.size)
    (modifier identifier typeName : Handed α) :
    (session.perform (.addField id modifier identifier typeName)).2 ≠ none ↔
      ¬ (modifier.IsString ∧ identifier.IsString ∧ typeName.IsString) := by
  rw [← FieldEntry.ofHanded_error_iff, perform, fill_refused_iff (by simp [hid])]
  cases FieldEntry.ofHanded modifier identifier typeName with
  | ok entry => simp [Except.map]
  | error rejections => simp [Except.map]

lemma addInvocation_refused_iff {session : Session α} {id : Nat} (hid : id < session.store.size)
    (target identifier arguments : Handed α) :
    (session.perform (.addInvocation id target identifier arguments)).2 ≠ none ↔
      ¬ (target.IsString ∧ identifier.IsString ∧ arguments.IsString) := by
  rw [← Invocation.ofHanded_error_iff, perform, fill_refused_iff (by simp [hid])]
  cases Invocation.ofHanded target identifier arguments with
  | ok call => simp [Except.map]
  | error rejections => simp [Except.map]

/-- After every history the contexts make up a forest: children are attached once, to the parent
they were made for; parents lead to a file, over contexts with the same lines; a walk ends and meets
no context twice. Among contexts that are there, what is refused is to attach one to another than
its parent or a second time, and to record what is no string. An operation that is refused changes
nothing. -/
theorem forest_after (operations : List (Operation α)) :
    let session := Session.after operations
    let store := session.store
    (∀ id < store.size, (store.context id).children.toList.Nodup ∧
      ∀ child ∈ (store.context id).children,
        child < store.size ∧ (store.context child).parent = some id ∧ child ≠ id ∧
          ∀ other, child ∈ (store.context other).children → other = id) ∧
    (∀ id < store.size, (store.context id).parent = none →
      (store.context id).shape = .file ∧ ∀ other, id ∉ (store.context other).children) ∧
    (∀ id < store.size,
      (id :: store.ancestors id).IsChain (fun a b => (store.context a).parent = some b) ∧
      (id :: store.ancestors id).Nodup ∧
      (∀ ancestor ∈ store.ancestors id, ancestor < store.size ∧
        (store.context ancestor).lines = (store.context id).lines) ∧
      ∃ root, (id :: store.ancestors id).getLast? = some root ∧
        (store.context root).parent = none ∧ (store.context root).shape = .file) ∧
    (∀ id < store.size,
      store.walkStep^[(store.walk id).length] ([id], []) = ([], store.walk id) ∧
      (store.walk id).Nodup) ∧
    (∀ id < store.size, ∀ child < store.size,
      (session.perform (.addChild id child)).2 ≠ none ↔
        (store.context child).parent ≠ some id ∨ child ∈ (store.context id).children) ∧
    (∀ id < store.size, ∀ a b c : Handed α,
      ((session.perform (.addField id a b c)).2 ≠ none ↔
        ¬ (a.IsString ∧ b.IsString ∧ c.IsString)) ∧
      ((session.perform (.addInvocation id a b c)).2 ≠ none ↔
        ¬ (a.IsString ∧ b.IsString ∧ c.IsString))) ∧
    ∀ operation, (session.perform operation).2 ≠ none →
      (session.perform operation).1 = session := by
  intro session store
  have forest : store.Forest := (Sound.after operations).forest
  refine ⟨?_, ?_, ?_, ?_, ?_, ?_, ?_⟩
  · intro id _
    refine ⟨forest.nodup id, ?_⟩
    intro child h
    obtain ⟨hlt, hparent⟩ := forest.child_of h
    refine ⟨hlt, hparent, Nat.ne_of_gt (forest.child_lt h), ?_⟩
    intro other hother
    exact Option.some.inj ((forest.child_of hother).2.symm.trans hparent)
  · intro id _ hnone
    refine ⟨forest.shape_file.mp hnone, ?_⟩
    intro other h
    rw [(forest.child_of h).2] at hnone
    cases hnone
  · intro id hid
    refine ⟨forest.isChain_ancestors id, forest.nodup_ancestors id, ?_, ?_⟩
    · intro ancestor h
      exact ⟨Nat.lt_trans (forest.lt_of_mem_ancestors h) hid, forest.lines_of_mem_ancestors h⟩
    · have hroot := forest.getLast_ancestors id
      exact ⟨_, List.getLast?_eq_getLast_of_ne_nil _, hroot, forest.shape_file.mp hroot⟩
  · intro id _
    exact ⟨forest.walkStep_iterate id [] [], forest.nodup_walk id⟩
  · intro id hid child hchild
    exact addChild_refused_iff hid hchild
  · intro id hid a b c
    exact ⟨addField_refused_iff hid a b c, addInvocation_refused_iff hid a b c⟩
  · intro operation h
    exact perform_eq_of_refused h

end Session

end Outline
