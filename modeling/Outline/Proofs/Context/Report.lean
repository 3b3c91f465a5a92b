import Mathlib.Data.List.Basic
import Outline.Proofs.Json.Printer
import Outline.Summary

/-!
# Structured reports

The structured report of a context tree is a text of the JSON grammar in ASCII. It is read back as
the value of the tree, and no two trees have the same one.
-/

namespace Outline

namespace ContextTree

/-- What holds of a tree when it holds of its children holds of all trees. -/
lemma induction_on_children {α : Type} {P : ContextTree α → Prop}
    (node : ∀ contents children, (∀ child ∈ children, P child) → P ⟨contents, children⟩)
    (tree : ContextTree α) : P tree := by
  match tree with
  | ⟨contents, children⟩ =>
    exact node contents children fun child _ => induction_on_children node child

lemma toJsonList_eq_map {α : Type} [Part α] (trees : List (ContextTree α)) :
    toJson.toJsonList trees = trees.map toJson := by
  induction trees with
  | nil => rfl
  | cons tree trees ih => rw [toJson.toJsonList, ih, List.map_cons]

end ContextTree

/-! ### Values of reports -/

section

open Json

lemma FieldEntry.textual_toJson (entry : FieldEntry String) : entry.toJson.Textual := by
  refine .obj ?_
  simp only [List.forall_mem_cons]
  exact ⟨.str _, .str _, .str _, by simp⟩

lemma Invocation.textual_toJson (call : Invocation String) : call.toJson.Textual := by
  refine .obj ?_
  simp only [List.forall_mem_cons]
  exact ⟨.str _, .str _, .str _, by simp⟩

lemma Shape.textual_ownMembers (shape : Shape String) :
    ∀ member ∈ shape.ownMembers, member.2.Textual := by
  cases shape with
  | file => simp [ownMembers]
  | package => simp [ownMembers]
  | classDef =>
    simp only [ownMembers, List.forall_mem_cons]
    exact ⟨.str _, .str _, by simp⟩
  | functionDef =>
    simp only [ownMembers, List.forall_mem_cons]
    exact ⟨.str _, .str _, .str _, .str _, by simp⟩

/-- An array made of values of one kind. -/
lemma textual_map {α : Type} (as : List α) {f : α → Json} (h : ∀ a ∈ as, (f a).Textual) :
    (Json.arr (as.map f)).Textual := by
  refine .arr fun item hitem => ?_
  obtain ⟨a, ha, rfl⟩ := List.mem_map.mp hitem
  exact h a ha

/-- The value of a tree is made of texts, arrays and objects. -/
lemma ContextTree.textual_toJson (tree : ContextTree String) : tree.toJson.Textual := by
  induction tree using induction_on_children with
  | node contents children ih =>
    rw [toJson, toJsonList_eq_map]
    refine .obj (List.forall_mem_append.mpr ⟨?_, contents.shape.textual_ownMembers⟩)
    simp only [List.forall_mem_cons]
    refine ⟨.str _, .str _, ?_, ?_, ?_, ?_, by simp⟩
    · exact textual_map _ fun part _ => .str part
    · exact textual_map _ fun entry _ => entry.textual_toJson
    · exact textual_map _ fun call _ => call.textual_toJson
    · exact textual_map _ ih

end

/-! ### Trees from values -/

lemma FieldEntry.toJson_injective :
    Function.Injective (toJson : FieldEntry String → Json) := by
  intro a b h
  cases a
  cases b
  simpa [toJson, Json.record] using h

lemma Invocation.toJson_injective :
    Function.Injective (toJson : Invocation String → Json) := by
  intro a b h
  cases a
  cases b
  simpa [toJson, Json.record] using h

/-- A shape is known by its word and by the members that only it has. -/
lemma Shape.eq_of_members {a b : Shape String} (hkind : a.kind = b.kind)
    (hmembers : a.ownMembers = b.ownMembers) : a = b := by
  cases a <;> cases b <;> simp_all [kind, ownMembers]

lemma Json.record_injective : Function.Injective Json.record := by
  intro members others h
  refine List.map_injective_iff.mpr ?_ (Json.obj.inj h)
  rintro ⟨name, value⟩ ⟨name', value'⟩ h
  simpa using h

lemma ContextTree.eq_of_map_toJson_eq {trees others : List (ContextTree String)}
    (each : ∀ tree ∈ trees, ∀ ⦃other⦄, tree.toJson = toJson other → tree = other)
    (h : trees.map toJson = others.map toJson) : trees = others := by
  induction trees generalizing others with
  | nil => exact (List.map_eq_nil_iff.mp h.symm).symm
  | cons tree trees ih =>
    cases others with
    | nil => cases h
    | cons other others =>
      rw [List.map_cons, List.map_cons, List.cons.injEq] at h
      rw [each tree List.mem_cons_self h.1,
        ih (fun t ht => each t (List.mem_cons_of_mem _ ht)) h.2]

/-- No two trees have one value. -/
lemma ContextTree.toJson_injective : Function.Injective (ContextTree.toJson (α := String)) := by
  intro tree
  induction tree using induction_on_children with
  | node contents children ih =>
    rintro ⟨contents', children'⟩ h
    rw [toJson, toJson, toJsonList_eq_map, toJsonList_eq_map] at h
    have hmembers := Json.record_injective h
    simp only [List.cons_append, List.nil_append, List.cons.injEq, Prod.mk.injEq, Json.str.injEq,
      Json.arr.injEq, true_and] at hmembers
    obtain ⟨hkind, -, himports, hfields, hinvocations, hchildren, hown⟩ := hmembers
    have hshape : contents.shape = contents'.shape := Shape.eq_of_members hkind hown
    have himports' : contents.imports = contents'.imports :=
      Array.toList_inj.mp (List.map_injective_iff.mpr (fun _ _ => Json.str.inj) himports)
    have hfields' : contents.fields = contents'.fields :=
      Array.toList_inj.mp (List.map_injective_iff.mpr FieldEntry.toJson_injective hfields)
    have hinvocations' : contents.invocations = contents'.invocations :=
      Array.toList_inj.mp (List.map_injective_iff.mpr Invocation.toJson_injective hinvocations)
    have hcontents : contents = contents' := by
      cases contents
      cases contents'
      simp_all
    rw [hcontents, eq_of_map_toJson_eq ih hchildren]

/-! ### How reports end -/

/-- Whether a text ends in a line feed. -/
def EndsLine (text : String) : Prop :=
  ∃ before, text = before ++ "\n"

lemma endsLine_reportLine (indent : Int) (text : String) : EndsLine (reportLine indent text) :=
  ⟨_, rfl⟩

lemma EndsLine.append {text : String} (h : EndsLine text) (before : String) :
    EndsLine (before ++ text) := by
  obtain ⟨start, rfl⟩ := h
  exact ⟨before ++ start, by rw [String.append_assoc]⟩

lemma EndsLine.append_join {text : String} (h : EndsLine text) {lines : List String}
    (hlines : ∀ line ∈ lines, EndsLine line) : EndsLine (text ++ String.join lines) := by
  induction lines generalizing text with
  | nil => simpa using h
  | cons line lines ih =>
    rw [String.join_cons, ← String.append_assoc]
    exact ih ((hlines line List.mem_cons_self).append text)
      fun other hother => hlines other (List.mem_cons_of_mem _ hother)

lemma Contents.endsLine_block (contents : Contents String) (indent : Int) :
    EndsLine (contents.block indent) := by
  rw [block, List.append_assoc, List.append_assoc, List.singleton_append, String.join_cons]
  apply (endsLine_reportLine indent _).append_join
  intro line hline
  simp only [List.mem_append, List.mem_map] at hline
  rcases hline with ⟨_, -, rfl⟩ | ⟨_, -, rfl⟩ | ⟨_, -, rfl⟩
  · exact endsLine_reportLine _ _
  · exact endsLine_reportLine _ _
  · exact endsLine_reportLine _ _

lemma ContextTree.formatList_eq_join {α : Type} [Part α] (indent : Int)
    (trees : List (ContextTree α)) :
    format.formatList indent trees = String.join (trees.map (format indent)) := by
  induction trees with
  | nil => rfl
  | cons tree trees ih => rw [format.formatList, ih, List.map_cons, String.join_cons]

/-- A text report ends in a line feed. -/
lemma ContextTree.endsLine_format (tree : ContextTree String) (indent : Int) :
    EndsLine (tree.format indent) := by
  induction tree using induction_on_children generalizing indent with
  | node contents children ih =>
    rw [format, formatList_eq_join]
    apply (contents.endsLine_block indent).append_join
    intro line hline
    obtain ⟨child, hchild, rfl⟩ := List.mem_map.mp hline
    exact ih child hchild (indent + 2)

/-- A structured report ends in a brace. -/
lemma ContextTree.suffix_report_json (tree : ContextTree String) :
    ['\x7d'] <:+ (tree.report .json).toList := by
  have htextual := tree.textual_toJson
  obtain ⟨contents, children⟩ := tree
  rw [report, toJson]
  rw [toJson] at htextual
  exact htextual.suffix_render

/-! ### Reports -/

/-- The structured report of a tree, where there is room to make it, is ASCII and valid JSON, it is
read as the value of the tree, and it is the report of no other tree. -/
theorem ContextTree.report_json_lossless (tree : ContextTree String) :
    (∀ c ∈ (tree.report .json).toList, c.toNat < 0x80) ∧
      Json.Spells (tree.report .json).toList tree.toJson [] ∧
      Json.parse (tree.report .json) = .ok tree.toJson ∧
      ∀ other : ContextTree String, tree.report .json = other.report .json → tree = other := by
  have hparse : ∀ tree : ContextTree String, Json.parse (tree.report .json) = .ok tree.toJson :=
    fun tree => tree.textual_toJson.spells_render.parse_eq
  refine ⟨?_, tree.textual_toJson.spells_render, hparse tree, ?_⟩
  · intro c hc
    rcases tree.textual_toJson.isWritten_render c hc with rfl | ⟨-, hlt⟩
    · decide
    · exact Nat.lt_trans hlt (by decide)
  · intro other hreport
    have hvalue : Except.ok (ε := ReadFault) tree.toJson = .ok other.toJson := by
      rw [← hparse tree, hreport, hparse other]
    exact toJson_injective (Except.ok.inj hvalue)

end Outline
