import Outline.Proofs.Traversal.Failure
import Outline.Summary

/-!
# Notices of a visit

A placeholder is used where a declaration or a call records the missing identifier for its name, or
where a field has no declarator, and each use is told once. The notices of a visit are therefore
those of the nodes whose handlers succeeded, in the order of the document.
-/

namespace Outline

/-! ### Names -/

/-- The last identifier among nodes. -/
def lastIdentifier? (nodes : List Node) : Option Node :=
  nodes.reverse.find? (·.kind = "identifier")

lemma lastIdentifier?_concat (nodes : List Node) (node : Node) :
    lastIdentifier? (nodes ++ [node]) =
      if node.kind = "identifier" then some node else lastIdentifier? nodes := by
  by_cases h : node.kind = "identifier"
  · simp [lastIdentifier?, h]
  · simp [lastIdentifier?, h]

/-- Whether a name is the text of a node or, where there is none, the placeholder. -/
def IsNamed (view : SourceView) (name : String) : Option Node → Prop
  | none       => name = missingIdentifier
  | some child => child.text view = .ok name

section

variable {view : SourceView}

/-- A scan that takes its name from each identifier and from nothing else ends with the name that
the last identifier has. -/
lemma isNamed_foldlM {σ : Type} {step : σ → Node → Except SpanError σ} (name : σ → String)
    (hname : ∀ {scan child next}, step scan child = .ok next → child.kind = "identifier" →
      child.text view = .ok (name next))
    (hother : ∀ {scan child next}, step scan child = .ok next → child.kind ≠ "identifier" →
      name next = name scan)
    {seen children : List Node} {scan result : σ}
    (hscan : IsNamed view (name scan) (lastIdentifier? seen))
    (h : children.foldlM step scan = .ok result) :
    IsNamed view (name result) (lastIdentifier? (seen ++ children)) := by
  induction children generalizing seen scan with
  | nil =>
    cases h
    simpa using hscan
  | cons child rest ih =>
    rw [List.foldlM_cons] at h
    obtain ⟨next, hstep, h⟩ := bind_eq_ok h
    rw [List.append_cons]
    refine ih ?_ h
    rw [lastIdentifier?_concat]
    by_cases hkind : child.kind = "identifier"
    · rw [if_pos hkind]
      exact hname hstep hkind
    · rw [if_neg hkind, hother hstep hkind]
      exact hscan

lemma ClassScan.isNamed {children : List Node} {result : ClassScan}
    (h : children.foldlM (ClassScan.step view) {} = .ok result) :
    IsNamed view result.identifier (lastIdentifier? children) := by
  have hstart : IsNamed view ({} : ClassScan).identifier (lastIdentifier? []) := rfl
  refine isNamed_foldlM ClassScan.identifier ?_ ?_ hstart h
  · intro scan child next hstep hkind
    simp only [step, hkind, String.reduceEq, if_false, if_true] at hstep
    obtain ⟨text, htext, hstep⟩ := bind_eq_ok hstep
    cases hstep
    exact htext
  · intro scan child next hstep hkind
    simp only [step, hkind, if_false] at hstep
    split_ifs at hstep
    · obtain ⟨text, -, hstep⟩ := bind_eq_ok hstep
      cases hstep
      rfl
    · cases hstep
      rfl

lemma MethodScan.isNamed {children : List Node} {result : MethodScan}
    (h : children.foldlM (MethodScan.step view) {} = .ok result) :
    IsNamed view result.identifier (lastIdentifier? children) := by
  have hstart : IsNamed view ({} : MethodScan).identifier (lastIdentifier? []) := rfl
  refine isNamed_foldlM MethodScan.identifier ?_ ?_ hstart h
  · intro scan child next hstep hkind
    simp only [step, hkind, String.reduceEq, if_false, if_true] at hstep
    obtain ⟨text, htext, hstep⟩ := bind_eq_ok hstep
    cases hstep
    exact htext
  · intro scan child next hstep hkind
    simp only [step, hkind, if_false] at hstep
    split_ifs at hstep
    · obtain ⟨text, -, hstep⟩ := bind_eq_ok hstep
      cases hstep
      rfl
    · obtain ⟨text, -, hstep⟩ := bind_eq_ok hstep
      cases hstep
      rfl
    · obtain ⟨text, -, hstep⟩ := bind_eq_ok hstep
      cases hstep
      rfl
    · cases hstep
      rfl

/-- The name of a call is that of the last identifier before its arguments. -/
lemma isNamed_scanCall {seen children : List Node} {scan result : CallScan}
    (hscan : IsNamed view scan.identifier (lastIdentifier? seen))
    (h : scanCall view scan children = .ok result) :
    IsNamed view result.identifier (lastIdentifier? (seen ++ upToArguments children)) := by
  have hother : ∀ {seen : List Node} {scan : CallScan} {child : Node},
      IsNamed view scan.identifier (lastIdentifier? seen) → child.kind ≠ "identifier" →
      IsNamed view scan.identifier (lastIdentifier? (seen ++ [child])) := by
    intro seen scan child hscan hkind
    rw [lastIdentifier?_concat, if_neg hkind]
    exact hscan
  refine scanCall_keeps (motive := fun seen scan =>
    IsNamed view scan.identifier (lastIdentifier? seen)) ?_ ?_ ?_ ?_ hscan h
  · intro seen scan child hscan hkind
    exact hother hscan (by simp [hkind])
  · intro seen scan child name _ hkind htext
    rw [lastIdentifier?_concat, if_pos hkind]
    exact htext
  · intro seen scan child text hscan hkind _
    exact hother hscan (by simp [hkind])
  · intro seen scan child hscan _ hkind _
    exact hother hscan hkind

end

/-- The child that gives a declaration or a call its name: the last identifier and, of a call, the
last before its arguments. -/
def Node.nameChild? (node : Node) : Option Node :=
  match node.role? with
  | some .methodInvocation => lastIdentifier? (upToArguments node.children)
  | _                      => lastIdentifier? node.children

/-- The name that a fact records for what it opens or calls. -/
def Fact.name? : Fact → Option String
  | .classOpened _ identifier        => some identifier
  | .functionOpened _ identifier _ _ => some identifier
  | .invocation call                 => some call.identifier
  | .imported _ | .field _           => none

/-! ### Placeholders -/

/-- Whether a node has a declarator among its children. -/
def Node.hasDeclarator (node : Node) : Bool :=
  node.children.any (·.kind = "variable_declarator")

namespace Node

/-- The name that is recorded for a node, if it is interpreted and can be read. -/
def recordedName? (view : SourceView) (node : Node) : Option String :=
  match node.finding? view with
  | some (.ok finding) => finding.fact.name?
  | _                  => none

/-- The part for which a placeholder stands in what is recorded for a node. -/
def missing? (view : SourceView) (node : Node) : Option MissingPart :=
  match node.role? with
  | some .classDeclaration | some .methodDeclaration | some .methodInvocation =>
    if node.recordedName? view = some missingIdentifier then some .identifier else none
  | some .fieldDeclaration => if node.hasDeclarator then none else some .variableDeclarator
  | _ => none

/-- The notice about a part that is missing at a node: the kind of the node, the part and the line
that the node begins on. -/
def noticeOf (view : SourceView) (node : Node) : Option MissingPart → Option Notice
  | none         => none
  | some missing =>
    match view.place node.start with
    | .ok start => some ⟨node.kind, missing, start.row + 1⟩
    | .error _  => none

/-- The notice that is due at a node. -/
def placeholder? (view : SourceView) (node : Node) : Option Notice :=
  node.noticeOf view (node.missing? view)

end Node

section

variable {view : SourceView} {node : Node}

lemma FieldScan.isEmpty_foldlM {children : List Node} {scan result : FieldScan}
    (h : children.foldlM (FieldScan.step view) scan = .ok result) :
    result.identifiers.isEmpty =
      (scan.identifiers.isEmpty && !children.any (·.kind = "variable_declarator")) := by
  induction children generalizing scan with
  | nil =>
    cases h
    simp
  | cons child rest ih =>
    rw [List.foldlM_cons] at h
    obtain ⟨next, hstep, h⟩ := bind_eq_ok h
    rw [ih h, List.any_cons]
    unfold step at hstep
    by_cases hkind : child.kind = "variable_declarator"
    · simp only [hkind, typeKinds, String.reduceEq, if_false, if_true] at hstep
      obtain ⟨name, -, hstep⟩ := bind_eq_ok hstep
      cases hstep
      simp [hkind]
    · simp only [hkind, if_false] at hstep
      have hkept : next.identifiers = scan.identifiers := by
        split_ifs at hstep
        · obtain ⟨text, -, hstep⟩ := bind_eq_ok hstep
          cases hstep
          rfl
        · obtain ⟨text, -, hstep⟩ := bind_eq_ok hstep
          cases hstep
          rfl
        · cases hstep
          rfl
      simp [hkept, hkind]

/-- A notice that was made is the one about the part, if it was due. -/
lemma notice?_eq_ok {due : Bool} {missing : MissingPart} {notice : Option Notice}
    (h : node.notice? view due missing = .ok notice) :
    notice = node.noticeOf view (if due then some missing else none) := by
  cases due with
  | false =>
    cases h
    rfl
  | true =>
    obtain ⟨start, hstart, h⟩ := bind_eq_ok h
    cases h
    simp [Node.noticeOf, hstart]

/-- What is found at a node comes with the notice that is due there. -/
lemma notice_of_finding {finding : Finding} (h : node.finding? view = some (.ok finding)) :
    finding.notice = node.placeholder? view := by
  obtain ⟨role, hrole, hfinding⟩ := Option.map_eq_some_iff.mp h
  unfold Node.placeholder? Node.missing? Node.recordedName?
  rw [h, hrole]
  cases role with
  | importDeclaration =>
    obtain ⟨text, -, hfinding⟩ := bind_eq_ok hfinding
    cases hfinding
    rfl
  | classDeclaration =>
    obtain ⟨scan, -, hfinding⟩ := bind_eq_ok hfinding
    obtain ⟨notice, hnotice, hfinding⟩ := bind_eq_ok hfinding
    cases hfinding
    simpa [Fact.name?] using notice?_eq_ok hnotice
  | fieldDeclaration =>
    obtain ⟨scan, hscan, hfinding⟩ := bind_eq_ok hfinding
    obtain ⟨notice, hnotice, hfinding⟩ := bind_eq_ok hfinding
    cases hfinding
    have hempty : scan.identifiers.isEmpty = !node.hasDeclarator := FieldScan.isEmpty_foldlM hscan
    rw [notice?_eq_ok hnotice, hempty]
    cases node.hasDeclarator <;> rfl
  | methodInvocation =>
    obtain ⟨scan, -, hfinding⟩ := bind_eq_ok hfinding
    obtain ⟨target, -, hfinding⟩ := bind_eq_ok hfinding
    obtain ⟨notice, hnotice, hfinding⟩ := bind_eq_ok hfinding
    cases hfinding
    simpa [Fact.name?] using notice?_eq_ok hnotice
  | methodDeclaration =>
    obtain ⟨scan, -, hfinding⟩ := bind_eq_ok hfinding
    obtain ⟨notice, hnotice, hfinding⟩ := bind_eq_ok hfinding
    cases hfinding
    simpa [Fact.name?] using notice?_eq_ok hnotice

lemma placeholder?_of_finding?_none (h : node.finding? view = none) :
    node.placeholder? view = none := by
  have hrole : node.role? = none := Option.map_eq_none_iff.mp h
  simp [Node.placeholder?, Node.missing?, hrole, Node.noticeOf]

/-! ### Complete nodes -/

/-- A recorded name is the text of the child that gives it, or the placeholder. -/
lemma isNamed_of_recordedName? {name : String} (h : node.recordedName? view = some name) :
    IsNamed view name node.nameChild? := by
  unfold Node.recordedName? at h
  split at h
  · next finding hfound =>
    obtain ⟨role, hrole, hfinding⟩ := Option.map_eq_some_iff.mp hfound
    unfold Node.nameChild?
    rw [hrole]
    cases role with
    | importDeclaration =>
      obtain ⟨text, -, hfinding⟩ := bind_eq_ok hfinding
      cases hfinding
      cases h
    | classDeclaration =>
      obtain ⟨scan, hscan, hfinding⟩ := bind_eq_ok hfinding
      obtain ⟨notice, -, hfinding⟩ := bind_eq_ok hfinding
      cases hfinding
      cases h
      exact ClassScan.isNamed hscan
    | fieldDeclaration =>
      obtain ⟨scan, -, hfinding⟩ := bind_eq_ok hfinding
      obtain ⟨notice, -, hfinding⟩ := bind_eq_ok hfinding
      cases hfinding
      cases h
    | methodInvocation =>
      obtain ⟨scan, hscan, hfinding⟩ := bind_eq_ok hfinding
      obtain ⟨target, -, hfinding⟩ := bind_eq_ok hfinding
      obtain ⟨notice, -, hfinding⟩ := bind_eq_ok hfinding
      cases hfinding
      cases h
      have hstart : IsNamed view ({} : CallScan).identifier (lastIdentifier? []) := rfl
      exact isNamed_scanCall hstart hscan
    | methodDeclaration =>
      obtain ⟨scan, hscan, hfinding⟩ := bind_eq_ok hfinding
      obtain ⟨notice, -, hfinding⟩ := bind_eq_ok hfinding
      cases hfinding
      cases h
      exact MethodScan.isNamed hscan
  · cases h

/-- Whether no part is missing at a node: a declaration or a call has a child that gives its name
and that does not read like the placeholder, and a field has a declarator. -/
def Node.Complete (view : SourceView) (node : Node) : Prop :=
  match node.role? with
  | some .classDeclaration | some .methodDeclaration | some .methodInvocation =>
    ∃ child, node.nameChild? = some child ∧ child.text view ≠ .ok missingIdentifier
  | some .fieldDeclaration => node.hasDeclarator
  | _ => True

lemma Node.Complete.placeholder?_eq_none (h : node.Complete view) :
    node.placeholder? view = none := by
  suffices hmissing : node.missing? view = none by
    rw [placeholder?, hmissing]
    rfl
  have hnamed : (∃ child, node.nameChild? = some child ∧ child.text view ≠ .ok missingIdentifier) →
      node.recordedName? view ≠ some missingIdentifier := by
    rintro ⟨child, hchild, htext⟩ hname
    have := isNamed_of_recordedName? hname
    rw [hchild] at this
    exact htext this
  unfold Complete at h
  unfold missing?
  cases hrole : node.role? with
  | none => rfl
  | some role =>
    rw [hrole] at h
    cases role with
    | importDeclaration => rfl
    | classDeclaration | methodInvocation | methodDeclaration => exact if_neg (hnamed h)
    | fieldDeclaration => exact if_pos h

end

/-! ### Runs of handlers -/

/-- Handlers leave the notices that are due at the nodes before the first that fails, in order, and
what fails there is the reading of its node. -/
lemma Progress.exists_handled (view : SourceView) (progress : Progress)
    (contexts : Address → Nat) (places : List (Address × Node)) (closed : progress.store.Closed)
    (hcontexts : ∀ a, contexts a < progress.store.size) :
    ∃ handled rest, places = handled ++ rest ∧
      (∀ p ∈ handled, ∀ error, p.2.finding? view ≠ some (.error error)) ∧
      (progress.handle view contexts places).progress.notices.toList =
        progress.notices.toList ++ handled.filterMap (·.2.placeholder? view) ∧
      ((progress.handle view contexts places).failure = none ∧ rest = [] ∨
        ∃ address node after error, rest = (address, node) :: after ∧
          node.finding? view = some (.error error) ∧
          (progress.handle view contexts places).failure = some (.span error)) := by
  induction places generalizing progress contexts with
  | nil => exact ⟨[], [], rfl, by simp, by simp [handle], .inl ⟨rfl, rfl⟩⟩
  | cons first places ih =>
    obtain ⟨address, node⟩ := first
    by_cases hfails : ∃ error, node.finding? view = some (.error error)
    · obtain ⟨error, hfound⟩ := hfails
      have hhandle : progress.handle view contexts ((address, node) :: places) =
          ⟨progress, some (.span error)⟩ := by
        rw [handle, interpret_of_error hfound]
      refine ⟨[], _, rfl, by simp, by simp [hhandle], .inr ?_⟩
      exact ⟨address, node, places, error, rfl, hfound, by rw [hhandle]⟩
    · obtain ⟨found, hfound⟩ : ∃ found : Option Finding, node.finding? view = found.map .ok := by
        rcases houtcome : node.finding? view with _ | (error | finding)
        · exact ⟨none, rfl⟩
        · exact absurd ⟨error, houtcome⟩ hfails
        · exact ⟨some finding, rfl⟩
      obtain ⟨middle, next, hinterpret, closed', hsize, hnext, hnotices⟩ :=
        exists_interpret_of_found closed (hcontexts address.dropLast) hfound
      have hhandle : progress.handle view contexts ((address, node) :: places) =
          middle.handle view (Function.update contexts address next) places := by
        rw [handle, hinterpret]
      have hcontexts' : ∀ a, Function.update contexts address next a < middle.store.size := by
        intro a
        rw [Function.update_apply]
        split
        · exact hnext
        · exact Nat.lt_of_lt_of_le (hcontexts a) hsize
      obtain ⟨handled, rest, hplaces, hread, hlog, hends⟩ := ih middle _ closed' hcontexts'
      refine ⟨(address, node) :: handled, rest, by rw [hplaces]; rfl, ?_, ?_, ?_⟩
      · intro p hp
        rcases List.mem_cons.mp hp with rfl | hp
        · exact fun error herror => hfails ⟨error, herror⟩
        · exact hread p hp
      · have hdue : (found.bind Finding.notice).toList = (node.placeholder? view).toList := by
          cases found with
          | none => rw [placeholder?_of_finding?_none hfound]; rfl
          | some finding => rw [← notice_of_finding hfound]; rfl
        rw [hhandle, hlog, hnotices]
        cases hnotice : node.placeholder? view <;> simp_all
      · rw [hhandle]
        exact hends

/-- The log of a visit has, in the order of the document, one record for each visited declaration or
call for which the missing identifier is recorded and one for each visited field without a
declarator, as far as the visit gets, and no others. Each tells the kind of its node and the line
that it begins on. Where no part is missing there is no record. -/
theorem visit_logs_placeholders (view : SourceView) (store : Store String) (root : Node)
    (target : Nat) (closed : store.Closed) (htarget : target < store.size) :
    ∃ visited handled rest : List (Address × Node),
      visited.Pairwise (fun a b => a.1 < b.1) ∧
      (∀ address node, (address, node) ∈ visited ↔ root.Visits address node) ∧
      visited = handled ++ rest ∧
      (∀ p ∈ handled, ∀ error, p.2.finding? view ≠ some (.error error)) ∧
      ((store.visit view root target).failure = none ∧ rest = [] ∨
        ∃ address node after error, rest = (address, node) :: after ∧
          node.finding? view = some (.error error) ∧
          (store.visit view root target).failure = some (.span error)) ∧
      (store.visit view root target).log =
        handled.filterMap (fun p => (p.2.placeholder? view).map .placeholder) ∧
      ((∀ address node, root.Visits address node → node.Complete view) →
        (store.visit view root target).log = []) := by
  obtain ⟨handled, rest, hvisited, hread, hnotices, hends⟩ :=
    Progress.exists_handled view { store } (fun _ => target) root.visited closed fun _ => htarget
  rw [← store.visit_eq_handle] at hnotices hends
  have hlog : (store.visit view root target).log =
      handled.filterMap (fun p => (p.2.placeholder? view).map .placeholder) := by
    rw [Visited.log, hnotices, List.map_append, List.map_filterMap]
    rfl
  refine ⟨root.visited, handled, rest, root.pairwise_visited, fun _ _ => Node.mem_visited_iff,
    hvisited, hread, hends, hlog, ?_⟩
  intro hcomplete
  rw [hlog, List.filterMap_eq_nil_iff]
  intro p hp
  have hvisits : root.Visits p.1 p.2 :=
    Node.mem_visited_iff.mp (hvisited ▸ List.mem_append_left _ hp)
  rw [(hcomplete _ _ hvisits).placeholder?_eq_none]
  rfl

/-- A class without a name that holds a field without a declarator and a call of `none`. -/
def unnamedLines : Lines :=
  #["class { x; none(); }"]

/-- A tree of those lines in which an import past the end of the line comes last. -/
def unnamedTree : Node :=
  ⟨"class_declaration", ⟨0, 0⟩, ⟨0, 20⟩, [
    ⟨"class_body", ⟨0, 6⟩, ⟨0, 20⟩, [
      ⟨"field_declaration", ⟨0, 8⟩, ⟨0, 10⟩, [⟨"type_identifier", ⟨0, 8⟩, ⟨0, 9⟩, []⟩]⟩,
      ⟨"method_invocation", ⟨0, 11⟩, ⟨0, 17⟩, [
        ⟨"identifier", ⟨0, 11⟩, ⟨0, 15⟩, []⟩, ⟨"argument_list", ⟨0, 15⟩, ⟨0, 17⟩, []⟩]⟩,
      ⟨"import_declaration", ⟨0, 30⟩, ⟨0, 31⟩, []⟩]⟩]⟩

/-- The visit of that tree into a new file fails at the import and tells of three placeholders,
which are due at the nodes before it. -/
theorem visit_logs_placeholders_unnamed :
    let store := (({} : Store String).newFile unnamedLines).1
    let view : SourceView := .ofLines unnamedLines
    store.Closed ∧ 0 < store.size ∧
      (store.visit view unnamedTree 0).log =
        [.placeholder ⟨"class_declaration", .identifier, 1⟩,
          .placeholder ⟨"field_declaration", .variableDeclarator, 1⟩,
          .placeholder ⟨"method_invocation", .identifier, 1⟩] ∧
      ∃ handled rest : List (Address × Node),
        (∀ address node, (address, node) ∈ handled ++ rest ↔ unnamedTree.Visits address node) ∧
        rest ≠ [] ∧
        (store.visit view unnamedTree 0).log =
          handled.filterMap (fun p => (p.2.placeholder? view).map .placeholder) := by
  intro store view
  have closed : store.Closed := (Store.forest_empty.newFile unnamedLines).closed
  have hsize : 0 < store.size := by decide
  have hfailure : (store.visit view unnamedTree 0).failure ≠ none := by decide +kernel
  obtain ⟨visited, handled, rest, -, hmem, hvisited, -, hends, hlog, -⟩ :=
    visit_logs_placeholders view store unnamedTree 0 closed hsize
  refine ⟨closed, hsize, by decide +kernel, handled, rest, hvisited ▸ hmem, ?_, hlog⟩
  rcases hends with ⟨hnone, -⟩ | ⟨address, node, after, error, hrest, -⟩
  · exact absurd hnone hfailure
  · simp [hrest]

end Outline
