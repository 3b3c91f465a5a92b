import Outline.Proofs.Traversal.Records

/-!
# Parts of a declaration

A declaration is scanned for groups of children, and what it records hangs on each group alone: on
the last text of a group, on the first of its texts that is not empty, or on all of its names. The
scans go over all children at once, so their order decides which child is read first. It decides
neither whether the scan succeeds nor what it ends with, as long as each group keeps its own order.
-/

namespace Outline

/-! ### Groups of children -/

/-- The groups of children that declarations are scanned for. -/
inductive ScanGroup where
  | modifiers
  | identifier
  | classBody
  | parameters
  | declarator
  | type
  deriving DecidableEq

/-- The group that a node belongs to, if declarations are scanned for its kind. All types are one
group. -/
def Node.scanGroup? (node : Node) : Option ScanGroup :=
  if node.kind = "modifiers" then some .modifiers
  else if node.kind = "identifier" then some .identifier
  else if node.kind = "class_body" then some .classBody
  else if node.kind = "formal_parameters" then some .parameters
  else if node.kind = "variable_declarator" then some .declarator
  else if node.kind ∈ typeKinds then some .type
  else none

/-- The nodes of a group among others, in their order. -/
def ScanGroup.among (group : ScanGroup) (nodes : List Node) : List Node :=
  nodes.filter (·.scanGroup? = some group)

@[simp] lemma ScanGroup.among_nil (group : ScanGroup) : group.among [] = [] := rfl

lemma ScanGroup.among_cons (group : ScanGroup) (node : Node) (nodes : List Node) :
    group.among (node :: nodes) =
      if node.scanGroup? = some group then node :: group.among nodes else group.among nodes := by
  simp only [among, List.filter_cons, decide_eq_true_eq]

/-! ### Texts of a group -/

/-- The last of the texts of nodes, which are all read, or a text that stands for none. -/
def lastText (view : SourceView) (fallback : String) (nodes : List Node) :
    Except SpanError String := do
  return (← nodes.mapM (·.text view)).getLastD fallback

/-- The first of the texts of nodes that is not empty, read up to it, or else the empty text. -/
def firstText (view : SourceView) : List Node → Except SpanError String
  | []            => .ok ""
  | node :: nodes => do
    let text ← node.text view
    if text = "" then firstText view nodes else .ok text

section

variable {view : SourceView}

@[simp] lemma lastText_nil (fallback : String) : lastText view fallback [] = pure fallback := rfl

lemma lastText_cons (fallback : String) (node : Node) (nodes : List Node) :
    lastText view fallback (node :: nodes) = node.text view >>= (lastText view · nodes) := by
  simp only [lastText, List.mapM_cons, bind_assoc, pure_bind, List.getLastD_cons]

/-! ### Scans by groups -/

lemma ClassScan.step_eq (scan : ClassScan) (child : Node) :
    step view scan child =
      match child.scanGroup? with
      | some .modifiers  => do return { scan with modifier := ← child.text view }
      | some .identifier => do return { scan with identifier := ← child.text view }
      | _                => pure scan := by
  unfold step Node.scanGroup?
  split_ifs <;> rfl

lemma FieldScan.step_eq (scan : FieldScan) (child : Node) :
    step view scan child =
      match child.scanGroup? with
      | some .modifiers  => do return { scan with modifier := ← child.text view }
      | some .type       => do return { scan with typeName := ← child.text view }
      | some .declarator => do
        return { scan with identifiers := scan.identifiers ++ [← declaratorName view child] }
      | _                => pure scan := by
  unfold step Node.scanGroup?
  split_ifs <;> simp_all [typeKinds]

lemma MethodScan.step_eq (scan : MethodScan) (child : Node) :
    step view scan child =
      match child.scanGroup? with
      | some .modifiers  => do return { scan with modifiers := ← child.text view }
      | some .identifier => do return { scan with identifier := ← child.text view }
      | some .parameters => do return { scan with parameters := ← child.text view }
      | some .type       =>
        if scan.returnType = "" then do return { scan with returnType := ← child.text view }
        else pure scan
      | _                => pure scan := by
  unfold step Node.scanGroup?
  split_ifs <;> simp_all [typeKinds]

/-- The scan of a class succeeds where both of its groups can be read, and ends with their last
texts. -/
lemma ClassScan.foldlM_eq_ok_iff {children : List Node} {scan result : ClassScan} :
    children.foldlM (step view) scan = .ok result ↔
      lastText view scan.modifier (ScanGroup.modifiers.among children) = .ok result.modifier ∧
      lastText view scan.identifier (ScanGroup.identifier.among children) =
        .ok result.identifier := by
  induction children generalizing scan with
  | nil =>
    cases scan
    cases result
    simp [pure, Except.pure]
  | cons child rest ih =>
    rw [List.foldlM_cons, step_eq]
    simp only [ScanGroup.among_cons]
    cases hgroup : child.scanGroup? with
    | none => simp [ih]
    | some group =>
      cases group with
      | modifiers | identifier =>
        cases htext : child.text view with
        | error error => simp [lastText_cons, htext]
        | ok text => simp [lastText_cons, htext, ih]
      | classBody | parameters | declarator | type => simp [ih]

/-- The scan of a field adds the names of all declarators to those it started with. -/
lemma FieldScan.foldlM_eq_ok_iff {children : List Node} {scan result : FieldScan} :
    children.foldlM (step view) scan = .ok result ↔
      lastText view scan.modifier (ScanGroup.modifiers.among children) = .ok result.modifier ∧
      lastText view scan.typeName (ScanGroup.type.among children) = .ok result.typeName ∧
      (scan.identifiers ++ ·) <$>
          (ScanGroup.declarator.among children).mapM (declaratorName view) =
        .ok result.identifiers := by
  induction children generalizing scan with
  | nil =>
    cases scan
    cases result
    simp [pure, Except.pure]
  | cons child rest ih =>
    rw [List.foldlM_cons, step_eq]
    simp only [ScanGroup.among_cons]
    cases hgroup : child.scanGroup? with
    | none => simp [ih]
    | some group =>
      cases group with
      | modifiers | type =>
        cases htext : child.text view with
        | error error => simp [lastText_cons, htext]
        | ok text => simp [lastText_cons, htext, ih]
      | declarator =>
        cases hname : declaratorName view child with
        | error error => simp [hname]
        | ok name => simp [hname, ih]
      | identifier | classBody | parameters => simp [ih]

/-- The scan of a method reads no type when it starts with one. -/
lemma MethodScan.foldlM_eq_ok_iff {children : List Node} {scan result : MethodScan} :
    children.foldlM (step view) scan = .ok result ↔
      lastText view scan.modifiers (ScanGroup.modifiers.among children) = .ok result.modifiers ∧
      lastText view scan.identifier (ScanGroup.identifier.among children) =
        .ok result.identifier ∧
      lastText view scan.parameters (ScanGroup.parameters.among children) =
        .ok result.parameters ∧
      (if scan.returnType = "" then firstText view (ScanGroup.type.among children)
        else .ok scan.returnType) = .ok result.returnType := by
  induction children generalizing scan with
  | nil =>
    have hfound : (if scan.returnType = "" then firstText view [] else .ok scan.returnType) =
        .ok scan.returnType := by
      split
      · next hempty => rw [hempty, firstText]
      · rfl
    cases scan
    cases result
    simp [pure, Except.pure, hfound]
  | cons child rest ih =>
    rw [List.foldlM_cons, step_eq]
    simp only [ScanGroup.among_cons]
    cases hgroup : child.scanGroup? with
    | none => simp [ih]
    | some group =>
      cases group with
      | modifiers | identifier | parameters =>
        cases htext : child.text view with
        | error error => simp [lastText_cons, htext]
        | ok text => simp [lastText_cons, htext, ih]
      | type =>
        -- types are read until one is found
        by_cases hfound : scan.returnType = ""
        · cases htext : child.text view with
          | error error => simp [firstText, htext, hfound]
          | ok text => simp [firstText, htext, ih, hfound]
        · simp [ih, hfound]
      | declarator | classBody => simp [ih]

/-! ### Findings by groups -/

lemma classFinding_eq_ok_iff {node : Node} {finding : Finding} :
    classFinding view node = .ok finding ↔
      ∃ modifier identifier notice,
        lastText view "default" (ScanGroup.modifiers.among node.children) = .ok modifier ∧
        lastText view "none" (ScanGroup.identifier.among node.children) = .ok identifier ∧
        node.notice? view (identifier = missingIdentifier) .identifier = .ok notice ∧
        finding = ⟨.classOpened modifier identifier, notice⟩ := by
  constructor
  · intro h
    obtain ⟨scan, hscan, h⟩ := bind_eq_ok h
    obtain ⟨notice, hnotice, h⟩ := bind_eq_ok h
    obtain ⟨hmodifier, hidentifier⟩ := ClassScan.foldlM_eq_ok_iff.mp hscan
    cases h
    exact ⟨scan.modifier, scan.identifier, notice, hmodifier, hidentifier, hnotice, rfl⟩
  · rintro ⟨modifier, identifier, notice, hmodifier, hidentifier, hnotice, rfl⟩
    have hscan : node.children.foldlM (ClassScan.step view) {} = .ok ⟨modifier, identifier⟩ :=
      ClassScan.foldlM_eq_ok_iff.mpr ⟨hmodifier, hidentifier⟩
    simp only [classFinding, hscan, ok_bind, hnotice]
    rfl

lemma fieldFinding_eq_ok_iff {node : Node} {finding : Finding} :
    fieldFinding view node = .ok finding ↔
      ∃ modifier typeName names notice,
        lastText view "default" (ScanGroup.modifiers.among node.children) = .ok modifier ∧
        lastText view "" (ScanGroup.type.among node.children) = .ok typeName ∧
        (ScanGroup.declarator.among node.children).mapM (declaratorName view) = .ok names ∧
        node.notice? view names.isEmpty .variableDeclarator = .ok notice ∧
        finding = ⟨.field ⟨modifier, joinNames names, typeName⟩, notice⟩ := by
  have hstart : (fun names => ([] : List String) ++ names) = id := rfl
  constructor
  · intro h
    obtain ⟨scan, hscan, h⟩ := bind_eq_ok h
    obtain ⟨notice, hnotice, h⟩ := bind_eq_ok h
    obtain ⟨hmodifier, htype, hnames⟩ := FieldScan.foldlM_eq_ok_iff.mp hscan
    rw [hstart, id_map] at hnames
    cases h
    exact ⟨scan.modifier, scan.typeName, scan.identifiers, notice, hmodifier, htype, hnames,
      hnotice, rfl⟩
  · rintro ⟨modifier, typeName, names, notice, hmodifier, htype, hnames, hnotice, rfl⟩
    have hscan : node.children.foldlM (FieldScan.step view) {} =
        .ok ⟨modifier, typeName, names⟩ := by
      refine FieldScan.foldlM_eq_ok_iff.mpr ⟨hmodifier, htype, ?_⟩
      rw [hstart, id_map]
      exact hnames
    simp only [fieldFinding, hscan, ok_bind, hnotice]
    rfl

lemma methodFinding_eq_ok_iff {node : Node} {finding : Finding} :
    methodFinding view node = .ok finding ↔
      ∃ modifiers identifier parameters returnType notice,
        lastText view "default" (ScanGroup.modifiers.among node.children) = .ok modifiers ∧
        lastText view "none" (ScanGroup.identifier.among node.children) = .ok identifier ∧
        lastText view "" (ScanGroup.parameters.among node.children) = .ok parameters ∧
        firstText view (ScanGroup.type.among node.children) = .ok returnType ∧
        node.notice? view (identifier = missingIdentifier) .identifier = .ok notice ∧
        finding = ⟨.functionOpened modifiers identifier parameters returnType, notice⟩ := by
  constructor
  · intro h
    obtain ⟨scan, hscan, h⟩ := bind_eq_ok h
    obtain ⟨notice, hnotice, h⟩ := bind_eq_ok h
    obtain ⟨hmodifiers, hidentifier, hparameters, htype⟩ := MethodScan.foldlM_eq_ok_iff.mp hscan
    cases h
    exact ⟨scan.modifiers, scan.identifier, scan.parameters, scan.returnType, notice, hmodifiers,
      hidentifier, hparameters, htype, hnotice, rfl⟩
  · rintro ⟨modifiers, identifier, parameters, returnType, notice, hmodifiers, hidentifier,
      hparameters, htype, hnotice, rfl⟩
    have hscan : node.children.foldlM (MethodScan.step view) {} =
        .ok ⟨modifiers, identifier, parameters, returnType⟩ :=
      MethodScan.foldlM_eq_ok_iff.mpr ⟨hmodifiers, hidentifier, hparameters, htype⟩
    simp only [methodFinding, hscan, ok_bind, hnotice]
    rfl

end

/-! ### What a declaration records -/

/-- What a declaration says, told by its groups of children: the last modifiers, name and parameters
each with what stands for none, of a method the first type that is not empty, of a field the last
type and all names. -/
inductive Node.Declares (view : SourceView) (node : Node) : Fact → Prop
  | classOpened {modifier identifier : String}
      (kind : node.kind = "class_declaration")
      (modifier_eq : lastText view "default" (ScanGroup.modifiers.among node.children) =
        .ok modifier)
      (identifier_eq : lastText view "none" (ScanGroup.identifier.among node.children) =
        .ok identifier) :
      Declares view node (.classOpened modifier identifier)
  | functionOpened {modifiers identifier parameters returnType : String}
      (kind : node.kind = "method_declaration")
      (modifiers_eq : lastText view "default" (ScanGroup.modifiers.among node.children) =
        .ok modifiers)
      (identifier_eq : lastText view "none" (ScanGroup.identifier.among node.children) =
        .ok identifier)
      (parameters_eq : lastText view "" (ScanGroup.parameters.among node.children) =
        .ok parameters)
      (returnType_eq : firstText view (ScanGroup.type.among node.children) = .ok returnType) :
      Declares view node (.functionOpened modifiers identifier parameters returnType)
  | field {modifier typeName : String} {names : List String}
      (kind : node.kind = "field_declaration")
      (modifier_eq : lastText view "default" (ScanGroup.modifiers.among node.children) =
        .ok modifier)
      (typeName_eq : lastText view "" (ScanGroup.type.among node.children) = .ok typeName)
      (names_eq : (ScanGroup.declarator.among node.children).mapM (declaratorName view) =
        .ok names) :
      Declares view node (.field ⟨modifier,
        if String.intercalate ", " names = "" then "none" else String.intercalate ", " names,
        typeName⟩)

/-- The roles of declarations that are scanned by groups. -/
def Role.scanned : List Role := [.classDeclaration, .methodDeclaration, .fieldDeclaration]

section

variable {view : SourceView} {node : Node} {role : Role} {finding : Finding}

lemma Role.declares_of_finding (hrole : role ∈ Role.scanned) (hnode : node.role? = some role)
    (h : role.finding view node = .ok finding) : node.Declares view finding.fact := by
  have hkind : node.kind = role.kind := Node.role?_eq_some_iff.mp hnode
  simp only [Role.scanned, List.mem_cons, List.not_mem_nil, or_false] at hrole
  obtain rfl | rfl | rfl := hrole
  · obtain ⟨_, _, _, hmodifier, hidentifier, -, rfl⟩ := classFinding_eq_ok_iff.mp h
    exact .classOpened hkind hmodifier hidentifier
  · obtain ⟨_, _, _, _, _, hmodifiers, hidentifier, hparameters, htype, -, rfl⟩ :=
      methodFinding_eq_ok_iff.mp h
    exact .functionOpened hkind hmodifiers hidentifier hparameters htype
  · obtain ⟨_, _, _, _, hmodifier, htype, hnames, -, rfl⟩ := fieldFinding_eq_ok_iff.mp h
    exact .field hkind hmodifier htype hnames

/-- A declaration whose groups are as they were says the same, and with the same notice. -/
lemma Role.finding_eq_ok_iff_of_among {children : List Node} (hrole : role ∈ Role.scanned)
    (hgroups : ∀ group : ScanGroup, group.among children = group.among node.children) :
    role.finding view { node with children } = .ok finding ↔
      role.finding view node = .ok finding := by
  simp only [Role.scanned, List.mem_cons, List.not_mem_nil, or_false] at hrole
  -- the notice is about the kind and the first point of the node, which stay
  obtain rfl | rfl | rfl := hrole
  · simp only [Role.finding, classFinding_eq_ok_iff, hgroups]
    exact Iff.rfl
  · simp only [Role.finding, methodFinding_eq_ok_iff, hgroups]
    exact Iff.rfl
  · simp only [Role.finding, fieldFinding_eq_ok_iff, hgroups]
    exact Iff.rfl

/-- A node in a role is interpreted just in case it says something and that can be recorded. -/
lemma Progress.interpret_eq_ok_iff {progress after : Progress} {owner next : Nat}
    (hnode : node.role? = some role) :
    progress.interpret view owner node = .ok (after, next) ↔
      ∃ finding, role.finding view node = .ok finding ∧
        progress.store.record owner finding.fact = .ok (after.store, next) ∧
        after.notices = progress.notices ++ finding.notice.toArray := by
  simp only [interpret, hnode]
  cases hfinding : role.finding view node with
  | error error => simp
  | ok finding =>
    cases hrecord : progress.store.record owner finding.fact with
    | error error => simp [hrecord]
    | ok recorded =>
      cases after
      simp [hrecord, Prod.ext_iff, and_right_comm, eq_comm]

lemma exists_error_iff_of_ok_iff {ε α : Type} {x y : Except ε α} (h : ∀ a, x = .ok a ↔ y = .ok a) :
    (∃ error, x = .error error) ↔ ∃ error, y = .error error := by
  cases x with
  | ok a => rw [(h a).mp rfl]
  | error error =>
    cases y with
    | ok a => cases (h a).mpr rfl
    | error other => simp

end

/-- Declarations are matched by kind, never by position: with other children whose groups are the
same, as after any reordering that keeps the order within each group, a declaration fails just in
case it failed before, and otherwise records the same. What it records is told by the groups. -/
theorem declarations_match_by_kind (view : SourceView) (node : Node) (reordered : List Node)
    (hkind : node.kind ∈ ["class_declaration", "method_declaration", "field_declaration"])
    (hgroups : ∀ group : ScanGroup, group.among reordered = group.among node.children)
    (progress : Progress) (owner : Nat) :
    ((∃ error,
        progress.interpret view owner { node with children := reordered } = .error error) ↔
      ∃ error, progress.interpret view owner node = .error error) ∧
    (∀ outcome, progress.interpret view owner { node with children := reordered } = .ok outcome ↔
      progress.interpret view owner node = .ok outcome) ∧
    ∀ after next, progress.interpret view owner node = .ok (after, next) →
      ∃ fact, node.Declares view fact ∧
        progress.store.record owner fact = .ok (after.store, next) := by
  have hkind' : node.kind ∈ Role.scanned.map Role.kind := hkind
  obtain ⟨role, hrole, heq⟩ := List.mem_map.mp hkind'
  have hnode : node.role? = some role := Node.role?_eq_some_iff.mpr heq.symm
  have hsame : ∀ outcome,
      progress.interpret view owner { node with children := reordered } = .ok outcome ↔
        progress.interpret view owner node = .ok outcome := by
    rintro ⟨after, next⟩
    have hreordered : Node.role? { node with children := reordered } = some role := hnode
    rw [Progress.interpret_eq_ok_iff hreordered, Progress.interpret_eq_ok_iff hnode]
    simp only [Role.finding_eq_ok_iff_of_among hrole hgroups]
  refine ⟨exists_error_iff_of_ok_iff hsame, hsame, ?_⟩
  intro after next h
  obtain ⟨finding, hfinding, hrecord, -⟩ := (Progress.interpret_eq_ok_iff hnode).mp h
  exact ⟨finding.fact, Role.declares_of_finding hrole hnode hfinding, hrecord⟩

/-- A method with its modifiers after its heading. -/
def scatteredLines : Lines :=
  #["int T f() public static"]

/-- A part of a declaration in that line. -/
def scatteredPart (kind : String) (start stop : Int) : Node :=
  ⟨kind, ⟨0, start⟩, ⟨0, stop⟩, []⟩

/-- A declaration in that line. -/
def scatteredMethod (children : List Node) : Node :=
  ⟨"method_declaration", ⟨0, 0⟩, ⟨0, 23⟩, children⟩

/-- The parts of the method: the first of three types is empty, and the last lies past the end of
the line, as does a comment. -/
def scatteredParts : List Node := [
  scatteredPart "void_type" 0 0, scatteredPart "integral_type" 0 3,
  scatteredPart "type_identifier" 40 50, scatteredPart "comment" 40 50,
  scatteredPart "identifier" 4 5, scatteredPart "identifier" 6 7,
  scatteredPart "formal_parameters" 7 9, scatteredPart "modifiers" 10 16,
  scatteredPart "modifiers" 17 23]

/-- The same parts with the types last. -/
def reorderedParts : List Node := [
  scatteredPart "modifiers" 10 16, scatteredPart "identifier" 4 5,
  scatteredPart "comment" 40 50, scatteredPart "formal_parameters" 7 9,
  scatteredPart "modifiers" 17 23, scatteredPart "void_type" 0 0,
  scatteredPart "identifier" 6 7, scatteredPart "integral_type" 0 3,
  scatteredPart "type_identifier" 40 50]

/-- In both orders the method is recorded under its last name, with its last modifiers and the first
type that is not empty. The type past the end of the line is read in neither. -/
theorem declarations_match_by_kind_method :
    let view := SourceView.ofLines scatteredLines
    let progress : Progress := ⟨(({} : Store String).newFile scatteredLines).1, #[]⟩
    (∀ group : ScanGroup, group.among reorderedParts = group.among scatteredParts) ∧
      ∃ after next,
        progress.interpret view 0 (scatteredMethod scatteredParts) = .ok (after, next) ∧
        progress.interpret view 0 (scatteredMethod reorderedParts) = .ok (after, next) ∧
        progress.store.record 0 (.functionOpened "static" "f" "()" "int") =
          .ok (after.store, next) := by
  intro view progress
  have hgroups : ∀ group : ScanGroup,
      group.among reorderedParts = group.among scatteredParts := by
    intro group
    cases group <;> rfl
  obtain ⟨-, hsame, hvalues⟩ := declarations_match_by_kind view (scatteredMethod scatteredParts)
    reorderedParts (by decide) hgroups progress 0
  have hok : (progress.interpret view 0 (scatteredMethod scatteredParts)).isOk := by
    decide +kernel
  cases houtcome : progress.interpret view 0 (scatteredMethod scatteredParts) with
  | error error =>
    rw [houtcome] at hok
    cases hok
  | ok outcome =>
    obtain ⟨after, next⟩ := outcome
    refine ⟨hgroups, after, next, rfl, (hsame _).mpr houtcome, ?_⟩
    obtain ⟨fact, hdeclares, hrecord⟩ := hvalues after next houtcome
    cases hdeclares with
    | classOpened kind => exact absurd kind (by decide)
    | field kind => exact absurd kind (by decide)
    | functionOpened _ hmodifiers hidentifier hparameters htype =>
      have hstatic : lastText view "default" (ScanGroup.modifiers.among scatteredParts) =
          .ok "static" := by decide +kernel
      have hname : lastText view "none" (ScanGroup.identifier.among scatteredParts) =
          .ok "f" := by decide +kernel
      have hempty : lastText view "" (ScanGroup.parameters.among scatteredParts) =
          .ok "()" := by decide +kernel
      have hint : firstText view (ScanGroup.type.among scatteredParts) = .ok "int" := by
        decide +kernel
      cases hstatic.symm.trans hmodifiers
      cases hname.symm.trans hidentifier
      cases hempty.symm.trans hparameters
      cases hint.symm.trans htype
      exact hrecord

end Outline
