import Outline.Proofs.Traversal.Declarations
import Outline.Proofs.Traversal.Notices
import Outline.Proofs.Traversal.Range

/-!
# The name of a call and the dot before it

Whatever the children of a call are, its scan goes up to the first arguments and is for three of
them: the last identifier, which is the name, the last dot before it, which ends the receiver, and
the arguments. All identifiers on the way are read, also those that another one replaces, so any of
them can make the call fail. Nothing else can but the arguments and the receiver.
-/

namespace Outline

/-! ### The last of a kind -/

/-- Whether a node is the last of a kind among others, and what stands before it. -/
def IsLastOf (kind : String) (nodes before : List Node) (node : Node) : Prop :=
  node.kind = kind ∧ ∃ after, nodes = before ++ node :: after ∧ ∀ other ∈ after, other.kind ≠ kind

/-- The name among nodes and the dot before it, where there are such nodes: the last identifier, and
the last dot of those before it. -/
inductive Callee (nodes : List Node) : Option Node → Option Node → Prop where
  | unnamed
      (no_name : ∀ node ∈ nodes, node.kind ≠ "identifier") :
      Callee nodes none none
  | unqualified {before : List Node} {name : Node}
      (is_name : IsLastOf "identifier" nodes before name)
      (no_dot : ∀ node ∈ before, node.kind ≠ ".") :
      Callee nodes (some name) none
  | qualified {before front : List Node} {name dot : Node}
      (is_name : IsLastOf "identifier" nodes before name)
      (is_dot : IsLastOf "." before front dot) :
      Callee nodes (some name) (some dot)

section

variable {kind : String} {nodes before : List Node} {node name : Node}

lemma find?_reverse_eq_none_iff :
    nodes.reverse.find? (·.kind = kind) = none ↔ ∀ node ∈ nodes, node.kind ≠ kind := by
  simp

lemma find?_reverse_eq_some_iff :
    nodes.reverse.find? (·.kind = kind) = some node ↔
      ∃ before, IsLastOf kind nodes before node := by
  rw [List.find?_eq_some_iff_append]
  constructor
  · rintro ⟨hkind, after, before, hnodes, hafter⟩
    refine ⟨before.reverse, by simpa using hkind, after.reverse, ?_, by simpa using hafter⟩
    rw [← List.reverse_reverse nodes, hnodes]
    simp
  · rintro ⟨before, hkind, after, rfl, hafter⟩
    exact ⟨by simpa using hkind, after.reverse, before.reverse, by simp, by simpa using hafter⟩

lemma nameDot?_of_no_name (h : ∀ node ∈ nodes, node.kind ≠ "identifier") :
    nameDot? nodes = none := by
  have hpassed : ∀ node ∈ nodes.reverse, decide (node.kind ≠ "identifier") = true := by
    simpa using h
  rw [nameDot?, ← List.append_nil nodes.reverse, List.dropWhile_append_of_pos hpassed]
  rfl

/-- The dot of a name is looked for before it. -/
lemma IsLastOf.nameDot?_eq (h : IsLastOf "identifier" nodes before name) :
    nameDot? nodes = before.reverse.find? (·.kind = ".") := by
  obtain ⟨hkind, after, rfl, hafter⟩ := h
  have hpassed : ∀ node ∈ after.reverse, decide (node.kind ≠ "identifier") = true := by
    simpa using hafter
  rw [nameDot?, List.reverse_append, List.reverse_cons, List.append_assoc,
    List.dropWhile_append_of_pos hpassed, List.singleton_append,
    List.dropWhile_cons_of_neg (by simp [hkind]), List.find?_cons_of_neg (by simp [hkind])]

/-- The name and its dot are those that are met first from the end. -/
lemma callee_iff {name? dot? : Option Node} :
    Callee nodes name? dot? ↔ name? = lastIdentifier? nodes ∧ dot? = nameDot? nodes := by
  constructor
  · intro h
    cases h with
    | unnamed no_name =>
      exact ⟨(find?_reverse_eq_none_iff.mpr no_name).symm, (nameDot?_of_no_name no_name).symm⟩
    | unqualified is_name no_dot =>
      rw [is_name.nameDot?_eq, find?_reverse_eq_none_iff.mpr no_dot]
      exact ⟨(find?_reverse_eq_some_iff.mpr ⟨_, is_name⟩).symm, rfl⟩
    | qualified is_name is_dot =>
      rw [is_name.nameDot?_eq, find?_reverse_eq_some_iff.mpr ⟨_, is_dot⟩]
      exact ⟨(find?_reverse_eq_some_iff.mpr ⟨_, is_name⟩).symm, rfl⟩
  · rintro ⟨rfl, rfl⟩
    cases hname : lastIdentifier? nodes with
    | none =>
      have no_name := find?_reverse_eq_none_iff.mp hname
      rw [nameDot?_of_no_name no_name]
      exact .unnamed no_name
    | some name =>
      obtain ⟨before, is_name⟩ := find?_reverse_eq_some_iff.mp hname
      rw [is_name.nameDot?_eq]
      cases hdot : before.reverse.find? (·.kind = ".") with
      | none => exact .unqualified is_name (find?_reverse_eq_none_iff.mp hdot)
      | some dot =>
        obtain ⟨front, is_dot⟩ := find?_reverse_eq_some_iff.mp hdot
        exact .qualified is_name is_dot

end

/-! ### Up to the arguments -/

namespace Node

/-- The children of a call before its first arguments. -/
def beforeArguments (node : Node) : List Node :=
  node.children.takeWhile (·.kind ≠ "argument_list")

/-- The first arguments of a call. -/
def arguments? (node : Node) : Option Node :=
  node.children.find? (·.kind = "argument_list")

lemma kind_of_arguments? {node arguments : Node} (h : node.arguments? = some arguments) :
    arguments.kind = "argument_list" := by
  simpa using List.find?_some h

lemma kind_of_mem_beforeArguments {node child : Node} (h : child ∈ node.beforeArguments) :
    child.kind ≠ "argument_list" := by
  simpa using List.all_eq_true.mp List.all_takeWhile child h

end Node

lemma upToArguments_eq (node : Node) :
    upToArguments node.children = node.beforeArguments ++ node.arguments?.toList := by
  unfold Node.beforeArguments Node.arguments?
  induction node.children with
  | nil => rfl
  | cons child rest ih =>
    by_cases h : child.kind = "argument_list"
    · simp [upToArguments, h]
    · simp [upToArguments, h, ih]

/-- Arguments are neither a name nor a dot. -/
lemma callee_upToArguments (node : Node) :
    lastIdentifier? (upToArguments node.children) = lastIdentifier? node.beforeArguments ∧
      nameDot? (upToArguments node.children) = nameDot? node.beforeArguments := by
  rw [upToArguments_eq]
  cases h : node.arguments? with
  | none => simp
  | some arguments =>
    have hkind := Node.kind_of_arguments? h
    simp [lastIdentifier?_concat, nameDot?_append, hkind]

/-- There is only one list of arguments up to the first. -/
lemma find?_upToArguments (node : Node) :
    (upToArguments node.children).reverse.find? (·.kind = "argument_list") = node.arguments? := by
  rw [upToArguments_eq]
  cases h : node.arguments? with
  | none =>
    rw [Option.toList_none, List.append_nil, find?_reverse_eq_none_iff]
    exact fun child => Node.kind_of_mem_beforeArguments
  | some arguments => simp [Node.kind_of_arguments? h]

/-! ### What is recorded -/

/-- What a call records that has a name, a dot before it and arguments, with what stands for each of
them where there is none. Its target is what is before the dot, without white space at the ends. -/
structure RecordsCall (view : SourceView) (node : Node) (name? dot? arguments? : Option Node)
    (call : Invocation String) : Prop where
  identifier_eq : name?.elim (.ok "none") (·.text view) = .ok call.identifier
  arguments_eq  : arguments?.elim (.ok "") (·.text view) = .ok call.arguments
  target_eq     :
    dot?.elim (.ok "") (fun dot => Text.strip <$> view.spanText node.start dot.start) =
      .ok call.target

section

variable {view : SourceView} {node : Node}

/-- The arguments of a scan are those with which it ends. -/
lemma arguments_scanCall {scan : CallScan} (h : scanCall view {} node.children = .ok scan) :
    node.arguments?.elim (.ok "") (·.text view) = .ok scan.arguments := by
  have hstart : (([] : List Node).reverse.find? (·.kind = "argument_list")).elim (.ok "")
      (·.text view) = .ok ({} : CallScan).arguments := rfl
  rw [← find?_upToArguments, ← List.nil_append (upToArguments node.children)]
  refine scanCall_keeps (motive := fun seen scan =>
    (seen.reverse.find? (·.kind = "argument_list")).elim (.ok "") (·.text view) =
      .ok scan.arguments) ?_ ?_ ?_ ?_ hstart h
  · intro seen scan child hscan hkind
    simpa [hkind] using hscan
  · intro seen scan child name hscan hkind _
    simpa [hkind] using hscan
  · intro seen scan child text _ hkind htext
    simpa [hkind] using htext
  · intro seen scan child hscan _ _ hkind
    simpa [hkind] using hscan

lemma recordsCall_of_finding {finding : Finding} (h : callFinding view node = .ok finding) :
    ∃ call, finding.fact = .invocation call ∧
      RecordsCall view node (lastIdentifier? node.beforeArguments)
        (nameDot? node.beforeArguments) node.arguments? call := by
  obtain ⟨scan, hscan, h⟩ := bind_eq_ok h
  obtain ⟨target, htarget, h⟩ := bind_eq_ok h
  obtain ⟨notice, -, h⟩ := bind_eq_ok h
  cases h
  obtain ⟨hname, hdot⟩ := callee_upToArguments node
  have hstart : IsNamed view ({} : CallScan).identifier (lastIdentifier? []) := rfl
  have hidentifier := isNamed_scanCall hstart hscan
  have hnameDot : scan.nameDot = nameDot? ([] ++ upToArguments node.children) :=
    nameDot_scanCall rfl rfl hscan
  rw [List.nil_append, hname] at hidentifier
  rw [List.nil_append, hdot] at hnameDot
  refine ⟨_, rfl, ?_, arguments_scanCall hscan, ?_⟩
  · cases hlast : lastIdentifier? node.beforeArguments with
    | none =>
      rw [hlast] at hidentifier
      exact congrArg Except.ok hidentifier.symm
    | some name =>
      rw [hlast] at hidentifier
      exact hidentifier
  · rw [← hnameDot, ← htarget]
    cases scan.nameDot with
    | none => rfl
    | some dot => rfl

/-! ### What can fail -/

/-- What is read of a call are the identifiers before its arguments, the arguments and what is
before the dot of its name. -/
lemma callSpans_eq (node : Node) :
    callSpans node =
      (node.beforeArguments.filter (·.kind = "identifier")).map Node.span
        ++ node.arguments?.toList.map Node.span
        ++ (nameDot? node.beforeArguments).toList.map fun dot => ⟨node.start, dot.start⟩ := by
  have hbefore : node.beforeArguments.filter
      (fun child => child.kind = "identifier" ∨ child.kind = "argument_list") =
        node.beforeArguments.filter (·.kind = "identifier") := by
    refine List.filter_congr fun child hchild => ?_
    simp [Node.kind_of_mem_beforeArguments hchild]
  have harguments : node.arguments?.toList.filter
      (fun child => child.kind = "identifier" ∨ child.kind = "argument_list") =
        node.arguments?.toList := by
    refine List.filter_eq_self.mpr fun child hchild => ?_
    simp [Node.kind_of_arguments? (Option.mem_toList.mp hchild)]
  have hdot := (callee_upToArguments node).2
  rw [upToArguments_eq] at hdot
  simp only [callSpans, upToArguments_eq, hdot, List.filter_append, hbefore, harguments,
    List.map_append]

/-- Whether a span begins or ends outside lines, by the places of its points. -/
def Span.Outside (lines : Lines) (place : Point → Point) (span : Span) : Prop :=
  lines.Outside (place span.start) ∨ lines.Outside (place span.stop)

instance (lines : Lines) (place : Point → Point) (span : Span) :
    Decidable (span.Outside lines place) :=
  inferInstanceAs (Decidable (_ ∨ _))

/-- Reading a node fails over a span just in case one lies outside the lines. -/
lemma faultIn_spansRead_ne_none_iff {place : Point → Point}
    (h : node.EachPoint fun point => view.place point = .ok (place point)) :
    view.faultIn (node.spansRead view) ≠ none ↔
      ∃ span ∈ node.spansRead view, span.Outside view.lines place := by
  have hnone : view.faultIn (node.spansRead view) = none ↔
      node.pointOutside? view place = none := by
    rw [view.faultIn_eq_find? (h.spansRead view), Option.map_eq_none_iff]
    exact Iff.rfl
  rw [Ne, hnone, Node.pointOutside?_eq_none_iff]
  simp [Span.Outside, or_iff_not_imp_left]

/-- Nothing but reading a call can fail, since a call is recorded for any owner. -/
lemma exists_error_interpret_iff {progress : Progress} {owner : Nat}
    (h : node.role? = some .methodInvocation) :
    (∃ error, progress.interpret view owner node = .error error) ↔
      fault? (callFinding view node) ≠ none := by
  simp only [Progress.interpret, h, Role.finding]
  cases hfinding : callFinding view node with
  | error error => simp
  | ok finding =>
    obtain ⟨call, hfact, -⟩ := recordsCall_of_finding hfinding
    simp [hfact, Store.record]

end

/-- A call with any children that does not fail records for its owner the text of its name, that of
its first arguments and what is before the dot of the name, where the name is the last identifier
before the arguments and its dot the last before it. Where its points have places, it fails just in
case an identifier before the arguments, the arguments or what is before the dot lies outside the
lines. -/
theorem call_records_callee (view : SourceView) (node : Node)
    (hkind : node.kind = "method_invocation") (progress : Progress) (owner : Nat) :
    ∃ name? dot?, Callee node.beforeArguments name? dot? ∧
      (∀ after next, progress.interpret view owner node = .ok (after, next) →
        ∃ call, RecordsCall view node name? dot? node.arguments? call ∧
          after.store = progress.store.addInvocation owner call ∧ next = owner) ∧
      ∀ place : Point → Point,
        (node.EachPoint fun point => view.place point = .ok (place point)) →
        ((∃ error, progress.interpret view owner node = .error error) ↔
          (∃ child ∈ node.beforeArguments, child.kind = "identifier" ∧
            child.span.Outside view.lines place) ∨
          (∃ arguments ∈ node.arguments?, arguments.span.Outside view.lines place) ∨
          ∃ dot ∈ dot?, Span.Outside view.lines place ⟨node.start, dot.start⟩) := by
  have hrole : node.role? = some .methodInvocation := Node.role?_eq_some_iff.mpr hkind
  refine ⟨_, _, callee_iff.mpr ⟨rfl, rfl⟩, ?_, ?_⟩
  · intro after next h
    obtain ⟨finding, hfinding, hrecord, -⟩ := (Progress.interpret_eq_ok_iff hrole).mp h
    obtain ⟨call, hfact, hcall⟩ := recordsCall_of_finding hfinding
    rw [hfact, Store.record, Except.ok.injEq, Prod.mk.injEq] at hrecord
    exact ⟨call, hcall, hrecord.1.symm, hrecord.2.symm⟩
  · intro place hplace
    have hspans : node.spansRead view = callSpans node := by
      rw [Node.spansRead, hrole]
      rfl
    have hfault : fault? (callFinding view node) = view.faultIn (node.spansRead view) := by
      rw [hspans]
      exact Role.methodInvocation.fault?_finding hplace.start
    rw [exists_error_interpret_iff hrole, hfault, faultIn_spansRead_ne_none_iff hplace, hspans]
    simp only [callSpans_eq, List.mem_append, or_and_right, exists_or]
    simp [or_assoc, and_assoc]

/-- A chain of three names with a dot too many before its arguments. The first name has a letter of
two bytes. -/
def strayText : String :=
  "é.f\n .g.(x)(y)"

/-- A part of that text in one row. -/
def strayPart (kind : String) (row start stop : Int) : Node :=
  ⟨kind, ⟨row, start⟩, ⟨row, stop⟩, []⟩

/-- The chain as one call with two lists of arguments, and with its first name in a given row. -/
def strayCall (row : Int) : Node :=
  ⟨"method_invocation", ⟨0, 0⟩, ⟨1, 10⟩, [
    strayPart "identifier" row 0 2, strayPart "." 0 2 3, strayPart "identifier" 0 3 4,
    strayPart "." 1 1 2, strayPart "identifier" 1 2 3, strayPart "." 1 3 4,
    strayPart "argument_list" 1 4 7, strayPart "argument_list" 1 7 10]⟩

/-- The call is recorded with its last name and the dot before it. It fails if its first name, which
is not recorded, lies in a row that is not there. -/
theorem call_records_callee_stray :
    let view := SourceView.ofText strayText
    let progress : Progress := ⟨(({} : Store String).newFile view.lines).1, #[]⟩
    (∃ after, progress.interpret view 0 (strayCall 0) = .ok (after, 0) ∧
        after.store = progress.store.addInvocation 0 ⟨"é.f", "g", "(x)"⟩) ∧
      ∃ error, progress.interpret view 0 (strayCall 2) = .error error := by
  intro view progress
  constructor
  · obtain ⟨name?, dot?, hcallee, hrecords, -⟩ :=
      call_records_callee view (strayCall 0) rfl progress 0
    obtain ⟨rfl, rfl⟩ := callee_iff.mp hcallee
    have hok : (progress.interpret view 0 (strayCall 0)).isOk := by decide +kernel
    cases houtcome : progress.interpret view 0 (strayCall 0) with
    | error error =>
      rw [houtcome] at hok
      cases hok
    | ok outcome =>
      obtain ⟨⟨target, identifier, arguments⟩, hcall, hstore, hnext⟩ :=
        hrecords outcome.1 outcome.2 houtcome
      have hidentifier : (lastIdentifier? (strayCall 0).beforeArguments).elim (.ok "none")
          (·.text view) = .ok "g" := by decide +kernel
      have harguments : (strayCall 0).arguments?.elim (.ok "") (·.text view) = .ok "(x)" := by
        decide +kernel
      have htarget : (nameDot? (strayCall 0).beforeArguments).elim (.ok "") (fun dot =>
          Text.strip <$> view.spanText (strayCall 0).start dot.start) = .ok "é.f" := by
        decide +kernel
      cases hidentifier.symm.trans hcall.identifier_eq
      cases harguments.symm.trans hcall.arguments_eq
      cases htarget.symm.trans hcall.target_eq
      exact ⟨outcome.1, by rw [← hnext], hstore⟩
  · obtain ⟨name?, dot?, -, -, hfails⟩ := call_records_callee view (strayCall 2) rfl progress 0
    refine (hfails (fun point => (view.place point).toOption.getD point) (by decide +kernel)).mpr
      (.inl ⟨strayPart "identifier" 2 0 2, ?_, rfl, by decide +kernel⟩)
    simp [Node.beforeArguments, strayCall, strayPart]

end Outline
