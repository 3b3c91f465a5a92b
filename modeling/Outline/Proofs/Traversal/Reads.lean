import Outline.Proofs.Source.Spans
import Outline.Traversal.Fact

/-!
# What is read of a node

Each interpreted node has the spans that are read of it, in the order of reading. Which these are is
said by kinds of children, apart from the scans that read them; only of a method does it hang on the
texts how many types are read. A node says something just in case all its spans can be read, and
otherwise fails over the first that cannot.
-/

namespace Outline

/-! ### Outcomes -/

/-- The error of an outcome, if it is one. -/
def fault? {ε α : Type} : Except ε α → Option ε
  | .ok _        => none
  | .error error => some error

@[simp] lemma fault?_ok {ε α : Type} (a : α) : fault? (.ok a : Except ε α) = none := rfl

@[simp] lemma fault?_error {ε α : Type} (error : ε) :
    fault? (.error error : Except ε α) = some error := rfl

@[simp] lemma fault?_pure {ε α : Type} (a : α) : fault? (pure a : Except ε α) = none := rfl

@[simp] lemma fault?_map {ε α β : Type} (f : α → β) (x : Except ε α) :
    fault? (f <$> x) = fault? x := by
  cases x <;> rfl

/-! ### Reading spans -/

/-- Two points with a text between them. -/
structure Span where
  start : Point
  stop  : Point

/-- The points of a span in the order in which they are looked up. -/
def Span.points (span : Span) : List Point :=
  [span.start, span.stop]

def Node.span (node : Node) : Span :=
  ⟨node.start, node.stop⟩

namespace SourceView

/-- The error of the first of some spans that cannot be read. -/
def faultIn (view : SourceView) (spans : List Span) : Option SpanError :=
  spans.findSome? fun span => fault? (view.spanText span.start span.stop)

variable (view : SourceView)

@[simp] lemma faultIn_nil : view.faultIn [] = none := rfl

lemma faultIn_cons (span : Span) (spans : List Span) :
    view.faultIn (span :: spans) =
      (fault? (view.spanText span.start span.stop)).or (view.faultIn spans) := by
  rw [faultIn, List.findSome?_cons]
  cases fault? (view.spanText span.start span.stop) <;> rfl

lemma faultIn_append (spans more : List Span) :
    view.faultIn (spans ++ more) = (view.faultIn spans).or (view.faultIn more) :=
  List.findSome?_append

/-- Where each point of some spans has a place, the first of them that lies outside is told. -/
lemma faultIn_eq_find? {place : Point → Point} {spans : List Span}
    (hplace : ∀ span ∈ spans, ∀ point ∈ span.points, view.place point = .ok (place point)) :
    view.faultIn spans =
      ((spans.flatMap Span.points).find? fun point => view.lines.Outside (place point)).map
        fun point => view.lines.faultAt (place point) := by
  induction spans with
  | nil => rfl
  | cons span spans ih =>
    have hspan := hplace span List.mem_cons_self
    have hstart := hspan span.start (by simp [Span.points])
    have hstop := hspan span.stop (by simp [Span.points])
    rw [faultIn_cons, ih fun s hs => hplace s (List.mem_cons_of_mem _ hs), List.flatMap_cons,
      List.find?_append, Option.map_or]
    congr 1
    simp only [spanText, hstart, hstop, Lines.spanText, Span.points]
    by_cases hfirst : view.lines.Outside (place span.start)
    · simp [bind, Except.bind, Lines.locate_eq_error hfirst, hfirst]
    · obtain ⟨first, hlocate⟩ := Lines.exists_locate_eq_ok hfirst
      by_cases hlast : view.lines.Outside (place span.stop)
      · simp [bind, Except.bind, hlocate, Lines.locate_eq_error hlast, hfirst, hlast]
      · obtain ⟨last, hlocate'⟩ := Lines.exists_locate_eq_ok hlast
        simp [bind, Except.bind, hlocate, hlocate', hfirst, hlast]

end SourceView

/-! ### Scans of declarations -/

/-- The spans that are read of a child of a class. -/
def classSpans (child : Node) : List Span :=
  if child.kind = "modifiers" ∨ child.kind = "identifier" then [child.span] else []

/-- The span of the name in a declarator. -/
def declaratorSpan (declarator : Node) : Span :=
  ((declarator.children.find? (·.kind = "identifier")).getD declarator).span

/-- The spans that are read of a child of a field declaration. -/
def fieldSpans (child : Node) : List Span :=
  if child.kind = "modifiers" ∨ child.kind ∈ typeKinds then [child.span]
  else if child.kind = "variable_declarator" then [declaratorSpan child]
  else []

/-- The spans that are read of the children of a method. Once a type has been read whose text is not
empty, no other is. -/
def methodSpans (view : SourceView) (typed : Bool) : List Node → List Span
  | []            => []
  | child :: rest =>
    if child.kind ∈ ["modifiers", "identifier", "formal_parameters"] then
      child.span :: methodSpans view typed rest
    else if child.kind ∈ typeKinds ∧ ¬ typed then
      child.span :: methodSpans view ((child.text view).toOption ≠ some "") rest
    else methodSpans view typed rest

/-! ### Scans of calls -/

/-- The children of a call up to its arguments. -/
def upToArguments : List Node → List Node
  | []            => []
  | child :: rest =>
    if child.kind = "argument_list" then [child] else child :: upToArguments rest

/-- The last dot before the last identifier. -/
def nameDot? (children : List Node) : Option Node :=
  (children.reverse.dropWhile (·.kind ≠ "identifier")).find? (·.kind = ".")

/-- The spans that are read of a call: its identifiers and arguments, and what stands between its
beginning and the dot of its name. -/
def callSpans (node : Node) : List Span :=
  let scanned := upToArguments node.children
  (scanned.filter fun child => child.kind = "identifier" ∨ child.kind = "argument_list").map
      Node.span
    ++ (nameDot? scanned).toList.map fun dot => ⟨node.start, dot.start⟩

/-- The spans that are read of a node in a role, in order. -/
def Role.spans (role : Role) (view : SourceView) (node : Node) : List Span :=
  match role with
  | .importDeclaration => [node.span]
  | .classDeclaration  => node.children.flatMap classSpans
  | .fieldDeclaration  => node.children.flatMap fieldSpans
  | .methodInvocation  => callSpans node
  | .methodDeclaration => methodSpans view false node.children

/-- The spans that are read of a node, none if it is not interpreted. -/
def Node.spansRead (view : SourceView) (node : Node) : List Span :=
  match node.role? with
  | none      => []
  | some role => role.spans view node

section

variable {view : SourceView}

@[simp] lemma faultIn_span (node : Node) : view.faultIn [node.span] = fault? (node.text view) := by
  simp [view.faultIn_cons, Node.text, Node.span]

/-- A scan that reads of each child what `spans` says fails over the first span that cannot be
read. -/
lemma fault?_foldlM {σ : Type} {step : σ → Node → Except SpanError σ} {spans : Node → List Span}
    (hstep : ∀ scan child, fault? (step scan child) = view.faultIn (spans child))
    (children : List Node) (scan : σ) :
    fault? (children.foldlM step scan) = view.faultIn (children.flatMap spans) := by
  induction children generalizing scan with
  | nil => rfl
  | cons child rest ih =>
    rw [List.foldlM_cons, List.flatMap_cons, view.faultIn_append, ← hstep scan child]
    cases step scan child with
    | ok next => exact ih next
    | error error => rfl

lemma ClassScan.fault?_step (scan : ClassScan) (child : Node) :
    fault? (scan.step view child) = view.faultIn (classSpans child) := by
  unfold step classSpans
  by_cases hmodifiers : child.kind = "modifiers"
  · simp [hmodifiers]
  · by_cases hidentifier : child.kind = "identifier"
    · simp [hidentifier]
    · simp [hmodifiers, hidentifier]

@[simp] lemma faultIn_declaratorSpan (declarator : Node) :
    view.faultIn [declaratorSpan declarator] = fault? (declaratorName view declarator) := by
  unfold declaratorName declaratorSpan
  split
  · next child hchild => simp [hchild]
  · next hnone => simp [hnone]

lemma FieldScan.fault?_step (scan : FieldScan) (child : Node) :
    fault? (scan.step view child) = view.faultIn (fieldSpans child) := by
  unfold step fieldSpans
  simp only [List.contains_iff_mem]
  split_ifs <;> simp_all

lemma MethodScan.fault?_foldlM (children : List Node) (scan : MethodScan) :
    fault? (children.foldlM (MethodScan.step view) scan) =
      view.faultIn (methodSpans view (scan.returnType ≠ "") children) := by
  induction children generalizing scan with
  | nil => rfl
  | cons child rest ih =>
    rw [List.foldlM_cons, methodSpans]
    by_cases hheading : child.kind ∈ ["modifiers", "identifier", "formal_parameters"]
    · -- each of the three leaves the return type as it is
      rw [if_pos hheading, ← List.singleton_append, view.faultIn_append, faultIn_span]
      obtain ⟨next, hstep, hnext⟩ : ∃ next : String → MethodScan,
          scan.step view child = next <$> child.text view ∧
            ∀ text, (next text).returnType = scan.returnType := by
        simp only [List.mem_cons, List.not_mem_nil, or_false] at hheading
        rcases hheading with h | h | h
        · exact ⟨fun text => { scan with modifiers := text }, by simp [step, h], fun _ => rfl⟩
        · exact ⟨fun text => { scan with identifier := text }, by simp [step, h], fun _ => rfl⟩
        · exact ⟨fun text => { scan with parameters := text }, by simp [step, h], fun _ => rfl⟩
      rw [hstep]
      cases child.text view with
      | error error => rfl
      | ok text =>
        have := ih (next text)
        rw [hnext text] at this
        exact this
    · rw [if_neg hheading]
      simp only [List.mem_cons, List.not_mem_nil, or_false, not_or] at hheading
      obtain ⟨hmodifiers, hidentifier, hparameters⟩ := hheading
      by_cases htype : child.kind ∈ typeKinds ∧ scan.returnType = ""
      · have hstep : scan.step view child =
            (fun text => { scan with returnType := text }) <$> child.text view := by
          simp [step, hmodifiers, hidentifier, hparameters, htype]
        rw [if_pos (by simpa using htype), ← List.singleton_append, view.faultIn_append,
          faultIn_span, hstep]
        cases htext : child.text view with
        | error error => rfl
        | ok text =>
          have := ih { scan with returnType := text }
          simpa [Except.toOption, bind, Except.bind] using this
      · have hstep : scan.step view child = .ok scan := by
          simp only [step, hmodifiers, hidentifier, hparameters, if_false]
          rw [if_neg (by simpa using htype)]
          rfl
        rw [if_neg (by simpa using htype), hstep]
        exact ih scan

/-! ### Calls -/

lemma nameDot?_append (seen : List Node) (child : Node) :
    nameDot? (seen ++ [child]) =
      if child.kind = "identifier" then seen.reverse.find? (·.kind = ".") else nameDot? seen := by
  by_cases h : child.kind = "identifier"
  · simp [nameDot?, h]
  · simp [nameDot?, h]

/-- What holds of a scan of a call after the children seen holds after those up to the arguments, if
each child keeps it that the scan takes in or passes over. -/
lemma scanCall_keeps {motive : List Node → CallScan → Prop}
    (hdot : ∀ {seen scan child}, motive seen scan → child.kind = "." →
      motive (seen ++ [child]) { scan with dot := some child })
    (hname : ∀ {seen scan child name}, motive seen scan → child.kind = "identifier" →
      child.text view = .ok name →
      motive (seen ++ [child]) { scan with identifier := name, nameDot := scan.dot })
    (harguments : ∀ {seen scan child text}, motive seen scan → child.kind = "argument_list" →
      child.text view = .ok text → motive (seen ++ [child]) { scan with arguments := text })
    (hpassed : ∀ {seen scan child}, motive seen scan → child.kind ≠ "." →
      child.kind ≠ "identifier" → child.kind ≠ "argument_list" → motive (seen ++ [child]) scan)
    {seen children : List Node} {scan result : CallScan} (hscan : motive seen scan)
    (h : scanCall view scan children = .ok result) :
    motive (seen ++ upToArguments children) result := by
  induction children generalizing seen scan with
  | nil =>
    cases h
    simpa [upToArguments] using hscan
  | cons child rest ih =>
    rw [scanCall] at h
    rw [upToArguments]
    split_ifs at h with hkind hidentifier hlist
    · rw [if_neg (by simp [hkind]), List.append_cons]
      exact ih (hdot hscan hkind) h
    · rw [if_neg (by simp [hidentifier]), List.append_cons]
      cases htext : child.text view with
      | error error => simp [htext, bind, Except.bind] at h
      | ok name =>
        simp only [htext, bind, Except.bind] at h
        exact ih (hname hscan hidentifier htext) h
    · -- the scan ends here
      rw [if_pos hlist]
      cases htext : child.text view with
      | error error => simp [htext, bind, Except.bind] at h
      | ok text =>
        simp only [htext, bind, Except.bind, pure, Except.pure] at h
        cases h
        exact harguments hscan hlist htext
    · rw [if_neg hlist, List.append_cons]
      exact ih (hpassed hscan hkind hidentifier hlist) h

/-- After a scan of the children of a call that goes on from those seen, the dot of the name is the
last before the last identifier. -/
lemma nameDot_scanCall {seen children : List Node} {scan result : CallScan}
    (hdot : scan.dot = seen.reverse.find? (·.kind = ".")) (hname : scan.nameDot = nameDot? seen)
    (h : scanCall view scan children = .ok result) :
    result.nameDot = nameDot? (seen ++ upToArguments children) := by
  refine (scanCall_keeps (motive := fun seen scan =>
    scan.dot = seen.reverse.find? (·.kind = ".") ∧ scan.nameDot = nameDot? seen)
    ?_ ?_ ?_ ?_ ⟨hdot, hname⟩ h).2
  · rintro seen scan child ⟨-, hname⟩ hkind
    exact ⟨by simp [hkind], by simp [nameDot?_append, hkind, hname]⟩
  · rintro seen scan child name ⟨hdot, -⟩ hkind -
    exact ⟨by simp [hkind, hdot], by simp [nameDot?_append, hkind, hdot]⟩
  · rintro seen scan child text ⟨hdot, hname⟩ hkind -
    exact ⟨by simp [hkind, hdot], by simp [nameDot?_append, hkind, hname]⟩
  · rintro seen scan child ⟨hdot, hname⟩ hkind hidentifier -
    exact ⟨by simp [hkind, hdot], by simp [nameDot?_append, hidentifier, hname]⟩

lemma fault?_scanCall (children : List Node) (scan : CallScan) :
    fault? (scanCall view scan children) =
      view.faultIn (((upToArguments children).filter fun child =>
        child.kind = "identifier" ∨ child.kind = "argument_list").map Node.span) := by
  induction children generalizing scan with
  | nil => rfl
  | cons child rest ih =>
    rw [scanCall, upToArguments]
    by_cases hkind : child.kind = "."
    · simp [hkind, ih]
    · by_cases hidentifier : child.kind = "identifier"
      · simp only [hidentifier, String.reduceEq, if_false, if_true]
        rw [List.filter_cons_of_pos (by simp [hidentifier]), List.map_cons,
          ← List.singleton_append, view.faultIn_append, faultIn_span]
        cases child.text view with
        | error error => rfl
        | ok name => exact ih _
      · by_cases harguments : child.kind = "argument_list"
        · simp [harguments]
        · simp [hkind, hidentifier, harguments, ih]

lemma fault?_receiver (node : Node) (dot : Option Node) :
    fault? (receiver view node dot) =
      view.faultIn (dot.toList.map fun dot => ⟨node.start, dot.start⟩) := by
  cases dot with
  | none => rfl
  | some dot => simp [receiver, view.faultIn_cons]

/-! ### Findings -/

/-- A notice does not fail where the first point of the node has a place. -/
lemma exists_notice? {node : Node} {place : Point} (hstart : view.place node.start = .ok place)
    (due : Bool) (missing : MissingPart) :
    ∃ notice, node.notice? view due missing = .ok notice := by
  cases due with
  | false => exact ⟨none, rfl⟩
  | true => exact ⟨some ⟨node.kind, missing, place.row + 1⟩, by simp [Node.notice?, hstart]⟩

lemma fault?_bind_notice? {node : Node} {place : Point}
    (hstart : view.place node.start = .ok place) {α β : Type} (x : Except SpanError α)
    (due : α → Bool) (missing : MissingPart) (make : α → Option Notice → β) :
    fault? (do
      let a ← x
      let notice ← node.notice? view (due a) missing
      return make a notice) = fault? x := by
  cases x with
  | error error => rfl
  | ok a =>
    obtain ⟨notice, hnotice⟩ := exists_notice? hstart (due a) missing
    simp [bind, Except.bind, hnotice]

/-- What is found at a node in a role fails over the first span of it that cannot be read. -/
lemma Role.fault?_finding (role : Role) {node : Node} {place : Point}
    (hstart : view.place node.start = .ok place) :
    fault? (role.finding view node) = view.faultIn (role.spans view node) := by
  cases role with
  | importDeclaration => simp [finding, spans, importFinding]
  | classDeclaration =>
    exact (fault?_bind_notice? hstart ..).trans (fault?_foldlM ClassScan.fault?_step _ _)
  | fieldDeclaration =>
    exact (fault?_bind_notice? hstart ..).trans (fault?_foldlM FieldScan.fault?_step _ _)
  | methodInvocation =>
    rw [finding, callFinding, spans, callSpans, view.faultIn_append, ← fault?_scanCall _ {}]
    cases hscan : scanCall view {} node.children with
    | error error => rfl
    | ok scan =>
      have hdot : scan.nameDot = nameDot? ([] ++ upToArguments node.children) :=
        nameDot_scanCall rfl rfl hscan
      rw [List.nil_append] at hdot
      rw [← hdot, ← fault?_receiver]
      exact fault?_bind_notice? hstart ..
  | methodDeclaration =>
    exact (fault?_bind_notice? hstart ..).trans (MethodScan.fault?_foldlM _ _)

end

end Outline
