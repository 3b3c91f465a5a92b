import Outline.Proofs.Source.Range
import Outline.Proofs.Summary
import Outline.Proofs.Traversal.Failure

/-!
# Trees in the range of a text

A grammar gives trees whose points lie in the rows of bytes of the text. All that is read of a tree
lies between points of its nodes, so that a report is refused over one thing alone: a span is read
that begins or ends after a carriage return at the end of a row. A text without returns has a
report.
-/

namespace Outline

namespace Node

/-- Whether all points of a tree have a property. -/
def EachPoint (p : Point → Prop) : Node → Prop
  | ⟨_, start, stop, children⟩ => p start ∧ p stop ∧ eachPointIn p children
where
  eachPointIn (p : Point → Prop) : List Node → Prop
    | []            => True
    | node :: nodes => EachPoint p node ∧ eachPointIn p nodes

instance EachPoint.decidable (p : Point → Prop) [DecidablePred p] :
    (node : Node) → Decidable (node.EachPoint p)
  | ⟨_, start, stop, children⟩ =>
    have := decidableIn p children
    inferInstanceAs (Decidable (p start ∧ p stop ∧ eachPointIn p children))
where
  decidableIn (p : Point → Prop) [DecidablePred p] :
      (nodes : List Node) → Decidable (EachPoint.eachPointIn p nodes)
    | []            => .isTrue trivial
    | node :: nodes =>
      have := EachPoint.decidable p node
      have := decidableIn p nodes
      inferInstanceAs (Decidable (EachPoint p node ∧ eachPointIn p nodes))

variable {p : Point → Prop} {node : Node}

lemma eachPointIn_iff (nodes : List Node) :
    EachPoint.eachPointIn p nodes ↔ ∀ node ∈ nodes, node.EachPoint p := by
  induction nodes with
  | nil => simp [EachPoint.eachPointIn]
  | cons node nodes ih => simp [EachPoint.eachPointIn, ih]

lemma eachPoint_iff :
    node.EachPoint p ↔ p node.start ∧ p node.stop ∧ ∀ child ∈ node.children, child.EachPoint p := by
  obtain ⟨kind, start, stop, children⟩ := node
  simp [EachPoint, eachPointIn_iff]

namespace EachPoint

lemma start (h : node.EachPoint p) : p node.start :=
  (eachPoint_iff.mp h).1

lemma stop (h : node.EachPoint p) : p node.stop :=
  (eachPoint_iff.mp h).2.1

lemma child {below : Node} (h : node.EachPoint p) (hbelow : below ∈ node.children) :
    below.EachPoint p :=
  (eachPoint_iff.mp h).2.2 below hbelow

lemma imp {q : Point → Prop} (hpq : ∀ point, p point → q point) {root : Node}
    (h : root.EachPoint p) : root.EachPoint q := by
  match root with
  | ⟨_, _, _, children⟩ =>
    rw [eachPoint_iff] at h ⊢
    exact ⟨hpq _ h.1, hpq _ h.2.1, fun child hchild => imp hpq (h.2.2 child hchild)⟩

lemma visits {root : Node} {address : Address} (h : root.EachPoint p)
    (hvisits : root.Visits address node) : node.EachPoint p := by
  induction hvisits with
  | root => exact h
  | child _ found _ ih => exact ih.child (List.mem_of_getElem? found)

/-! ### The points that are read -/

lemma span (h : node.EachPoint p) : ∀ point ∈ node.span.points, p point := by
  simp [Node.span, Span.points, h.start, h.stop]

lemma declaratorSpan (h : node.EachPoint p) :
    ∀ point ∈ (Outline.declaratorSpan node).points, p point := by
  unfold Outline.declaratorSpan
  cases hfind : node.children.find? (·.kind = "identifier") with
  | none => exact h.span
  | some child => exact (h.child (List.mem_of_find?_eq_some hfind)).span

end EachPoint

end Node

lemma mem_of_mem_upToArguments {children : List Node} {child : Node}
    (h : child ∈ upToArguments children) : child ∈ children := by
  induction children with
  | nil => cases h
  | cons first rest ih =>
    rw [upToArguments] at h
    split at h
    · rw [List.mem_singleton.mp h]
      exact List.mem_cons_self
    · rcases List.mem_cons.mp h with rfl | h
      · exact List.mem_cons_self
      · exact List.mem_cons_of_mem _ (ih h)

lemma mem_of_nameDot? {children : List Node} {dot : Node} (h : nameDot? children = some dot) :
    dot ∈ children :=
  List.mem_reverse.mp ((List.dropWhile_sublist _).subset (List.mem_of_find?_eq_some h))

lemma exists_of_mem_methodSpans {view : SourceView} {typed : Bool} {children : List Node}
    {span : Span} (h : span ∈ methodSpans view typed children) :
    ∃ child ∈ children, span = child.span := by
  induction children generalizing typed with
  | nil => cases h
  | cons first rest ih =>
    have hrest : ∀ {typed}, span ∈ methodSpans view typed rest →
        ∃ child ∈ first :: rest, span = child.span := by
      intro typed hspan
      obtain ⟨child, hchild, heq⟩ := ih hspan
      exact ⟨child, List.mem_cons_of_mem _ hchild, heq⟩
    rw [methodSpans] at h
    split_ifs at h
    · rcases List.mem_cons.mp h with rfl | h
      · exact ⟨first, List.mem_cons_self, rfl⟩
      · exact hrest h
    · rcases List.mem_cons.mp h with rfl | h
      · exact ⟨first, List.mem_cons_self, rfl⟩
      · exact hrest h
    · exact hrest h

/-- The spans that are read of a node run between points of its tree. -/
lemma Node.EachPoint.spansRead {p : Point → Prop} {node : Node} (h : node.EachPoint p)
    (view : SourceView) :
    ∀ span ∈ node.spansRead view, ∀ point ∈ span.points, p point := by
  intro span hspan
  unfold Node.spansRead at hspan
  split at hspan
  · cases hspan
  · next role _ =>
    cases role with
    | importDeclaration =>
      rw [List.mem_singleton.mp hspan]
      exact h.span
    | classDeclaration =>
      obtain ⟨child, hchild, hspan⟩ := List.mem_flatMap.mp hspan
      unfold classSpans at hspan
      split_ifs at hspan
      · rw [List.mem_singleton.mp hspan]
        exact (h.child hchild).span
      · cases hspan
    | fieldDeclaration =>
      obtain ⟨child, hchild, hspan⟩ := List.mem_flatMap.mp hspan
      unfold fieldSpans at hspan
      split_ifs at hspan
      · rw [List.mem_singleton.mp hspan]
        exact (h.child hchild).span
      · rw [List.mem_singleton.mp hspan]
        exact (h.child hchild).declaratorSpan
      · cases hspan
    | methodInvocation =>
      rcases List.mem_append.mp hspan with hspan | hspan
      · obtain ⟨child, hchild, rfl⟩ := List.mem_map.mp hspan
        exact (h.child (mem_of_mem_upToArguments (List.mem_filter.mp hchild).1)).span
      · obtain ⟨dot, hdot, rfl⟩ := List.mem_map.mp hspan
        have hmem := mem_of_mem_upToArguments (mem_of_nameDot? (Option.mem_toList.mp hdot))
        simp [Span.points, h.start, (h.child hmem).start]
    | methodDeclaration =>
      obtain ⟨child, hchild, rfl⟩ := exists_of_mem_methodSpans hspan
      exact (h.child hchild).span

/-! ### The points that are listed -/

lemma Node.EachPoint.rowsFrom {p : Point → Prop} {pending : List (Nat × Node)}
    {done : Array ListingRow} (hpending : ∀ entry ∈ pending, entry.2.EachPoint p)
    (hdone : ∀ row ∈ done, p row.start ∧ p row.stop) :
    ∀ row ∈ Node.rowsFrom pending done, p row.start ∧ p row.stop := by
  induction pending, done using Node.rowsFrom.induct with
  | case1 done =>
    rw [Node.rowsFrom]
    exact hdone
  | case2 done depth node rest ih =>
    rw [Node.rowsFrom]
    have hnode : node.EachPoint p := hpending _ List.mem_cons_self
    apply ih
    · intro entry hentry
      rcases List.mem_append.mp hentry with hentry | hentry
      · obtain ⟨child, hchild, rfl⟩ := List.mem_map.mp hentry
        exact hnode.child hchild
      · exact hpending entry (List.mem_cons_of_mem _ hentry)
    · intro row hrow
      rcases Array.mem_push.mp hrow with hrow | rfl
      · exact hdone row hrow
      · exact ⟨hnode.start, hnode.stop⟩

lemma Node.EachPoint.rows {p : Point → Prop} {node : Node} (h : node.EachPoint p) :
    ∀ row ∈ node.rows, p row.start ∧ p row.stop := by
  intro row hrow
  refine rowsFrom ?_ (by simp) row (Array.mem_toList_iff.mp hrow)
  simpa using h

lemma exists_mapM_eq_ok {ε α β : Type} {f : α → Except ε β} {as : List α}
    (h : ∀ a ∈ as, ∃ b, f a = .ok b) : ∃ bs, as.mapM f = .ok bs := by
  induction as with
  | nil => exact ⟨[], rfl⟩
  | cons a as ih =>
    obtain ⟨b, hb⟩ := h a List.mem_cons_self
    obtain ⟨bs, hbs⟩ := ih fun a ha => h a (List.mem_cons_of_mem _ ha)
    exact ⟨b :: bs, by simp [hb, hbs, bind, Except.bind, pure, Except.pure]⟩

/-- A tree has a listing where all its points have a place. -/
lemma Node.EachPoint.exists_listingIn_of_places {view : SourceView} {root : Node}
    (h : root.EachPoint fun point => ∃ place, view.place point = .ok place) (indent : String) :
    ∃ listing, root.listingIn view indent = .ok listing := by
  have hplaced : ∀ row ∈ root.rows, ∃ placed, row.placed view = .ok placed := by
    intro row hrow
    obtain ⟨⟨first, hfirst⟩, ⟨last, hlast⟩⟩ := h.rows row hrow
    refine ⟨{ row with start := first, stop := last }, ?_⟩
    simp [ListingRow.placed, hfirst, hlast, bind, Except.bind, pure, Except.pure]
  obtain ⟨rows, hrows⟩ := exists_mapM_eq_ok hplaced
  exact ⟨listRows indent rows, by simp [Node.listingIn, hrows]⟩

/-- A tree in the range of a text has a listing. -/
lemma Node.EachPoint.exists_listingIn {text : String} {root : Node}
    (h : root.EachPoint (Point.InRows (byteRows text))) (indent : String) :
    ∃ listing, root.listingIn (.ofText text) indent = .ok listing := by
  refine exists_listingIn_of_places (h.imp ?_) indent
  intro point hpoint
  obtain ⟨place, hplace, -⟩ := hpoint.charPoint_cases
  exact ⟨place, hplace⟩

/-! ### Visits of trees in range -/

section

variable {text : String} {root : Node}

/-- Spans between points in the rows of a text can be read unless one has an end after a return. The
first that cannot be read is told by a column one past the end of its line. -/
lemma faultIn_cases {spans : List Span}
    (h : ∀ span ∈ spans, ∀ point ∈ span.points, point.InRows (byteRows text)) :
    ((∀ span ∈ spans, ∀ point ∈ span.points, ¬ point.PastReturn (byteRows text)) ∧
        (SourceView.ofText text).faultIn spans = none) ∨
      ¬ (∀ span ∈ spans, ∀ point ∈ span.points, ¬ point.PastReturn (byteRows text)) ∧
        ∃ (row : Int) (length : Nat), (SourceView.ofText text).faultIn spans =
          some (.noColumn (length + 1) row length) := by
  have hcases : ∀ span ∈ spans, ∀ point ∈ span.points, _ :=
    fun span hspan point hpoint => (h span hspan point hpoint).charPoint_cases
  let place (point : Point) : Point := (charPoint (byteRows text) point).toOption.getD point
  have hplace : ∀ span ∈ spans, ∀ point ∈ span.points,
      (SourceView.ofText text).place point = .ok (place point) := by
    intro span hspan point hpoint
    obtain ⟨found, hfound, -⟩ := hcases span hspan point hpoint
    simp [place, SourceView.ofText, hfound, Except.toOption]
  rw [(SourceView.ofText text).faultIn_eq_find? hplace]
  cases hfind : (spans.flatMap Span.points).find? fun point =>
      (SourceView.ofText text).lines.Outside (place point) with
  | none =>
    left
    refine ⟨?_, rfl⟩
    intro span hspan point hpoint hpast
    have hmem : point ∈ spans.flatMap Span.points := List.mem_flatMap.mpr ⟨span, hspan, hpoint⟩
    have hinside : ¬ (splitLines text).Outside (place point) :=
      fun h => List.find?_eq_none.mp hfind point hmem (decide_eq_true h)
    obtain ⟨found, hfound, ⟨hnot, -⟩ | ⟨-, houtside, -⟩⟩ := hcases span hspan point hpoint
    · exact hnot hpast
    · apply hinside
      simpa [place, hfound, Except.toOption] using houtside
  | some point =>
    right
    obtain ⟨span, hspan, hpoint⟩ := List.mem_flatMap.mp (List.mem_of_find?_eq_some hfind)
    have houtside : (SourceView.ofText text).lines.Outside (place point) := by
      have := List.find?_some hfind
      simpa only [decide_eq_true_eq] using this
    obtain ⟨found, hfound, ⟨-, hinside⟩ | ⟨hpast, -, length, hfault⟩⟩ :=
      hcases span hspan point hpoint
    · refine absurd ?_ hinside
      simpa [place, hfound, Except.toOption, SourceView.ofText] using houtside
    · refine ⟨fun hnone => hnone span hspan point hpoint hpast, point.row, length, ?_⟩
      simpa [place, hfound, Except.toOption, SourceView.ofText] using hfault

lemma Node.EachPoint.exists_place {p : Point → Prop} {node : Node} (h : node.EachPoint p)
    (hp : ∀ point, p point → point.InRows (byteRows text)) :
    ∃ place, (SourceView.ofText text).place node.start = .ok place := by
  obtain ⟨place, hplace, -⟩ := (hp _ h.start).charPoint_cases
  exact ⟨place, hplace⟩

/-- A visit of a tree in range ends in an error just in case a span is read that has an end after a
return, and the error is then over a column one past the end of its line. -/
lemma failure_visit_cases (lines : Lines) (h : root.EachPoint (Point.InRows (byteRows text))) :
    ((∀ address node, root.Visits address node → ∀ span ∈ node.spansRead (.ofText text),
          ∀ point ∈ span.points, ¬ point.PastReturn (byteRows text)) ∧
        (buildContext lines (.ofText text) root).failure = none) ∨
      ¬ (∀ address node, root.Visits address node → ∀ span ∈ node.spansRead (.ofText text),
          ∀ point ∈ span.points, ¬ point.PastReturn (byteRows text)) ∧
        ∃ (row : Int) (length : Nat), (buildContext lines (.ofText text) root).failure =
          some (.span (.noColumn (length + 1) row length)) := by
  have closed : (({} : Store String).newFile lines).1.Closed :=
    (Store.forest_empty.newFile lines).closed
  have hsize : fileId < (({} : Store String).newFile lines).1.size := by
    simp [fileId, Store.newFile]
  have hbuild : buildContext lines (.ofText text) root =
      (({} : Store String).newFile lines).1.visit (.ofText text) root fileId := rfl
  have hrange : ∀ p ∈ root.visited, p.2.EachPoint (Point.InRows (byteRows text)) :=
    fun p hp => h.visits (Node.mem_visited_iff.mp hp)
  have hstart : ∀ p ∈ root.visited, ∃ place,
      (SourceView.ofText text).place p.2.start = .ok place :=
    fun p hp => (hrange p hp).exists_place fun _ => id
  have hcases : ∀ p ∈ root.visited, _ :=
    fun p hp => faultIn_cases ((hrange p hp).spansRead (.ofText text))
  cases hfind : root.visited.findSome? fun p =>
      (SourceView.ofText text).faultIn (p.2.spansRead (.ofText text)) with
  | none =>
    have hread := List.findSome?_eq_none_iff.mp hfind
    left
    refine ⟨?_, failure_visit_eq_none closed hsize hstart hread⟩
    intro address node hvisits
    have hp := Node.mem_visited_iff.mpr hvisits
    rcases hcases _ hp with ⟨hnone, -⟩ | ⟨-, row, length, hfault⟩
    · exact hnone
    · rw [hread _ hp] at hfault
      cases hfault
  | some error =>
    obtain ⟨before, ⟨address, node⟩, after, hvisited, herror, hbefore⟩ :=
      List.findSome?_eq_some_iff.mp hfind
    have hp : (address, node) ∈ root.visited := by simp [hvisited]
    right
    rcases hcases _ hp with ⟨-, hnone⟩ | ⟨hpast, row, length, hfault⟩
    · rw [hnone] at herror
      cases herror
    · obtain ⟨progress, -, hvisit⟩ :=
        visit_eq_of_fault closed hsize hvisited hstart hbefore hfault
      refine ⟨fun hall => hpast (hall address node (Node.mem_visited_iff.mp hp)), row, length, ?_⟩
      rw [hbuild, hvisit]

/-- A visit of a tree in the range of a text without returns does not fail. -/
lemma failure_visit_of_no_return (lines : Lines) (hreturn : '\r' ∉ text.toList)
    (h : root.EachPoint (Point.InRows (byteRows text))) :
    (buildContext lines (.ofText text) root).failure = none := by
  rcases failure_visit_cases lines h with ⟨-, hnone⟩ | ⟨hpast, -⟩
  · exact hnone
  · exact absurd (fun _ _ _ _ _ point _ => point.not_pastReturn hreturn) hpast

end

/-- A text with a tree in its range, and with contexts whose nesting there is room for, has a report
unless a span is read that begins or ends after a carriage return at the end of its row. It is then
refused over the column one past the end of the line, which is without the return. -/
theorem summarize_fails_only_past_return (room : Room String) (registry : Registry)
    (grammar : Grammar) (text : String) (language : Language) (output : OutputFormat)
    {parser : SourceParser} (hparser : registry.forLanguage language.name = .ok parser)
    (hrange : (grammar text).EachPoint (Point.InRows (byteRows text)))
    (hfits : room.fits output
      (buildContext (splitLines text) (.ofText text) (grammar text)).outline = true) :
    ((∃ report, summarize room registry grammar text language output = .ok report) ↔
      ∀ address node, (grammar text).Visits address node → ∀ span ∈ node.spansRead (.ofText text),
        ∀ point ∈ span.points, ¬ point.PastReturn (byteRows text)) ∧
    ∀ error, summarize room registry grammar text language output = .error error →
      ∃ (row : Int) (length : Nat), error = .visit (.span (.noColumn (length + 1) row length)) := by
  rcases failure_visit_cases (splitLines text) hrange with
    ⟨hnone, hok⟩ | ⟨hpast, row, length, hfail⟩
  · simp only [summarize_eq hparser, hok, Visited.render, if_pos hfits]
    exact ⟨iff_of_true ⟨_, rfl⟩ hnone, nofun⟩
  · simp only [summarize_eq hparser, hfail]
    refine ⟨iff_of_false nofun hpast, ?_⟩
    intro error herror
    cases herror
    exact ⟨row, length, rfl⟩

/-- A text whose first line ends in a carriage return and a line feed. -/
def importText : String := "import a;\r\nx"

/-- A tree of that text with an import that ends at a column. -/
def importTree (column : Int) : Node :=
  ⟨"program", ⟨0, 0⟩, ⟨1, 1⟩, [⟨"import_declaration", ⟨0, 0⟩, ⟨0, column⟩, []⟩]⟩

/-- With an import that ends before the return nothing is read past one, since there is a report. -/
theorem summarize_import_before_return :
    let grammar : Grammar := fun _ => importTree 9
    (grammar importText).EachPoint (Point.InRows (byteRows importText)) ∧
      summarize {} .bundled grammar importText .java .text = .ok "File\n  import a;\n" ∧
      ∀ address node, (grammar importText).Visits address node →
        ∀ span ∈ node.spansRead (.ofText importText),
          ∀ point ∈ span.points, ¬ point.PastReturn (byteRows importText) := by
  intro grammar
  have hrange : (grammar importText).EachPoint (Point.InRows (byteRows importText)) := by
    decide +kernel
  have hreport :
      summarize {} .bundled grammar importText .java .text = .ok "File\n  import a;\n" := by
    decide +kernel
  have hparser : Registry.bundled.forLanguage Language.java.name = .ok .java := rfl
  have hiff :=
    (summarize_fails_only_past_return {} .bundled grammar importText .java .text hparser hrange
      rfl).1
  exact ⟨hrange, hreport, hiff.mp ⟨_, hreport⟩⟩

/-- With an import that ends after the return there is no report, though the tree is in range. -/
theorem summarize_import_past_return :
    (importTree 10).EachPoint (Point.InRows (byteRows importText)) ∧
      summarize {} .bundled (fun _ => importTree 10) importText .java .text =
        .error (.visit (.span (.noColumn 10 0 9))) := by
  constructor
  · decide +kernel
  · decide +kernel

end Outline
