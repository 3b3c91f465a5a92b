import Outline.Proofs.Traversal.Range

/-!
# Views that agree

A tree is seen through a view by the lines of the view and by the places of its own points, and by
nothing else. Two views that agree on these give the tree the same listing, find the same at each of
its nodes, and a visit through one is a visit through the other.
-/

namespace Outline

/-- The dot of a name stands among the children of the call. -/
lemma mem_of_scanCall {view : SourceView} {children : List Node} {scan : CallScan} {dot : Node}
    (h : scanCall view {} children = .ok scan) (hdot : scan.nameDot = some dot) :
    dot ∈ children := by
  have hname : scan.nameDot = nameDot? ([] ++ upToArguments children) := nameDot_scanCall rfl rfl h
  rw [hname, List.nil_append] at hdot
  exact mem_of_mem_upToArguments (mem_of_nameDot? hdot)

lemma mapM_congr {ε α β : Type} {f g : α → Except ε β} {as : List α}
    (h : ∀ a ∈ as, f a = g a) : as.mapM f = as.mapM g := by
  induction as with
  | nil => rfl
  | cons a as ih =>
    rw [List.mapM_cons, List.mapM_cons, h a List.mem_cons_self,
      ih fun b hb => h b (List.mem_cons_of_mem _ hb)]

/-- Two views agree on a tree if they have the same lines and the points of the tree have the same
places in both. -/
structure SourceView.AgreeOn (view other : SourceView) (node : Node) : Prop where
  lines  : view.lines = other.lines
  points : node.EachPoint fun point => view.place point = other.place point

namespace SourceView.AgreeOn

variable {view other : SourceView} {node : Node}

lemma child (h : view.AgreeOn other node) {below : Node} (hbelow : below ∈ node.children) :
    view.AgreeOn other below :=
  ⟨h.lines, h.points.child hbelow⟩

/-! ### Texts -/

lemma spanText_eq {start stop : Point} (hlines : view.lines = other.lines)
    (hstart : view.place start = other.place start) (hstop : view.place stop = other.place stop) :
    view.spanText start stop = other.spanText start stop := by
  rw [spanText, spanText, hlines, hstart, hstop]

lemma text_eq (h : view.AgreeOn other node) : node.text view = node.text other :=
  spanText_eq h.lines h.points.start h.points.stop

lemma notice?_eq (h : view.AgreeOn other node) (due : Bool) (missing : MissingPart) :
    node.notice? view due missing = node.notice? other due missing := by
  rw [Node.notice?, Node.notice?, h.points.start]

/-! ### Scans -/

/-- A scan that goes from child to child, each step the same, is the same. -/
lemma foldlM_eq {σ : Type} {step : SourceView → σ → Node → Except SpanError σ}
    (hstep : ∀ scan child, view.AgreeOn other child → step view scan child = step other scan child)
    {children : List Node} (h : ∀ child ∈ children, view.AgreeOn other child) (scan : σ) :
    children.foldlM (step view) scan = children.foldlM (step other) scan := by
  induction children generalizing scan with
  | nil => rfl
  | cons child rest ih =>
    rw [List.foldlM_cons, List.foldlM_cons, hstep scan child (h child List.mem_cons_self)]
    congr 1
    funext next
    exact ih (fun below hbelow => h below (List.mem_cons_of_mem _ hbelow)) next

lemma classStep_eq (scan : ClassScan) (child : Node) (h : view.AgreeOn other child) :
    scan.step view child = scan.step other child := by
  rw [ClassScan.step, ClassScan.step, h.text_eq]

lemma declaratorName_eq (h : view.AgreeOn other node) :
    declaratorName view node = declaratorName other node := by
  rw [declaratorName, declaratorName, h.text_eq]
  cases hfind : node.children.find? (·.kind = "identifier") with
  | none => rfl
  | some child => exact (h.child (List.mem_of_find?_eq_some hfind)).text_eq

lemma fieldStep_eq (scan : FieldScan) (child : Node) (h : view.AgreeOn other child) :
    scan.step view child = scan.step other child := by
  rw [FieldScan.step, FieldScan.step, h.text_eq, h.declaratorName_eq]

lemma methodStep_eq (scan : MethodScan) (child : Node) (h : view.AgreeOn other child) :
    scan.step view child = scan.step other child := by
  rw [MethodScan.step, MethodScan.step, h.text_eq]

lemma scanCall_eq {children : List Node} (h : ∀ child ∈ children, view.AgreeOn other child)
    (scan : CallScan) : scanCall view scan children = scanCall other scan children := by
  induction children generalizing scan with
  | nil => rfl
  | cons child rest ih =>
    have hrest : ∀ scan, scanCall view scan rest = scanCall other scan rest :=
      ih fun below hbelow => h below (List.mem_cons_of_mem _ hbelow)
    simp only [scanCall, hrest, (h child List.mem_cons_self).text_eq]

lemma receiver_eq (h : view.AgreeOn other node) {dot : Option Node}
    (hdot : ∀ child, dot = some child → child ∈ node.children) :
    receiver view node dot = receiver other node dot := by
  cases dot with
  | none => rfl
  | some child =>
    rw [receiver, receiver,
      spanText_eq h.lines h.points.start (h.child (hdot child rfl)).points.start]

/-! ### Findings -/

lemma callFinding_eq (h : view.AgreeOn other node) :
    callFinding view node = callFinding other node := by
  rw [callFinding, callFinding, scanCall_eq fun _ => h.child]
  cases hscan : scanCall other {} node.children with
  | error error => rfl
  | ok scan =>
    -- the receiver ends at the dot that the scan found, which is a child like any other
    have hreceiver : receiver view node scan.nameDot = receiver other node scan.nameDot :=
      h.receiver_eq fun _ => mem_of_scanCall hscan
    simp only [bind, Except.bind, hreceiver, h.notice?_eq]

lemma finding_eq (h : view.AgreeOn other node) (role : Role) :
    role.finding view node = role.finding other node := by
  have hchildren : ∀ child ∈ node.children, view.AgreeOn other child := fun _ => h.child
  cases role with
  | importDeclaration => rw [Role.finding, Role.finding, importFinding, importFinding, h.text_eq]
  | classDeclaration =>
    simp only [Role.finding, classFinding, foldlM_eq classStep_eq hchildren, h.notice?_eq]
  | fieldDeclaration =>
    simp only [Role.finding, fieldFinding, foldlM_eq fieldStep_eq hchildren, h.notice?_eq]
  | methodInvocation => exact h.callFinding_eq
  | methodDeclaration =>
    simp only [Role.finding, methodFinding, foldlM_eq methodStep_eq hchildren, h.notice?_eq]

/-! ### Visits and listings -/

lemma interpret_eq (h : view.AgreeOn other node) (progress : Progress) (owner : Nat) :
    progress.interpret view owner node = progress.interpret other owner node := by
  simp only [Progress.interpret, h.finding_eq]

lemma handle_eq {nodes : List (Address × Node)} (h : ∀ p ∈ nodes, view.AgreeOn other p.2)
    (contexts : Address → Nat) (progress : Progress) :
    progress.handle view contexts nodes = progress.handle other contexts nodes := by
  induction nodes generalizing contexts progress with
  | nil => rfl
  | cons p rest ih =>
    rw [Progress.handle, Progress.handle, (h p List.mem_cons_self).interpret_eq]
    cases progress.interpret other (contexts p.1.dropLast) p.2 with
    | error error => rfl
    | ok answer => exact ih (fun q hq => h q (List.mem_cons_of_mem _ hq)) _ _

/-- A visit is the same through views that agree on the tree. -/
lemma visit_eq {root : Node} (h : view.AgreeOn other root) (store : Store String) (target : Nat) :
    store.visit view root target = store.visit other root target := by
  rw [store.visit_eq_handle, store.visit_eq_handle]
  apply handle_eq
  intro p hp
  exact ⟨h.lines, h.points.visits (Node.mem_visited_iff.mp hp)⟩

/-- A listing is the same through views that agree on the tree. -/
lemma listingIn_eq {root : Node} (h : view.AgreeOn other root) (indent : String) :
    root.listingIn view indent = root.listingIn other indent := by
  have hrows : root.rows.mapM (·.placed view) = root.rows.mapM (·.placed other) := by
    apply mapM_congr
    intro row hrow
    obtain ⟨hstart, hstop⟩ := h.points.rows row hrow
    rw [ListingRow.placed, ListingRow.placed, hstart, hstop]
  rw [Node.listingIn, Node.listingIn, hrows]

end SourceView.AgreeOn

/-! ### Points without a place -/

namespace SourceView

/-- Where a point lies, and the point itself where it has no place. -/
def placeOr (view : SourceView) (point : Point) : Point :=
  (view.place point).toOption.getD point

/-- A view in which every point has a place. -/
def placing (view : SourceView) : SourceView :=
  ⟨view.lines, fun point => .ok (view.placeOr point)⟩

lemma agreeOn_placing {view : SourceView} {root : Node}
    (h : root.EachPoint fun point => ∃ place, view.place point = .ok place) :
    view.AgreeOn view.placing root := by
  refine ⟨rfl, h.imp ?_⟩
  rintro point ⟨place, hplace⟩
  change view.place point = .ok (view.placeOr point)
  rw [placeOr, hplace]
  rfl

end SourceView

/-- Where all points of a tree have a place, a visit fails over nothing but a point outside the
lines. -/
lemma failure_visit_of_places {view : SourceView} {root : Node} {store : Store String}
    {target : Nat} (closed : store.Closed) (htarget : target < store.size)
    (h : root.EachPoint fun point => ∃ place, view.place point = .ok place) {failure : VisitError}
    (hfailure : (store.visit view root target).failure = some failure) :
    ∃ point, failure = .span (view.lines.faultAt point) := by
  have hplace : ∀ point, view.placing.place point = .ok (view.placeOr point) := fun _ => rfl
  rw [(SourceView.agreeOn_placing h).visit_eq] at hfailure
  cases hfind : root.visited.findSome? fun p => p.2.pointOutside? view.placing view.placeOr with
  | none =>
    rw [visit_of_inside hplace closed htarget (List.findSome?_eq_none_iff.mp hfind)] at hfailure
    cases hfailure
  | some point =>
    obtain ⟨before, ⟨address, node⟩, after, hvisited, hpoint, hbefore⟩ :=
      List.findSome?_eq_some_iff.mp hfind
    obtain ⟨progress, -, hvisit⟩ := visit_of_outside hplace closed htarget hvisited hbefore hpoint
    rw [hvisit] at hfailure
    cases hfailure
    exact ⟨view.placeOr point, rfl⟩

end Outline
