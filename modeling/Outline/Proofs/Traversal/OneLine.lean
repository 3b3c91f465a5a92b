import Outline.Proofs.Context.Layout
import Outline.Proofs.Source.Rows
import Outline.Proofs.Summary

/-!
# One record, one line

No line of a source holds a line feed, and all that is recorded of a source is cut from its lines,
joined without breaks, or stands for what is missing. So every heading and every record of a context
stays on one line of a report, and the report is cut at its line feeds into just these lines.
-/

namespace Outline

/-- Whether a text stays on one line. -/
def OneLine (text : String) : Prop :=
  '\n' ∉ text.toList

instance (text : String) : Decidable (OneLine text) :=
  inferInstanceAs (Decidable (_ ∉ _))

/-! ### Texts of a source -/

lemma OneLine.append {text more : String} (h : OneLine text) (hmore : OneLine more) :
    OneLine (text ++ more) := by
  rw [OneLine, String.toList_append, List.mem_append, not_or]
  exact ⟨h, hmore⟩

lemma OneLine.strip {text : String} (h : OneLine text) : OneLine (Text.strip text) := by
  rw [OneLine, Text.strip, String.toList_ofList, Text.stripEnd, List.mem_reverse]
  intro hmem
  have hinner := List.mem_reverse.mp ((List.dropWhile_sublist _).subset hmem)
  exact h ((List.dropWhile_sublist _).subset hinner)

lemma oneLine_intercalate {separator : String} (hseparator : OneLine separator)
    {names : List String} (h : ∀ name ∈ names, OneLine name) :
    OneLine (separator.intercalate names) := by
  induction names with
  | nil => simp [OneLine]
  | cons name names ih =>
    cases names with
    | nil => simpa using h
    | cons next names =>
      rw [String.intercalate_cons_cons]
      exact ((h name List.mem_cons_self).append hseparator).append
        (ih fun other hother => h other (List.mem_cons_of_mem _ hother))

lemma oneLine_joinNames {names : List String} (h : ∀ name ∈ names, OneLine name) :
    OneLine (joinNames names) := by
  rw [joinNames]
  split
  · decide
  · exact oneLine_intercalate (by decide) h

lemma oneLine_splitLines (text : String) : ∀ line ∈ splitLines text, OneLine line := by
  intro line hline
  rw [splitLines, List.mem_toArray, List.mem_map] at hline
  obtain ⟨cut, hcut, rfl⟩ := hline
  rw [OneLine, String.toList_ofList]
  exact fun hfeed => not_mem_of_mem_cutAt hcut ((dropReturn_isPrefix cut).subset hfeed)

/-- A slice of lines has no character but theirs. -/
lemma Lines.exists_of_mem_slice {lines : Lines} {start stop : Place} {c : Char}
    (h : c ∈ lines.slice start stop) : ∃ line ∈ lines, c ∈ line.toList := by
  have hchars : ∀ {row}, c ∈ lines.chars row → ∃ line ∈ lines, c ∈ line.toList := by
    intro row hc
    rw [chars, Array.getD_eq_getD_getElem?] at hc
    cases hline : lines[row]? with
    | none => simp [hline] at hc
    | some line =>
      rw [hline, Option.getD_some] at hc
      exact ⟨line, Array.mem_of_getElem? hline, hc⟩
  -- all three parts of a slice are cut from rows
  rw [slice] at h
  split at h
  · exact hchars (List.mem_of_mem_take (List.mem_of_mem_drop h))
  · rcases List.mem_append.mp h with h | h
    · rcases List.mem_append.mp h with h | h
      · exact hchars (List.mem_of_mem_drop h)
      · obtain ⟨line, hline, hc⟩ := List.mem_flatMap.mp h
        obtain ⟨k, hk, rfl⟩ := Array.mem_extract_iff_getElem.mp (Array.mem_toList_iff.mp hline)
        exact ⟨_, Array.getElem_mem _, hc⟩
    · exact hchars (List.mem_of_mem_take h)

section

variable {view : SourceView} (hlines : ∀ line ∈ view.lines, OneLine line)

include hlines

lemma oneLine_spanText {start stop : Point} {text : String}
    (h : view.spanText start stop = .ok text) : OneLine text := by
  obtain ⟨first, -, h⟩ := bind_eq_ok h
  obtain ⟨last, -, h⟩ := bind_eq_ok h
  obtain ⟨start, -, h⟩ := bind_eq_ok h
  obtain ⟨stop, -, h⟩ := bind_eq_ok h
  cases h
  rw [OneLine, String.toList_ofList]
  intro hfeed
  obtain ⟨line, hline, hmem⟩ := Lines.exists_of_mem_slice hfeed
  exact hlines line hline hmem

/-- What is made of the text of a node is made of a text on one line. -/
lemma exists_oneLine_of_text {σ : Type} {node : Node} {make : String → σ} {made : σ}
    (h : (do return make (← node.text view)) = Except.ok made) :
    ∃ text, OneLine text ∧ made = make text := by
  obtain ⟨text, htext, h⟩ := bind_eq_ok h
  cases h
  exact ⟨text, oneLine_spanText hlines htext, rfl⟩

/-! ### Scans -/

omit hlines in
/-- What each step of a scan keeps is kept by the scan. -/
lemma foldlM_keeps {σ : Type} {Keeps : σ → Prop} {step : σ → Node → Except SpanError σ}
    (hstep : ∀ {scan child next}, Keeps scan → step scan child = .ok next → Keeps next)
    {children : List Node} {scan result : σ} (hscan : Keeps scan)
    (h : children.foldlM step scan = .ok result) : Keeps result := by
  induction children generalizing scan with
  | nil =>
    cases h
    exact hscan
  | cons child rest ih =>
    rw [List.foldlM_cons] at h
    obtain ⟨next, hnext, h⟩ := bind_eq_ok h
    exact ih (hstep hscan hnext) h

lemma oneLine_classStep {scan next : ClassScan} {child : Node}
    (hscan : OneLine scan.modifier ∧ OneLine scan.identifier)
    (h : scan.step view child = .ok next) : OneLine next.modifier ∧ OneLine next.identifier := by
  unfold ClassScan.step at h
  split_ifs at h
  · obtain ⟨text, htext, rfl⟩ := exists_oneLine_of_text hlines h
    exact ⟨htext, hscan.2⟩
  · obtain ⟨text, htext, rfl⟩ := exists_oneLine_of_text hlines h
    exact ⟨hscan.1, htext⟩
  · cases h
    exact hscan

lemma oneLine_declaratorName {declarator : Node} {name : String}
    (h : declaratorName view declarator = .ok name) : OneLine name := by
  rw [declaratorName] at h
  split at h
  · exact oneLine_spanText hlines h
  · exact oneLine_spanText hlines h

lemma oneLine_fieldStep {scan next : FieldScan} {child : Node}
    (hscan : OneLine scan.modifier ∧ OneLine scan.typeName ∧
      ∀ name ∈ scan.identifiers, OneLine name)
    (h : scan.step view child = .ok next) :
    OneLine next.modifier ∧ OneLine next.typeName ∧ ∀ name ∈ next.identifiers, OneLine name := by
  obtain ⟨hmodifier, htype, hnames⟩ := hscan
  unfold FieldScan.step at h
  split_ifs at h
  · obtain ⟨text, htext, rfl⟩ := exists_oneLine_of_text hlines h
    exact ⟨htext, htype, hnames⟩
  · obtain ⟨text, htext, rfl⟩ := exists_oneLine_of_text hlines h
    exact ⟨hmodifier, htext, hnames⟩
  · obtain ⟨name, hname, h⟩ := bind_eq_ok h
    cases h
    refine ⟨hmodifier, htype, ?_⟩
    intro other hother
    rcases List.mem_append.mp hother with hother | hother
    · exact hnames other hother
    · rw [List.mem_singleton.mp hother]
      exact oneLine_declaratorName hlines hname
  · cases h
    exact ⟨hmodifier, htype, hnames⟩

lemma oneLine_methodStep {scan next : MethodScan} {child : Node}
    (hscan : OneLine scan.modifiers ∧ OneLine scan.identifier ∧ OneLine scan.parameters ∧
      OneLine scan.returnType)
    (h : scan.step view child = .ok next) :
    OneLine next.modifiers ∧ OneLine next.identifier ∧ OneLine next.parameters ∧
      OneLine next.returnType := by
  obtain ⟨hmodifiers, hidentifier, hparameters, htype⟩ := hscan
  unfold MethodScan.step at h
  split_ifs at h
  · obtain ⟨text, htext, rfl⟩ := exists_oneLine_of_text hlines h
    exact ⟨htext, hidentifier, hparameters, htype⟩
  · obtain ⟨text, htext, rfl⟩ := exists_oneLine_of_text hlines h
    exact ⟨hmodifiers, htext, hparameters, htype⟩
  · obtain ⟨text, htext, rfl⟩ := exists_oneLine_of_text hlines h
    exact ⟨hmodifiers, hidentifier, htext, htype⟩
  · obtain ⟨text, htext, rfl⟩ := exists_oneLine_of_text hlines h
    exact ⟨hmodifiers, hidentifier, hparameters, htext⟩
  · cases h
    exact ⟨hmodifiers, hidentifier, hparameters, htype⟩

lemma oneLine_scanCall {children : List Node} {scan result : CallScan}
    (hscan : OneLine scan.identifier ∧ OneLine scan.arguments)
    (h : scanCall view scan children = .ok result) :
    OneLine result.identifier ∧ OneLine result.arguments := by
  induction children generalizing scan with
  | nil =>
    cases h
    exact hscan
  | cons child rest ih =>
    rw [scanCall] at h
    split_ifs at h
    · refine ih ?_ h
      exact hscan
    · obtain ⟨name, hname, h⟩ := bind_eq_ok h
      refine ih ?_ h
      exact ⟨oneLine_spanText hlines hname, hscan.2⟩
    · obtain ⟨arguments, harguments, rfl⟩ := exists_oneLine_of_text hlines h
      exact ⟨hscan.1, harguments⟩
    · exact ih hscan h

lemma oneLine_receiver {node : Node} {dot : Option Node} {target : String}
    (h : receiver view node dot = .ok target) : OneLine target := by
  cases dot with
  | none =>
    cases h
    decide
  | some dot =>
    obtain ⟨text, htext, h⟩ := bind_eq_ok h
    cases h
    exact (oneLine_spanText hlines htext).strip

end

/-! ### Facts -/

/-- The texts that a fact is made of. -/
def Fact.texts : Fact → List String
  | .imported text                   => [text]
  | .classOpened modifier identifier => [modifier, identifier]
  | .functionOpened modifiers identifier parameters returnType =>
    [modifiers, identifier, parameters, returnType]
  | .field entry      => [entry.modifier, entry.identifier, entry.typeName]
  | .invocation call  => [call.target, call.identifier, call.arguments]

/-- All texts of a fact that is found in lines stay on one line. -/
lemma Role.oneLine_texts {role : Role} {view : SourceView}
    (hlines : ∀ line ∈ view.lines, OneLine line) {node : Node} {finding : Finding}
    (h : role.finding view node = .ok finding) : ∀ text ∈ finding.fact.texts, OneLine text := by
  cases role with
  | importDeclaration =>
    obtain ⟨text, htext, rfl⟩ := exists_oneLine_of_text hlines h
    simpa [Fact.texts] using htext
  | classDeclaration =>
    obtain ⟨scan, hscan, h⟩ := bind_eq_ok h
    obtain ⟨notice, -, h⟩ := bind_eq_ok h
    cases h
    have hparts := foldlM_keeps (oneLine_classStep hlines) (by decide) hscan
    simpa [Fact.texts] using hparts
  | fieldDeclaration =>
    obtain ⟨scan, hscan, h⟩ := bind_eq_ok h
    obtain ⟨notice, -, h⟩ := bind_eq_ok h
    cases h
    obtain ⟨hmodifier, htype, hnames⟩ :=
      foldlM_keeps (oneLine_fieldStep hlines) (by decide) hscan
    simpa [Fact.texts] using ⟨hmodifier, oneLine_joinNames hnames, htype⟩
  | methodInvocation =>
    obtain ⟨scan, hscan, h⟩ := bind_eq_ok h
    obtain ⟨target, htarget, h⟩ := bind_eq_ok h
    obtain ⟨notice, -, h⟩ := bind_eq_ok h
    cases h
    have hparts := oneLine_scanCall hlines (by decide) hscan
    simpa [Fact.texts] using ⟨oneLine_receiver hlines htarget, hparts⟩
  | methodDeclaration =>
    obtain ⟨scan, hscan, h⟩ := bind_eq_ok h
    obtain ⟨notice, -, h⟩ := bind_eq_ok h
    cases h
    have hparts := foldlM_keeps (oneLine_methodStep hlines) (by decide) hscan
    simpa [Fact.texts] using hparts

/-! ### Contexts -/

/-- Whether the heading of a context, its imports and the values of its records each stay on one
line. -/
structure Contents.Unbroken (contents : Contents String) : Prop where
  header      : OneLine contents.shape.header
  imports     : ∀ part ∈ contents.imports, OneLine part
  fields      : ∀ entry ∈ contents.fields,
    OneLine entry.modifier ∧ OneLine entry.identifier ∧ OneLine entry.typeName
  invocations : ∀ call ∈ contents.invocations,
    OneLine call.target ∧ OneLine call.identifier ∧ OneLine call.arguments

lemma Fact.oneLine_header {fact : Fact} {shape : Shape String} (h : fact.shape? = some shape)
    (htexts : ∀ text ∈ fact.texts, OneLine text) : OneLine shape.header := by
  cases fact with
  | classOpened modifier identifier =>
    cases h
    simp only [Fact.texts, List.forall_mem_cons] at htexts
    obtain ⟨hmodifier, hidentifier, -⟩ := htexts
    exact (hmodifier.append (by decide)).append hidentifier
  | functionOpened modifiers identifier parameters returnType =>
    cases h
    simp only [Fact.texts, List.forall_mem_cons] at htexts
    obtain ⟨hmodifiers, hidentifier, hparameters, htype, -⟩ := htexts
    exact (((((hmodifiers.append (by decide)).append hidentifier).append (by decide)).append
      hparameters).append (by decide)).append htype
  | _ => cases h

/-- A context with a heading alone is unbroken if its heading is. -/
lemma Contents.unbroken_of_header {shape : Shape String} (h : OneLine shape.header) :
    ({ shape } : Contents String).Unbroken :=
  ⟨h, by simp, by simp, by simp⟩

lemma Contents.Unbroken.extend {context : Context String} (h : context.Unbroken) (number : Nat)
    {fact : Fact} (htexts : ∀ text ∈ fact.texts, OneLine text) :
    (context.extend [⟨number, fact⟩]).Unbroken := by
  cases fact with
  | imported text =>
    rw [Context.extend_imported]
    refine ⟨h.header, Array.forall_mem_push.mpr ⟨?_, h.imports⟩, h.fields, h.invocations⟩
    simpa [Fact.texts] using htexts
  | field entry =>
    rw [Context.extend_field]
    refine ⟨h.header, h.imports, Array.forall_mem_push.mpr ⟨?_, h.fields⟩, h.invocations⟩
    simpa [Fact.texts] using htexts
  | invocation call =>
    rw [Context.extend_invocation]
    refine ⟨h.header, h.imports, h.fields, Array.forall_mem_push.mpr ⟨?_, h.invocations⟩⟩
    simpa [Fact.texts] using htexts
  | classOpened | functionOpened =>
    rw [Context.extend_opened _ _ rfl]
    exact ⟨h.header, h.imports, h.fields, h.invocations⟩

/-- Whether all contexts of a store are unbroken. -/
def Store.Unbroken (store : Store String) : Prop :=
  ∀ id < store.size, (store.context id).Unbroken

lemma Store.Unbroken.recorded {store : Store String} (h : store.Unbroken) {owner : Nat}
    (howner : owner < store.size) {fact : Fact} (htexts : ∀ text ∈ fact.texts, OneLine text) :
    (store.recorded owner fact).Unbroken := by
  intro id hid
  by_cases hold : id < store.size
  · rw [context_recorded howner fact hold]
    split
    · exact (h id hold).extend _ htexts
    · rw [Context.extend_nil]
      exact h id hold
  · -- the one context that is new has a heading and nothing else
    rw [size_recorded] at hid
    obtain ⟨shape, hshape⟩ : ∃ shape, fact.shape? = some shape := by
      rw [← Option.isSome_iff_exists]
      by_contra hnone
      rw [if_neg hnone] at hid
      exact hold hid
    rw [hshape] at hid
    have hnew : id = store.size := by simp at hid; omega
    rw [hnew, context_recorded_size howner hshape]
    exact Contents.unbroken_of_header (fact.oneLine_header hshape htexts)

/-- All contexts that come of a text are unbroken. -/
lemma unbroken_visit (text : String) (root : Node) :
    (buildContext (splitLines text) (.ofText text) root).progress.store.Unbroken := by
  have well : (buildContext (splitLines text) (.ofText text) root).Well Store.Unbroken 1 := by
    apply (forest_fileStart (splitLines text)).well_visit Nat.zero_lt_one root
    · intro store owner node finding _ howner hfinding h
      obtain ⟨role, -, hrole⟩ := Option.map_eq_some_iff.mp hfinding
      exact h.recorded howner (Role.oneLine_texts (oneLine_splitLines text) hrole)
    · intro id hid
      rw [Nat.lt_one_iff.mp hid]
      exact Contents.unbroken_of_header (by decide)
  exact well.keeps

/-! ### Lines of a report -/

lemma FieldEntry.oneLine_render {entry : FieldEntry String}
    (h : OneLine entry.modifier ∧ OneLine entry.identifier ∧ OneLine entry.typeName) :
    OneLine entry.render :=
  (((h.1.append (by decide)).append h.2.1).append (by decide)).append h.2.2

lemma Invocation.oneLine_render {call : Invocation String}
    (h : OneLine call.target ∧ OneLine call.identifier ∧ OneLine call.arguments) :
    OneLine call.render := by
  rw [render]
  split
  · exact h.2.1.append h.2.2
  · exact ((h.1.append (by decide)).append h.2.1).append h.2.2

lemma oneLine_indented (indent : Int) {text : String} (h : OneLine text) :
    OneLine (indented indent text) := by
  refine OneLine.append ?_ h
  rw [OneLine, String.toList_ofList, List.mem_replicate]
  exact fun hfeed => absurd hfeed.2 (by decide)

/-- The lines that an unbroken context has in a report are lines. -/
lemma Contents.Unbroken.ownLines {contents : Contents String} (h : contents.Unbroken)
    (indent : Int) : ∀ line ∈ contents.ownLines indent, OneLine line := by
  have hentries : ∀ text ∈ contents.entries, OneLine text := by
    intro text htext
    simp only [entries, List.mem_append, List.mem_map, Array.mem_toList_iff] at htext
    rcases htext with (⟨part, hpart, rfl⟩ | ⟨entry, hentry, rfl⟩) | ⟨call, hcall, rfl⟩
    · exact h.imports part hpart
    · exact FieldEntry.oneLine_render (h.fields entry hentry)
    · exact OneLine.append (by decide) (Invocation.oneLine_render (h.invocations call hcall))
  rw [Contents.ownLines, List.forall_mem_cons]
  refine ⟨oneLine_indented indent h.header, ?_⟩
  intro line hline
  obtain ⟨text, htext, rfl⟩ := List.mem_map.mp hline
  exact oneLine_indented _ (hentries text htext)

lemma Contents.length_ownLines (contents : Contents String) (indent : Int) :
    (contents.ownLines indent).length =
      1 + contents.imports.size + contents.fields.size + contents.invocations.size := by
  simp [ownLines, entries]
  omega

/-- Lines that are put one after the other are got back at the line feeds, with nothing after the
last. -/
lemma cutAt_joinLines {lines : List String} (h : ∀ line ∈ lines, OneLine line) :
    cutAt '\n' (joinLines lines).toList = lines.map String.toList ++ [[]] := by
  induction lines with
  | nil => rfl
  | cons line lines ih =>
    rw [List.forall_mem_cons] at h
    have hjoin : (joinLines (line :: lines)).toList =
        line.toList ++ '\n' :: (joinLines lines).toList := by
      simp [joinLines]
    rw [hjoin, cutAt_append h.1, ih h.2, List.map_cons, List.cons_append]

/-! ### Summaries -/

/-- After a visit into a new file that did not fail, the walk from the file meets all contexts: the
file and one for each visited declaration. -/
lemma walk_of_success {lines : Lines} {view : SourceView} {root : Node}
    (success : (buildContext lines view root).failure = none) :
    let store := (buildContext lines view root).progress.store
    store.Forest ∧ store.walk fileId = List.range store.size ∧
      store.size = 1 + root.visited.countP (·.2.opens) := by
  obtain ⟨after, h⟩ : ∃ after, (fileStart lines).follow view root.stops = ⟨after, none⟩ := by
    rw [buildContext_eq_follow] at success
    exact ⟨_, by rw [← success]⟩
  rw [buildContext_eq_follow, h]
  obtain ⟨forest, hsize⟩ := forest_of_follow h
  refine ⟨forest, walk_fileId h, ?_⟩
  rw [hsize, Node.visited, List.countP_map, Nat.add_comm]
  rfl

/-- Where a text has a report, every heading, import and value of a record in its contexts stays on
one line. The text report ends in a line feed and is cut at its line feeds into the lines of the
contexts, one for each heading and one for each record. The number of contexts that is logged with
the summary of a file, where there is room to make that, is the number of headings: one for the file
and one for each visited declaration. -/
theorem report_lines_are_records (grammar : Grammar) (language text : String)
    (success : (SourceTree.parse grammar language text).visit.failure = none) :
    let visited := (SourceTree.parse grammar language text).visit
    let store := visited.progress.store
    let walk := store.walk fileId
    let lines := walk.flatMap fun id =>
      (store.context id).ownLines (2 * store.stepsUp id fileId)
    (∀ id ∈ walk, (store.context id).Unbroken) ∧
    EndsLine (visited.report .text) ∧
    cutAt '\n' (visited.report .text).toList = lines.map String.toList ++ [[]] ∧
    lines.length = (walk.map fun id => 1 + (store.context id).imports.size
      + (store.context id).fields.size + (store.context id).invocations.size).sum ∧
    (∃ nodes : List (Address × Node),
      nodes.Pairwise (fun a b => a.1 < b.1) ∧
      (∀ address node, (address, node) ∈ nodes ↔ (grammar text).Visits address node) ∧
      walk.length = 1 + nodes.countP (·.2.opens)) ∧
    ∀ room registry files settings path parser,
      room.fits settings.output visited.outline = true →
      chooseParser registry settings path = .ok parser →
      Files.readText files path settings.encoding = .ok text →
      ∃ summary, summarizeFile room registry grammar files settings path =
        .ok (summary, visited.log ++
          [.treeBuilt path parser.languageName (splitLines text).size walk.length]) := by
  intro visited store walk lines
  obtain ⟨forest, hwalk, hsize⟩ : store.Forest ∧ walk = List.range store.size ∧
      store.size = 1 + (grammar text).visited.countP (·.2.opens) := walk_of_success success
  have hunbroken : ∀ id ∈ walk, (store.context id).Unbroken := by
    intro id hid
    have hlt : id < store.size := by rwa [← List.mem_range, ← hwalk]
    exact unbroken_visit text (grammar text) id hlt
  have hreport : visited.report .text = joinLines lines := by
    have hformat := forest.format_tree fileId 0
    simp only [zero_add] at hformat
    exact hformat
  have hlines : ∀ line ∈ lines, OneLine line := by
    intro line hline
    obtain ⟨id, hid, hline⟩ := List.mem_flatMap.mp hline
    exact (hunbroken id hid).ownLines _ line hline
  refine ⟨hunbroken, ?_, ?_, ?_, ?_, ?_⟩
  · exact ContextTree.endsLine_format _ 0
  · rw [hreport, cutAt_joinLines hlines]
  · rw [List.length_flatMap]
    simp only [Contents.length_ownLines]
  · refine ⟨(grammar text).visited, Node.pairwise_visited _, fun _ _ => Node.mem_visited_iff, ?_⟩
    rw [hwalk, List.length_range, hsize]
  · intro room registry files settings path parser hfits hparser htext
    have hload : loadTree registry grammar files settings path =
        .ok (.parse grammar parser.languageName text) :=
      loadTree_eq_ok_iff.mpr ⟨parser, text, hparser, htext, rfl⟩
    have hvisit : (SourceTree.parse grammar parser.languageName text).visit = visited := rfl
    have hrender : visited.render room settings.output = .ok (visited.report settings.output) :=
      Visited.render_eq_ok_iff.mpr ⟨hfits, rfl⟩
    refine ⟨⟨path, parser.languageName, settings.output, visited.report settings.output⟩, ?_⟩
    have hfailure : visited.failure = none := success
    rw [summarizeFile_eq hload, hvisit, hfailure, hrender]
    rfl

/-- A source with an import that is broken over two lines, and a class. -/
def brokenText : String :=
  "import a\n.b;\nclass C { }"

/-- The parse tree of that source. -/
def brokenTree : Node :=
  ⟨"program", ⟨0, 0⟩, ⟨2, 11⟩, [
    ⟨"import_declaration", ⟨0, 0⟩, ⟨1, 3⟩, []⟩,
    ⟨"class_declaration", ⟨2, 0⟩, ⟨2, 11⟩, [
      ⟨"identifier", ⟨2, 6⟩, ⟨2, 7⟩, []⟩,
      ⟨"class_body", ⟨2, 8⟩, ⟨2, 11⟩, []⟩]⟩]⟩

/-- Files that all hold that source. -/
def brokenFiles : Files.Access where
  lookup _ := .file (Text.Utf8.encode brokenText)

/-- The report of that source has three lines, of which two are headings, and two contexts are
logged. -/
theorem report_lines_are_records_broken :
    let grammar : Grammar := fun _ => brokenTree
    let visited := (SourceTree.parse grammar "java" brokenText).visit
    visited.failure = none ∧
      visited.report .text = "File\n  import a.b;\n  default class C\n" ∧
      (cutAt '\n' (visited.report .text).toList).length = 3 + 1 ∧
      ∃ summary, summarizeFile {} .bundled grammar brokenFiles { language := some .java } "C.java" =
        .ok (summary, [.treeBuilt "C.java" "java" 3 2]) := by
  intro grammar visited
  have success : visited.failure = none := by decide +kernel
  obtain ⟨-, -, hcut, hlength, -, hlog⟩ :=
    report_lines_are_records grammar "java" brokenText success
  have htext : Files.readText brokenFiles "C.java" (.text "utf-8") = .ok brokenText := by
    decide +kernel
  refine ⟨success, by decide +kernel, ?_, ?_⟩
  · rw [hcut, List.length_append, List.length_map, hlength]
    decide +kernel
  · obtain ⟨summary, hsummary⟩ :=
      hlog {} .bundled brokenFiles { language := some .java } "C.java" .java rfl rfl htext
    refine ⟨summary, hsummary.trans ?_⟩
    congr 2
    decide +kernel

end Outline
