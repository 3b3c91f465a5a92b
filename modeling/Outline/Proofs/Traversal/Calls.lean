import Outline.Proofs.Source.Joining
import Outline.Proofs.Traversal.Reads
import Outline.Proofs.Traversal.Records

/-!
# Calls as they stand in the source

The receiver of a call is no node that is read: it is cut out of the source from the beginning of
the call to the dot before its name, and stripped of white space. Of a call that is laid out as one,
with a receiver, a dot, a name and arguments in this order, it is the text of the receiver. Where
nothing stands between these parts, the recorded call shows as the source has it.
-/

namespace Outline

/-! ### White space at the ends -/

namespace Text

/-- Whether a text is not empty and has no white space at its ends. -/
def Trimmed (text : String) : Prop :=
  text ≠ "" ∧ ¬ text.toList.head?.any isBlank ∧ ¬ text.toList.getLast?.any isBlank

instance (text : String) : Decidable (Trimmed text) :=
  inferInstanceAs (Decidable (_ ∧ _ ∧ _))

lemma dropWhile_of_head {p : Char → Bool} {cs : List Char} (hne : cs ≠ [])
    (h : ¬ cs.head?.any p) (more : List Char) : (cs ++ more).dropWhile p = cs ++ more := by
  cases cs with
  | nil => exact absurd rfl hne
  | cons c cs => exact List.dropWhile_cons_of_neg h

/-- White space after a trimmed text is all that is stripped. -/
lemma strip_append {text blanks : String} (htext : Trimmed text)
    (hblanks : blanks.toList.all isBlank) : strip (text ++ blanks) = text := by
  obtain ⟨hne, hfirst, hlast⟩ := htext
  have hcs : text.toList ≠ [] := String.toList_eq_nil_iff.not.mpr hne
  have hback : ∀ c ∈ blanks.toList.reverse, isBlank c :=
    fun c hc => List.all_eq_true.mp hblanks c (List.mem_reverse.mp hc)
  have hend : text.toList.reverse.dropWhile isBlank = text.toList.reverse := by
    have hkept := dropWhile_of_head (List.reverse_eq_nil_iff.not.mpr hcs)
      (by rwa [List.head?_reverse]) []
    rwa [List.append_nil] at hkept
  rw [strip, String.toList_append, dropWhile_of_head hcs hfirst, stripEnd, List.reverse_append,
    List.dropWhile_append_of_pos hback, hend, List.reverse_reverse, String.ofList_toList]

end Text

/-! ### Parts of a call -/

/-- Whether the scan of a call passes over a child. -/
def Node.IsPassed (child : Node) : Prop :=
  child.kind ∉ [".", "identifier", "argument_list"]

instance (child : Node) : Decidable child.IsPassed :=
  inferInstanceAs (Decidable (_ ∉ _))

/-- The children of a call are its parts in order, with children between them that are passed
over. -/
inductive Padded : List Node → List Node → Prop where
  | nil : Padded [] []
  | part {parts children : List Node} (part : Node) (rest : Padded parts children) :
      Padded (part :: parts) (part :: children)
  | passed {parts children : List Node} {child : Node} (passed : child.IsPassed)
      (rest : Padded parts children) : Padded parts (child :: children)

lemma Padded.scanCall_eq {view : SourceView} {parts children : List Node}
    (h : Padded parts children) (scan : CallScan) :
    scanCall view scan children = scanCall view scan parts := by
  induction h generalizing scan with
  | nil => rfl
  | part part _ ih => simp only [scanCall, ih]
  | passed hpassed _ ih =>
    simp only [Node.IsPassed, List.mem_cons, List.not_mem_nil, or_false, not_or] at hpassed
    rw [scanCall, if_neg hpassed.1, if_neg hpassed.2.1, if_neg hpassed.2.2, ih]

/-- Whether a call is laid out in parts: they are its children but for those passed over, they cover
it, and their points lie in the lines in this order. -/
structure LaidOut (view : SourceView) (node : Node) (parts : List Node) : Prop where
  kind     : node.kind = "method_invocation"
  children : Padded parts node.children
  start    : ∀ first ∈ parts.head?, first.start = node.start
  stop     : ∀ last ∈ parts.getLast?, last.stop = node.stop
  ordered  : (parts.flatMap fun part => [part.start, part.stop]).IsChain view.Precedes

/-- Whether nothing stands between a node and one after it. -/
def Node.Adjoins (view : SourceView) (node next : Node) : Prop :=
  view.spanText node.stop next.start = .ok ""

instance (view : SourceView) (node next : Node) : Decidable (node.Adjoins view next) :=
  inferInstanceAs (Decidable (_ = _))

/-- A call with a receiver, a dot, a name and arguments. The receiver has no white space at its
ends, and nothing but white space stands between it and the dot. -/
structure QualifiedCall (view : SourceView) (node receiver dot name arguments : Node) : Prop where
  laidOut       : LaidOut view node [receiver, dot, name, arguments]
  receiverKind  : receiver.kind ≠ "." ∧ receiver.kind ≠ "argument_list"
  dotKind       : dot.kind = "."
  nameKind      : name.kind = "identifier"
  argumentsKind : arguments.kind = "argument_list"
  trimmed       : ∃ text, receiver.text view = .ok text ∧ Text.Trimmed text
  blank         : ∃ gap, view.spanText receiver.stop dot.start = .ok gap ∧
    gap.toList.all Text.isBlank

/-- A call with a name and arguments and nothing between them. -/
structure UnqualifiedCall (view : SourceView) (node name arguments : Node) : Prop where
  laidOut       : LaidOut view node [name, arguments]
  nameKind      : name.kind = "identifier"
  argumentsKind : arguments.kind = "argument_list"
  adjoins       : name.Adjoins view arguments

/-! ### What is found -/

section

variable {view : SourceView} {node : Node}

/-- A call says what its scan and its receiver give. -/
lemma LaidOut.finding?_eq {parts : List Node} (h : LaidOut view node parts) {scan : CallScan}
    {target : String} {place : Point} (hstart : view.place node.start = .ok place)
    (hscan : scanCall view {} parts = .ok scan)
    (htarget : receiver view node scan.nameDot = .ok target) :
    ∃ notice, node.finding? view =
      some (.ok ⟨.invocation ⟨target, scan.identifier, scan.arguments⟩, notice⟩) := by
  obtain ⟨notice, hnotice⟩ :=
    exists_notice? hstart (scan.identifier = missingIdentifier) .identifier
  have hrole : node.role? = some .methodInvocation := Node.role?_eq_some_iff.mpr h.kind
  refine ⟨notice, ?_⟩
  rw [Node.finding?, hrole, Option.map_some, Role.finding, callFinding, h.children.scanCall_eq,
    hscan]
  simp only [bind, Except.bind, htarget, hnotice]
  rfl

end

namespace QualifiedCall

variable {view : SourceView} {node receiver dot name arguments : Node}

lemma scanCall_eq (h : QualifiedCall view node receiver dot name arguments)
    {target identifier text : String} (htarget : receiver.text view = .ok target)
    (hidentifier : name.text view = .ok identifier) (htext : arguments.text view = .ok text) :
    scanCall view {} [receiver, dot, name, arguments] =
      .ok ⟨identifier, text, some dot, some dot⟩ := by
  obtain ⟨hdot, harguments⟩ := h.receiverKind
  -- a receiver that is an identifier is taken for the name until the name is met
  by_cases hkind : receiver.kind = "identifier"
  · simp [scanCall, hkind, h.dotKind, h.nameKind, h.argumentsKind, htarget, hidentifier, htext,
      bind, Except.bind, pure, Except.pure]
  · simp [scanCall, hkind, hdot, harguments, h.dotKind, h.nameKind, h.argumentsKind, hidentifier,
      htext, bind, Except.bind, pure, Except.pure]

/-- The points of the parts lie in the lines in order. -/
lemma precedes (h : QualifiedCall view node receiver dot name arguments) :
    view.Precedes receiver.start receiver.stop ∧ view.Precedes receiver.stop dot.start ∧
      view.Precedes dot.start dot.stop ∧ view.Precedes dot.stop name.start ∧
      view.Precedes name.start name.stop ∧ view.Precedes name.stop arguments.start ∧
      view.Precedes arguments.start arguments.stop := by
  simpa using h.laidOut.ordered

/-- What stands before the dot is the receiver and white space. -/
lemma receiver_eq (h : QualifiedCall view node receiver dot name arguments) {target : String}
    (htarget : receiver.text view = .ok target) :
    Outline.receiver view node (some dot) = .ok target := by
  obtain ⟨text, htext, htrimmed⟩ := h.trimmed
  obtain rfl : target = text := by rwa [htarget, Except.ok.injEq] at htext
  obtain ⟨gap, hgap, hblank⟩ := h.blank
  have hspan : view.spanText node.start dot.start = .ok (target ++ gap) := by
    rw [← h.laidOut.start receiver rfl]
    exact h.precedes.1.spanText_append h.precedes.2.1 htarget hgap
  rw [Outline.receiver, hspan]
  exact congrArg Except.ok (Text.strip_append htrimmed hblank)

lemma finding?_eq (h : QualifiedCall view node receiver dot name arguments)
    {target identifier text : String} (htarget : receiver.text view = .ok target)
    (hidentifier : name.text view = .ok identifier) (htext : arguments.text view = .ok text) :
    ∃ notice, node.finding? view =
      some (.ok ⟨.invocation ⟨target, identifier, text⟩, notice⟩) := by
  obtain ⟨place, hplace⟩ := h.precedes.1.exists_place
  rw [h.laidOut.start receiver rfl] at hplace
  exact h.laidOut.finding?_eq hplace (h.scanCall_eq htarget hidentifier htext)
    (h.receiver_eq htarget)

/-- Parts with nothing between them make up the text of the call. -/
lemma text_eq (h : QualifiedCall view node receiver dot name arguments)
    {target identifier text : String} (htarget : receiver.text view = .ok target)
    (hidentifier : name.text view = .ok identifier) (htext : arguments.text view = .ok text)
    (hdot : dot.text view = .ok ".")
    (hadjoin : [receiver, dot, name, arguments].IsChain (Node.Adjoins view)) :
    node.text view = .ok (target ++ "." ++ identifier ++ text) := by
  obtain ⟨hreceiver, hbefore, hdots, hafter, hname, hmiddle, harguments⟩ := h.precedes
  obtain ⟨hfirst, hsecond, hthird⟩ : receiver.Adjoins view dot ∧ dot.Adjoins view name ∧
      name.Adjoins view arguments := by simpa using hadjoin
  have hqualifier : view.spanText receiver.start dot.stop = .ok (target ++ ".") :=
    hreceiver.spanText_adjoin hbefore hdots htarget hfirst hdot
  have hupToDot := (hreceiver.trans hbefore).trans hdots
  have hcallee : view.spanText receiver.start name.stop = .ok (target ++ "." ++ identifier) :=
    hupToDot.spanText_adjoin hafter hname hqualifier hsecond hidentifier
  have hupToName := (hupToDot.trans hafter).trans hname
  rw [Node.text, ← h.laidOut.start receiver rfl, ← h.laidOut.stop arguments rfl]
  exact hupToName.spanText_adjoin hmiddle harguments hcallee hthird htext

end QualifiedCall

namespace UnqualifiedCall

variable {view : SourceView} {node name arguments : Node}

lemma precedes (h : UnqualifiedCall view node name arguments) :
    view.Precedes name.start name.stop ∧ view.Precedes name.stop arguments.start ∧
      view.Precedes arguments.start arguments.stop := by
  simpa using h.laidOut.ordered

lemma finding?_eq (h : UnqualifiedCall view node name arguments) {identifier text : String}
    (hidentifier : name.text view = .ok identifier) (htext : arguments.text view = .ok text) :
    ∃ notice, node.finding? view = some (.ok ⟨.invocation ⟨"", identifier, text⟩, notice⟩) := by
  obtain ⟨place, hplace⟩ := h.precedes.1.exists_place
  rw [h.laidOut.start name rfl] at hplace
  have hscan : scanCall view {} [name, arguments] = .ok ⟨identifier, text, none, none⟩ := by
    simp [scanCall, h.nameKind, h.argumentsKind, hidentifier, htext, bind, Except.bind, pure,
      Except.pure]
  exact h.laidOut.finding?_eq hplace hscan rfl

lemma text_eq (h : UnqualifiedCall view node name arguments) {identifier text : String}
    (hidentifier : name.text view = .ok identifier) (htext : arguments.text view = .ok text) :
    node.text view = .ok (identifier ++ text) := by
  obtain ⟨hname, hmiddle, harguments⟩ := h.precedes
  rw [Node.text, ← h.laidOut.start name rfl, ← h.laidOut.stop arguments rfl]
  exact hname.spanText_adjoin hmiddle harguments hidentifier h.adjoins htext

end UnqualifiedCall

lemma Invocation.render_of_target {target : String} (h : target ≠ "")
    (identifier arguments : String) :
    (Invocation.mk target identifier arguments).render =
      target ++ "." ++ identifier ++ arguments := by
  simp only [render, shown_string, if_neg h]

/-- A call that is laid out with a receiver is recorded with the text of the receiver for its target
and shows as the texts of its parts with a dot after the first. Where nothing stands between the
parts and the dot is one, this is the text of the call. A call that is laid out without a receiver
is recorded without a target and shows as its own text. -/
theorem call_shows_as_in_source (view : SourceView) (node name arguments : Node) :
    (∀ receiver dot, QualifiedCall view node receiver dot name arguments →
      ∃ call : Invocation String,
        receiver.text view = .ok call.target ∧ name.text view = .ok call.identifier ∧
        arguments.text view = .ok call.arguments ∧
        (∃ notice, node.finding? view = some (.ok ⟨.invocation call, notice⟩)) ∧
        call.render = call.target ++ "." ++ call.identifier ++ call.arguments ∧
        ([receiver, dot, name, arguments].IsChain (Node.Adjoins view) →
          dot.text view = .ok "." → node.text view = .ok call.render)) ∧
    (UnqualifiedCall view node name arguments →
      ∃ call : Invocation String,
        call.target = "" ∧ name.text view = .ok call.identifier ∧
        arguments.text view = .ok call.arguments ∧
        (∃ notice, node.finding? view = some (.ok ⟨.invocation call, notice⟩)) ∧
        node.text view = .ok call.render) := by
  constructor
  · intro receiver dot h
    obtain ⟨target, htarget, htrimmed⟩ := h.trimmed
    obtain ⟨-, -, -, -, hname, -, harguments⟩ := h.precedes
    obtain ⟨identifier, hidentifier⟩ := hname.exists_spanText
    obtain ⟨text, htext⟩ := harguments.exists_spanText
    have hrender := Invocation.render_of_target htrimmed.1 identifier text
    refine ⟨⟨target, identifier, text⟩, htarget, hidentifier, htext,
      h.finding?_eq htarget hidentifier htext, hrender, ?_⟩
    intro hadjoin hdot
    rw [hrender]
    exact h.text_eq htarget hidentifier htext hdot hadjoin
  · intro h
    obtain ⟨hname, -, harguments⟩ := h.precedes
    obtain ⟨identifier, hidentifier⟩ := hname.exists_spanText
    obtain ⟨text, htext⟩ := harguments.exists_spanText
    refine ⟨⟨"", identifier, text⟩, rfl, hidentifier, htext, h.finding?_eq hidentifier htext, ?_⟩
    exact h.text_eq hidentifier htext

/-- A call whose dot stands on a line of its own, after a receiver that has a dot itself. Its
argument is a call of a variable. -/
def callLines : Lines :=
  #["a.b", "  .f(y.g())"]

/-- A part of a call in one row of those lines. -/
def callPart (kind : String) (row start stop : Int) : Node :=
  ⟨kind, ⟨row, start⟩, ⟨row, stop⟩, []⟩

/-- The outer call, with a comment before its dot. -/
def outerCall : Node :=
  ⟨"method_invocation", ⟨0, 0⟩, ⟨1, 11⟩, [
    callPart "field_access" 0 0 3, callPart "comment" 5 5 5, callPart "." 1 2 3,
    callPart "identifier" 1 3 4, callPart "argument_list" 1 4 11]⟩

/-- The inner call. -/
def innerCall : Node :=
  ⟨"method_invocation", ⟨1, 5⟩, ⟨1, 10⟩, [
    callPart "identifier" 1 5 6, callPart "." 1 6 7, callPart "identifier" 1 7 8,
    callPart "argument_list" 1 8 10]⟩

/-- What follows the dot of the inner call, taken for a call. -/
def bareCall : Node :=
  ⟨"method_invocation", ⟨1, 7⟩, ⟨1, 10⟩, [
    callPart "identifier" 1 7 8, callPart "argument_list" 1 8 10]⟩

lemma qualifiedCall_outerCall : QualifiedCall (.ofLines callLines) outerCall
    (callPart "field_access" 0 0 3) (callPart "." 1 2 3) (callPart "identifier" 1 3 4)
    (callPart "argument_list" 1 4 11) where
  laidOut.kind     := rfl
  laidOut.children := .part _ (.passed (by decide) (.part _ (.part _ (.part _ .nil))))
  laidOut.start    := by decide
  laidOut.stop     := by decide
  laidOut.ordered  := by decide +kernel
  receiverKind     := by decide
  dotKind          := rfl
  nameKind         := rfl
  argumentsKind    := rfl
  trimmed          := ⟨"a.b", by decide +kernel, by decide +kernel⟩
  blank            := ⟨"  ", by decide +kernel, by decide +kernel⟩

lemma qualifiedCall_innerCall : QualifiedCall (.ofLines callLines) innerCall
    (callPart "identifier" 1 5 6) (callPart "." 1 6 7) (callPart "identifier" 1 7 8)
    (callPart "argument_list" 1 8 10) where
  laidOut.kind     := rfl
  laidOut.children := .part _ (.part _ (.part _ (.part _ .nil)))
  laidOut.start    := by decide
  laidOut.stop     := by decide
  laidOut.ordered  := by decide +kernel
  receiverKind     := by decide
  dotKind          := rfl
  nameKind         := rfl
  argumentsKind    := rfl
  trimmed          := ⟨"y", by decide +kernel, by decide +kernel⟩
  blank            := ⟨"", by decide +kernel, by decide +kernel⟩

lemma unqualifiedCall_bareCall : UnqualifiedCall (.ofLines callLines) bareCall
    (callPart "identifier" 1 7 8) (callPart "argument_list" 1 8 10) where
  laidOut.kind     := rfl
  laidOut.children := .part _ (.part _ .nil)
  laidOut.start    := by decide
  laidOut.stop     := by decide
  laidOut.ordered  := by decide +kernel
  nameKind         := rfl
  argumentsKind    := rfl
  adjoins          := by decide +kernel

/-- The outer call is recorded with its receiver, without the white space before the dot. The inner
one shows as it stands in the source, and so does what follows its dot. -/
theorem call_shows_as_in_source_nested :
    let view := SourceView.ofLines callLines
    (∃ call notice, outerCall.finding? view = some (.ok ⟨.invocation call, notice⟩) ∧
        (callPart "field_access" 0 0 3).text view = .ok call.target ∧
        call.render = call.target ++ "." ++ call.identifier ++ call.arguments) ∧
      (∃ call notice, innerCall.finding? view = some (.ok ⟨.invocation call, notice⟩) ∧
        innerCall.text view = .ok call.render) ∧
      ∃ call notice, bareCall.finding? view = some (.ok ⟨.invocation call, notice⟩) ∧
        bareCall.text view = .ok call.render := by
  intro view
  refine ⟨?_, ?_, ?_⟩
  · obtain ⟨call, htarget, -, -, ⟨notice, hfinding⟩, hrender, -⟩ :=
      (call_shows_as_in_source view outerCall _ _).1 _ _ qualifiedCall_outerCall
    exact ⟨call, notice, hfinding, htarget, hrender⟩
  · obtain ⟨call, -, -, -, ⟨notice, hfinding⟩, -, htext⟩ :=
      (call_shows_as_in_source view innerCall _ _).1 _ _ qualifiedCall_innerCall
    exact ⟨call, notice, hfinding, htext (by decide +kernel) (by decide +kernel)⟩
  · obtain ⟨call, -, -, -, ⟨notice, hfinding⟩, htext⟩ :=
      (call_shows_as_in_source view bareCall _ _).2 unqualifiedCall_bareCall
    exact ⟨call, notice, hfinding, htext⟩

end Outline
