import Outline.Proofs.Traversal.OneLine
import Outline.Proofs.Tree.Rows

/-!
# Listings tell trees apart

A line of a listing is a kind and two points behind two spaces for each level. The kind may itself
hold brackets, commas and spaces, so that a line is read from its end: the marks before the points
are the last ones in it. What is read back of each line is its row, and of all rows the tree.
-/

namespace Outline

/-- Whether a kind can be told in a listing: there is one, it stays on its line, and no space of it
passes for one of the indentation. -/
def PlainKind (kind : String) : Prop :=
  kind ≠ "" ∧ OneLine kind ∧ kind.toList.head? ≠ some ' '

instance (kind : String) : Decidable (PlainKind kind) :=
  inferInstanceAs (Decidable (_ ∧ _))

/-- Whether all kinds of a tree have a property. -/
def Node.EachKind (p : String → Prop) (node : Node) : Prop :=
  ∀ entry ∈ node.preorder 0, p entry.2.kind

instance (p : String → Prop) [DecidablePred p] (node : Node) : Decidable (node.EachKind p) :=
  inferInstanceAs (Decidable (∀ entry ∈ node.preorder 0, p entry.2.kind))

/-- How a listing shows a node. -/
def Node.shown (node : Node) : String :=
  node.kind ++ " " ++ node.start.bracketed ++ " - " ++ node.stop.bracketed

/-- The line of a node at a depth. -/
def shownAt (entry : Nat × Node) : String :=
  String.ofList (List.replicate (2 * entry.1) ' ') ++ entry.2.shown

/-- A text whose lines end in line feeds, with something put before every line. -/
def indentLines (indent text : String) : String :=
  joinLines ((cutAt '\n' text.toList).dropLast.map fun line => indent ++ String.ofList line)

/-! ### Numbers -/

namespace Text

lemma natValue?_toDigits (n : Nat) : natValue? (Nat.toDigits 10 n) = some n := by
  have hdigits : (Nat.toDigits 10 n).all Char.isDigit = true := by
    rw [List.all_eq_true]
    intro c hc
    exact Nat.isDigit_of_mem_toDigits (by decide) (by decide) hc
  have hvalue : digitsValue (Nat.toDigits 10 n) = n :=
    Nat.ofDigitChars_toDigits (by decide) (by decide)
  rw [natValue?, hdigits, hvalue]
  simp [Nat.toDigits_ne_nil]

/-- A number is written in digits, after a minus sign if it is below zero. -/
lemma toList_repr (n : Int) :
    (0 ≤ n ∧ n.repr.toList = Nat.toDigits 10 n.natAbs) ∨
      n < 0 ∧ n.repr.toList = '-' :: Nat.toDigits 10 n.natAbs := by
  cases n with
  | ofNat m => exact .inl ⟨Int.natCast_nonneg m, Nat.toList_repr⟩
  | negSucc m =>
    refine .inr ⟨Int.negSucc_lt_zero m, ?_⟩
    change ("-" ++ (m + 1).repr).toList = _
    rw [String.toList_append, Nat.toList_repr]
    rfl

lemma intValue?_repr (n : Int) : intValue? n.repr.toList = some n := by
  rcases toList_repr n with ⟨hn, h⟩ | ⟨hn, h⟩
  · rw [h]
    unfold intValue?
    split
    · next digits heq =>
      have hminus : '-' ∈ Nat.toDigits 10 n.natAbs := by rw [heq]; exact List.mem_cons_self
      exact absurd (Nat.isDigit_of_mem_toDigits (by decide) (by decide) hminus) (by decide)
    · rw [natValue?_toDigits]
      exact congrArg some (Int.natAbs_of_nonneg hn)
  · have hneg : -(n.natAbs : Int) = n := by omega
    rw [h, intValue?, natValue?_toDigits]
    exact congrArg some hneg

/-- What is no digit and no minus sign does not stand in a number. -/
lemma not_mem_repr {c : Char} (hdigit : c.isDigit = false) (hminus : c ≠ '-') (n : Int) :
    c ∉ n.repr.toList := by
  have hdigits : c ∉ Nat.toDigits 10 n.natAbs := by
    intro hc
    rw [Nat.isDigit_of_mem_toDigits (by decide) (by decide) hc] at hdigit
    cases hdigit
  rcases toList_repr n with ⟨-, h⟩ | ⟨-, h⟩
  · rwa [h]
  · rw [h, List.mem_cons, not_or]
    exact ⟨hminus, hdigits⟩

end Text

/-! ### Marks -/

lemma splitLast_eq_none {mark cs : List Char}
    (h : ∀ before after, cs ≠ before ++ mark ++ after) : splitLast mark cs = none := by
  induction cs with
  | nil => rfl
  | cons c cs ih =>
    have hrest : splitLast mark cs = none := by
      apply ih
      intro before after heq
      exact h (c :: before) after (by rw [heq]; rfl)
    have hfirst : ¬ mark.isPrefixOf (c :: cs) := by
      rw [List.isPrefixOf_iff_prefix]
      rintro ⟨after, heq⟩
      exact h [] after heq.symm
    simp only [splitLast, hrest, if_neg hfirst]

/-- A mark whose last character does not come again is the last of its kind. -/
lemma splitLast_append (before opening : List Char) {c : Char} {after : List Char}
    (hc : c ∉ after) :
    splitLast (opening ++ [c]) (before ++ (opening ++ [c]) ++ after) = some (before, after) := by
  induction before with
  | nil =>
    cases hmark : opening ++ [c] with
    | nil => simp at hmark
    | cons d mark =>
      -- a mark further on would end in what comes after this one
      have hnone : splitLast (d :: mark) (mark ++ after) = none := by
        apply splitLast_eq_none
        intro before rest heq
        apply hc
        have hlength : mark.length = opening.length := by
          simpa using (congrArg List.length hmark).symm
        have hafter := congrArg (List.drop mark.length) heq
        rw [List.drop_left, ← hmark, ← List.append_assoc, List.append_assoc,
          List.drop_append_of_le_length (by simp [hlength])] at hafter
        rw [hafter]
        simp
      rw [List.nil_append, List.cons_append, splitLast, hnone]
      simp
  | cons d before ih => simp only [List.cons_append, splitLast, ih]

/-! ### Lines -/

/-- What of a point comes after its opening bracket. -/
def Point.numerals (point : Point) : List Char :=
  point.row.repr.toList ++ [',', ' '] ++ (point.column.repr.toList ++ [']'])

namespace Point

lemma toList_bracketed (point : Point) : point.bracketed.toList = '[' :: point.numerals := by
  change ("[" ++ point.row.repr ++ ", " ++ point.column.repr ++ "]").toList = _
  simp [numerals]

lemma not_mem_numerals {c : Char} (hdigit : c.isDigit = false)
    (hother : c ∉ ['-', ',', ' ', ']']) (point : Point) : c ∉ point.numerals := by
  simp only [List.mem_cons, not_or] at hother
  have hrow := Text.not_mem_repr hdigit hother.1 point.row
  have hcolumn := Text.not_mem_repr hdigit hother.1 point.column
  simp [numerals, hrow, hcolumn, hother]

lemma ofBracketed?_numerals (point : Point) : ofBracketed? point.numerals = some point := by
  have hspace : ' ' ∉ point.column.repr.toList ++ [']'] := by
    have := Text.not_mem_repr (c := ' ') rfl (by decide) point.column
    simp [this]
  have hrow := splitLast_append point.row.repr.toList [','] hspace
  have hcolumn := splitLast_append point.column.repr.toList [] (List.not_mem_nil (a := ']'))
  simp only [List.append_nil, List.nil_append, List.cons_append] at hrow hcolumn
  rw [ofBracketed?, numerals, hrow]
  simp [hcolumn, Text.intValue?_repr]

end Point

namespace Node

/-- A node is shown as a kind, a mark and a point, and another mark and a point. -/
lemma toList_shown (node : Node) :
    node.shown.toList =
      node.kind.toList ++ " [".toList ++ node.start.numerals ++ " - [".toList
        ++ node.stop.numerals := by
  simp [shown, Point.toList_bracketed]

variable {depth : Nat} {node : Node}

lemma oneLine_shown (h : OneLine node.kind) : OneLine node.shown := by
  have hstart := Point.not_mem_numerals (c := '\n') rfl (by decide) node.start
  have hstop := Point.not_mem_numerals (c := '\n') rfl (by decide) node.stop
  rw [OneLine] at h
  rw [OneLine, toList_shown]
  simp [h, hstart, hstop]

/-- No space of a node is one of the indentation before it. -/
lemma dropWhile_shownAt (h : PlainKind node.kind) :
    (shownAt (depth, node)).toList.takeWhile (· = ' ') = List.replicate (2 * depth) ' ' ∧
      (shownAt (depth, node)).toList.dropWhile (· = ' ') = node.shown.toList := by
  obtain ⟨hne, -, hhead⟩ := h
  obtain ⟨c, cs, hkind⟩ : ∃ c cs, node.kind.toList = c :: cs :=
    List.exists_cons_of_ne_nil (by simpa using hne)
  have hc : c ≠ ' ' := by simpa [hkind] using hhead
  have hspaces : ∀ x ∈ List.replicate (2 * depth) ' ', decide (x = ' ') = true := by
    intro x hx
    simpa using List.eq_of_mem_replicate hx
  rw [shownAt, String.toList_append, String.toList_ofList, List.takeWhile_append_of_pos hspaces,
    List.dropWhile_append_of_pos hspaces, toList_shown, hkind]
  simp [hc]

/-- The line of a node is read as its row. -/
lemma ofLine?_shownAt (h : PlainKind node.kind) :
    ListingRow.ofLine? (shownAt (depth, node)).toList = some (.ofNode (depth, node)) := by
  have hopening : ∀ point : Point, '[' ∉ point.numerals :=
    Point.not_mem_numerals rfl (by decide)
  have hstop : splitLast " - [".toList node.shown.toList =
      some (node.kind.toList ++ " [".toList ++ node.start.numerals, node.stop.numerals) := by
    rw [toList_shown]
    exact splitLast_append _ [' ', '-', ' '] (hopening node.stop)
  have hstart : splitLast " [".toList (node.kind.toList ++ " [".toList ++ node.start.numerals) =
      some (node.kind.toList, node.start.numerals) :=
    splitLast_append _ [' '] (hopening node.start)
  have hlength : (shownAt (depth, node)).toList.length - node.shown.toList.length = 2 * depth := by
    simp [shownAt]
  rw [ListingRow.ofLine?, (dropWhile_shownAt h).2, hlength]
  simp only [hstop, hstart, Point.ofBracketed?_numerals, Option.bind_eq_bind, Option.bind_some,
    Option.pure_def, String.ofList_toList, ListingRow.ofNode]
  congr 2
  omega

/-! ### Listings -/

lemma line_ofNode (indent : String) (entry : Nat × Node) :
    (ListingRow.ofNode entry).line indent = indent ++ shownAt entry ++ "\n" := by
  change indent ++ String.ofList (List.replicate (2 * entry.1) ' ') ++ entry.2.kind ++ " "
    ++ entry.2.start.bracketed ++ " - " ++ entry.2.stop.bracketed ++ "\n" = _
  simp only [shownAt, shown, String.append_assoc]

/-- A listing has a line for each node, in document order. -/
lemma listing_eq (root : Node) (indent : String) :
    root.listing indent = joinLines ((root.preorder 0).map (indent ++ shownAt ·)) := by
  rw [listing, listRows, rows_eq, rowsAt, joinLines, List.map_map, List.map_map]
  exact congrArg String.join (List.map_congr_left fun entry _ => line_ofNode indent entry)

variable {root : Node}

lemma EachKind.oneLine (h : root.EachKind PlainKind) : root.EachKind OneLine :=
  fun entry hentry => (h entry hentry).2.1

lemma cutAt_listing (h : root.EachKind OneLine) :
    cutAt '\n' (root.listing "").toList =
      (root.preorder 0).map (fun entry => (shownAt entry).toList) ++ [[]] := by
  have hlines : ∀ line ∈ (root.preorder 0).map ("" ++ shownAt ·), OneLine line := by
    intro line hline
    obtain ⟨entry, hentry, rfl⟩ := List.mem_map.mp hline
    have hspaces : OneLine (String.ofList (List.replicate (2 * entry.1) ' ')) := by
      simp [OneLine]
    rw [String.empty_append]
    exact hspaces.append (oneLine_shown (h entry hentry))
  rw [listing_eq, cutAt_joinLines hlines, List.map_map]
  simp [Function.comp_def]

/-- What is put before a listing is put before each of its lines. -/
lemma listing_indent (h : root.EachKind OneLine) (indent : String) :
    root.listing indent = indentLines indent (root.listing "") := by
  rw [indentLines, cutAt_listing h, List.dropLast_concat, listing_eq, List.map_map]
  simp [Function.comp_def]

/-- The lines of nodes are read as their rows. -/
lemma mapM_ofLine? {entries : List (Nat × Node)} (h : ∀ entry ∈ entries, PlainKind entry.2.kind) :
    (entries.map fun entry => (shownAt entry).toList).mapM ListingRow.ofLine? =
      some (entries.map .ofNode) := by
  induction entries with
  | nil => rfl
  | cons entry entries ih =>
    rw [List.forall_mem_cons] at h
    rw [List.map_cons, List.mapM_cons, ofLine?_shownAt h.1, ih h.2]
    rfl

/-- The listing of a tree is read as that tree. -/
lemma ofListing?_listing (h : root.EachKind PlainKind) :
    ofListing? (root.listing "") = some root := by
  have hlines : ((root.preorder 0).map (fun entry => (shownAt entry).toList) ++ [[]]).filter
      (!·.isEmpty) = (root.preorder 0).map fun entry => (shownAt entry).toList := by
    rw [List.filter_append, List.filter_eq_self.mpr]
    · exact List.append_nil _
    · intro line hline
      obtain ⟨entry, -, rfl⟩ := List.mem_map.mp hline
      simp [shownAt, shown]
  have hroot : ofRows ((root.preorder 0).map .ofNode) = [root] := ofRows_rowsAt root
  rw [ofListing?, cutAt_listing h.oneLine, hlines, mapM_ofLine? h]
  simp only [Option.bind_eq_bind, Option.bind_some, hroot]
  rfl

end Node

/-- A listing loses nothing. Over a source it is that of the tree with its points where they lie;
over lines that the points are those of, this is the tree itself. A tree of plain kinds is listed
one node a line in document order, each behind two spaces for every level above it, and the tree is
read back from the listing, so that no other such tree has the same one. What is put before a
listing is put before each of its lines. -/
theorem listing_loses_nothing :
    (∀ view (root : Node) indent,
      root.listingIn view indent = (root.placed view).map (·.listing indent)) ∧
    (∀ lines (root : Node), root.placed (.ofLines lines) = .ok root) ∧
    (∀ root : Node, root.EachKind PlainKind →
      cutAt '\n' (root.listing "").toList =
        (root.preorder 0).map (fun entry => (shownAt entry).toList) ++ [[]] ∧
      (∀ entry ∈ root.preorder 0,
        (shownAt entry).toList.takeWhile (· = ' ') = List.replicate (2 * entry.1) ' ') ∧
      Node.ofListing? (root.listing "") = some root ∧
      ∀ other : Node, other.EachKind PlainKind → other.listing "" = root.listing "" →
        other = root) ∧
    ∀ root : Node, root.EachKind OneLine →
      ∀ indent, root.listing indent = indentLines indent (root.listing "") := by
  refine ⟨fun view root indent => root.listingIn_eq view indent,
    fun lines root => root.placed_ofLines lines, ?_, fun root h => Node.listing_indent h⟩
  intro root h
  refine ⟨Node.cutAt_listing h.oneLine, ?_, Node.ofListing?_listing h, ?_⟩
  · intro entry hentry
    exact (Node.dropWhile_shownAt (h entry hentry)).1
  · intro other hother heq
    have hread := Node.ofListing?_listing hother
    rw [heq, Node.ofListing?_listing h, Option.some.injEq] at hread
    exact hread.symm

/-- A tree with a kind that is a bracket, one that holds the marks of a line, and points below
zero. -/
def bracketedTree : Node :=
  ⟨"program", ⟨0, 0⟩, ⟨2, 0⟩,
    [⟨"[", ⟨-1, 0⟩, ⟨0, -12⟩, [⟨"a [0, 1] - [2, 3]", ⟨0, 1⟩, ⟨0, 2⟩, []⟩]⟩,
      ⟨"]", ⟨1, 0⟩, ⟨1, 1⟩, []⟩]⟩

/-- That tree is read back from its listing. -/
theorem listing_loses_nothing_bracketed :
    bracketedTree.EachKind PlainKind ∧
      bracketedTree.listingIn (.ofLines #[]) "" = .ok (bracketedTree.listing "") ∧
      Node.ofListing? (bracketedTree.listing "") = some bracketedTree ∧
      bracketedTree.listing "| " = indentLines "| " (bracketedTree.listing "") ∧
      bracketedTree.listing "| " =
        "| program [0, 0] - [2, 0]\n|   [ [-1, 0] - [0, -12]\n" ++
          "|     a [0, 1] - [2, 3] [0, 1] - [0, 2]\n|   ] [1, 0] - [1, 1]\n" := by
  obtain ⟨hplaced, hown, hplain, hindent⟩ := listing_loses_nothing
  have hkinds : bracketedTree.EachKind PlainKind := by decide +kernel
  obtain ⟨-, -, hread, -⟩ := hplain bracketedTree hkinds
  refine ⟨hkinds, ?_, hread, hindent bracketedTree (by decide +kernel) "| ", by decide +kernel⟩
  rw [hplaced, hown]
  rfl

end Outline
