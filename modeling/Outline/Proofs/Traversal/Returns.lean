import Outline.Proofs.Traversal.Agreement

/-!
# Breaks with and without returns

A text without carriage returns and the same text with one before each line feed have the same
lines. Their rows of bytes differ by the returns, but a column that lies in a row of the first text
counts the same characters in both. So a tree over the one text is a tree over the other, and
nothing that comes of it tells them apart.
-/

namespace Outline

open Text.Utf8 (bytes bytes_append)

/-! ### Lines -/

/-- Characters with a carriage return before each line feed. -/
def addReturns (cs : List Char) : List Char :=
  cs.flatMap fun c => if c = '\n' then ['\r', '\n'] else [c]

/-- A text with a carriage return before each line feed. -/
def withReturns (text : String) : String :=
  String.ofList (addReturns text.toList)

lemma addReturns_of_not_mem {cs : List Char} (h : '\n' ∉ cs) : addReturns cs = cs := by
  induction cs with
  | nil => rfl
  | cons c cs ih =>
    rw [List.mem_cons, not_or] at h
    rw [addReturns, List.flatMap_cons, if_neg (Ne.symm h.1), ← addReturns, ih h.2,
      List.singleton_append]

lemma addReturns_append {line : List Char} (h : '\n' ∉ line) (rest : List Char) :
    addReturns (line ++ '\n' :: rest) = (line ++ ['\r']) ++ '\n' :: addReturns rest := by
  rw [addReturns, List.flatMap_append, ← addReturns, addReturns_of_not_mem h, List.flatMap_cons,
    if_pos rfl, ← addReturns]
  simp

lemma dropReturn_of_not_mem {line : List Char} (h : '\r' ∉ line) : dropReturn line = line :=
  if_neg fun hlast => h (List.mem_of_getLast? hlast)

/-- Without returns there is nothing to drop from the lines. -/
lemma map_dropReturn_cutAt {cs : List Char} (h : '\r' ∉ cs) :
    (cutAt '\n' cs).map dropReturn = cutAt '\n' cs := by
  induction cs using induction_on_cut '\n' with
  | last cs hfeed => rw [cutAt_of_not_mem hfeed, List.map_singleton, dropReturn_of_not_mem h]
  | more line rest hfeed ih =>
    simp only [List.mem_append, List.mem_cons, not_or] at h
    rw [cutAt_append hfeed, List.map_cons, dropReturn_of_not_mem h.1, ih h.2.2]

/-- What is added before the line feeds is dropped from the lines. -/
lemma map_dropReturn_cutAt_addReturns {cs : List Char} (h : '\r' ∉ cs) :
    (cutAt '\n' (addReturns cs)).map dropReturn = cutAt '\n' cs := by
  induction cs using induction_on_cut '\n' with
  | last cs hfeed => rw [addReturns_of_not_mem hfeed, map_dropReturn_cutAt h]
  | more line rest hfeed ih =>
    have hfeed' : '\n' ∉ line ++ ['\r'] := by simp [hfeed]
    simp only [List.mem_append, List.mem_cons, not_or] at h
    rw [addReturns_append hfeed, cutAt_append hfeed', cutAt_append hfeed, List.map_cons,
      dropReturn_append_return, ih h.2.2]

section

variable {text : String}

lemma splitLines_withReturns (h : '\r' ∉ text.toList) :
    splitLines (withReturns text) = splitLines text := by
  have hlines : ∀ text, splitLines text =
      (((cutAt '\n' text.toList).map dropReturn).map String.ofList).toArray := by
    intro text
    rw [splitLines, List.map_map]
    rfl
  rw [hlines, hlines, withReturns, String.toList_ofList, map_dropReturn_cutAt_addReturns h,
    map_dropReturn_cutAt h]

/-- A line of the text is one of the text with returns, with or without one at its end. -/
lemma getElem?_cutAt_withReturns (h : '\r' ∉ text.toList) {row : Nat} {line : List Char}
    (hline : (cutAt '\n' text.toList)[row]? = some line) :
    ∃ more, (cutAt '\n' (withReturns text).toList)[row]? = some (line ++ more) := by
  rw [← map_dropReturn_cutAt_addReturns h, List.getElem?_map, Option.map_eq_some_iff] at hline
  obtain ⟨marked, hmarked, rfl⟩ := hline
  rw [withReturns, String.toList_ofList, hmarked]
  obtain ⟨more, hmore⟩ := dropReturn_isPrefix marked
  exact ⟨more, by rw [hmore]⟩

lemma size_byteRows_withReturns (h : '\r' ∉ text.toList) :
    (byteRows (withReturns text)).size = (byteRows text).size := by
  rw [size_byteRows, size_byteRows, ← map_dropReturn_cutAt_addReturns h, List.length_map,
    withReturns, String.toList_ofList]

end

/-! ### Points -/

/-- Whether a point has no negative part and does not lie past the end of its row, if there is such
a row. -/
def Point.WithinRow (rows : Array (List UInt8)) (point : Point) : Prop :=
  0 ≤ point.row ∧ 0 ≤ point.column ∧
    (point.row < rows.size → point.column ≤ (rows.getD point.row.toNat []).length)

instance (rows : Array (List UInt8)) (point : Point) : Decidable (point.WithinRow rows) :=
  inferInstanceAs (Decidable (_ ∧ _))

/-- A point has a place, and with returns it has the same. -/
lemma Point.WithinRow.charPoint_withReturns {text : String} {point : Point}
    (h : point.WithinRow (byteRows text)) (hreturn : '\r' ∉ text.toList) :
    ∃ place, charPoint (byteRows text) point = .ok place ∧
      charPoint (byteRows (withReturns text)) point = .ok place := by
  obtain ⟨row, column⟩ := point
  obtain ⟨hrow, hcolumn, hlength⟩ := h
  by_cases hsize : ((byteRows text).size : Int) ≤ row
  · refine ⟨⟨row, column⟩, ?_, ?_⟩
    · rw [charPoint, if_pos hsize]
    · rw [charPoint, if_pos (by rw [size_byteRows_withReturns hreturn]; exact hsize)]
  · lift row to Nat using hrow
    lift column to Nat using hcolumn
    have hlt : row < (cutAt '\n' text.toList).length := by
      rw [size_byteRows] at hsize
      omega
    obtain ⟨line, hline⟩ : ∃ line, (cutAt '\n' text.toList)[row]? = some line :=
      ⟨_, List.getElem?_eq_getElem hlt⟩
    obtain ⟨more, hmore⟩ := getElem?_cutAt_withReturns hreturn hline
    have hcount : column ≤ (bytes line).length := by
      have hle := hlength (Int.not_le.mp hsize)
      rw [Int.toNat_natCast, getD_byteRows hline] at hle
      exact Int.ofNat_le.mp hle
    refine ⟨_, charPoint_of_getElem? hline column, ?_⟩
    rw [charPoint_of_getElem? hmore, bytes_append, charColumn_take hcount]

/-! ### Trees -/

lemma SourceView.agreeOn_withReturns {text : String} {root : Node}
    (hreturn : '\r' ∉ text.toList)
    (h : root.EachPoint (Point.WithinRow (byteRows text))) :
    (SourceView.ofText (withReturns text)).AgreeOn (.ofText text) root := by
  refine ⟨splitLines_withReturns hreturn, h.imp ?_⟩
  intro point hpoint
  obtain ⟨place, hplace, hmarked⟩ := hpoint.charPoint_withReturns hreturn
  exact hmarked.trans hplace.symm

/-- A tree over a text without returns gives the same over the text with a return before each line
feed: the same lines, the same listing and the same visit, which records the same, gives the same
notices and ends in the same failure, if it ends in one. There is always a listing, and a failure is
over a point outside the lines. -/
theorem returns_tell_nothing_apart (language text : String) (root : Node)
    (hreturn : '\r' ∉ text.toList) (hpoints : root.EachPoint (Point.WithinRow (byteRows text))) :
    let plain := SourceTree.parse (fun _ => root) language text
    let marked := SourceTree.parse (fun _ => root) language (withReturns text)
    marked.lines = plain.lines ∧
    (∀ indent, ∃ listing,
      plain.listing indent = .ok listing ∧ marked.listing indent = .ok listing) ∧
    marked.visit = plain.visit ∧
    ∀ failure, plain.visit.failure = some failure →
      ∃ point, failure = .span (plain.lines.faultAt point) := by
  intro plain marked
  have agree := SourceView.agreeOn_withReturns hreturn hpoints
  have hplaces : root.EachPoint fun point =>
      ∃ place, (SourceView.ofText text).place point = .ok place := by
    refine hpoints.imp ?_
    intro point hpoint
    obtain ⟨place, hplace, -⟩ := hpoint.charPoint_withReturns hreturn
    exact ⟨place, hplace⟩
  refine ⟨agree.lines, ?_, ?_, ?_⟩
  · intro indent
    obtain ⟨listing, hlisting⟩ := hplaces.exists_listingIn_of_places indent
    exact ⟨listing, hlisting, (agree.listingIn_eq indent).trans hlisting⟩
  · calc marked.visit
        = buildContext plain.lines marked.view root :=
          congrArg (buildContext · marked.view root) agree.lines
      _ = plain.visit := agree.visit_eq _ _
  · intro failure hfailure
    have closed : (({} : Store String).newFile plain.lines).1.Closed :=
      (Store.forest_empty.newFile plain.lines).closed
    exact failure_visit_of_places closed Nat.zero_lt_one hplaces hfailure

/-- A text with a letter of two bytes and a line feed. -/
def breakText : String := "import é;\nf"

/-- A tree of that text with an import in its first row and a call that ends past its last. -/
def breakTree (stop : Int) : Node :=
  ⟨"program", ⟨0, 0⟩, ⟨7, 0⟩, [
    ⟨"import_declaration", ⟨0, 0⟩, ⟨0, 10⟩, []⟩,
    ⟨"method_invocation", ⟨1, 0⟩, ⟨9, 0⟩, [⟨"identifier", ⟨1, 0⟩, ⟨stop, 1⟩, []⟩]⟩]⟩

/-- With a return before the line feed there is the same report, and the same failure where the name
of the call ends past the last row. -/
theorem returns_tell_nothing_apart_import :
    let marked (stop : Int) :=
      SourceTree.parse (fun _ => breakTree stop) "java" (withReturns breakText)
    '\r' ∉ breakText.toList ∧
      (∀ stop ∈ [1, 2], (breakTree stop).EachPoint (Point.WithinRow (byteRows breakText))) ∧
      (marked 1).visit.failure = none ∧
      (marked 1).visit.report .text = "File\n  import é;\n  Invoke: f\n" ∧
      (marked 2).visit.failure = some (.span (.noRow 2 2)) := by
  intro marked
  have hreturn : '\r' ∉ breakText.toList := by decide +kernel
  have hpoints : ∀ stop ∈ [1, 2],
      (breakTree stop).EachPoint (Point.WithinRow (byteRows breakText)) := by
    decide +kernel
  have hvisit : ∀ stop ∈ [1, 2], (marked stop).visit =
      (SourceTree.parse (fun _ => breakTree stop) "java" breakText).visit := by
    intro stop hstop
    exact (returns_tell_nothing_apart "java" breakText (breakTree stop) hreturn
      (hpoints stop hstop)).2.2.1
  refine ⟨hreturn, hpoints, ?_, ?_, ?_⟩
  · rw [hvisit 1 (by decide)]
    decide +kernel
  · rw [hvisit 1 (by decide)]
    decide +kernel
  · rw [hvisit 2 (by decide)]
    decide +kernel

end Outline
