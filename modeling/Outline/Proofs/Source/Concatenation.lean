import Outline.Proofs.Source.Joining

/-!
# Spans and the lines put together

Put together, lines are one row of characters, and a point inside them stands after some number of
these. A span whose end is not before its start is what of that row stands between the two numbers.
So spans that follow each other join, a span from a point to itself is empty, and the longest span
is the whole row. A reading of spans that has these laws, and gives none more characters than its
points are apart, is this one. The laws by themselves would let a span have the letters of another.
-/

namespace Outline

/-- Points are read row by row, and in a row from left to right. -/
instance : LE Point where
  le first second :=
    first.row < second.row ∨ first.row = second.row ∧ first.column ≤ second.column

instance (first last : Point) : Decidable (first ≤ last) :=
  inferInstanceAs (Decidable (_ ∨ _ ∧ _))

lemma Place.toPoint_le_toPoint {first last : Place} :
    first.toPoint ≤ last.toPoint ↔ first ≤ last := by
  change ((first.row : Int) < last.row ∨ (first.row : Int) = last.row ∧
    (first.column : Int) ≤ last.column) ↔
      (first.row < last.row ∨ first.row = last.row ∧ first.column ≤ last.column)
  omega

namespace Lines

/-- Whether two points lie inside lines, the first not after the second. -/
def Ordered (lines : Lines) (first last : Point) : Prop :=
  ¬ lines.Outside first ∧ ¬ lines.Outside last ∧ first ≤ last

instance (lines : Lines) (first last : Point) : Decidable (lines.Ordered first last) :=
  inferInstanceAs (Decidable (_ ∧ _))

/-- The place at the end of the last line. -/
def lastPlace (lines : Lines) : Place :=
  ⟨lines.size - 1, (lines.chars (lines.size - 1)).length⟩

/-- The number of characters of lines before a point. -/
def offset (lines : Lines) (point : Point) : Nat :=
  (String.join (lines.toList.take point.row.toNat)).length + point.column.toNat

/-- What of the lines put together stands between two points. -/
def between (lines : Lines) (first last : Point) : String :=
  String.ofList (((String.join lines.toList).toList.take (lines.offset last)).drop
    (lines.offset first))

/-- The laws of reading spans of lines: a span goes on with the one that begins where it ends,
nothing stands between a point and itself, and the longest span is all lines put together. -/
structure SpanLaws (lines : Lines) (read : Point → Point → Except SpanError String) : Prop where
  append : ∀ {a b c}, lines.Ordered a b → lines.Ordered b c → ∃ text more,
    read a b = .ok text ∧ read b c = .ok more ∧ read a c = .ok (text ++ more)
  empty : ∀ {a}, ¬ lines.Outside a → read a a = .ok ""
  whole : 0 < lines.size → read ⟨0, 0⟩ lines.lastPlace.toPoint = .ok (String.join lines.toList)

/-- Whether a reading gives no span more characters than its points are apart. -/
def NoWider (lines : Lines) (read : Point → Point → Except SpanError String) : Prop :=
  ∀ a b text, lines.Ordered a b → read a b = .ok text →
    text.length ≤ lines.offset b - lines.offset a

variable {lines : Lines} {first last place : Place} {a b : Point}

/-! ### Points inside lines -/

/-- The points inside lines are those of the places that the lines hold. -/
lemma exists_place_of_not_outside (h : ¬ lines.Outside a) :
    ∃ place, a = place.toPoint ∧ lines.Holds place := by
  obtain ⟨place, hplace⟩ := exists_locate_eq_ok h
  exact ⟨place, locate_eq_ok_iff.mp hplace⟩

lemma Holds.not_outside (h : lines.Holds place) : ¬ lines.Outside place.toPoint :=
  exists_locate_iff.mp ⟨place, locate_eq_ok_iff.mpr ⟨rfl, h⟩⟩

lemma Ordered.exists_places (h : lines.Ordered a b) :
    ∃ first last, a = first.toPoint ∧ b = last.toPoint ∧ lines.Holds first ∧ lines.Holds last ∧
      first ≤ last := by
  obtain ⟨ha, hb, hle⟩ := h
  obtain ⟨first, rfl, hfirst⟩ := exists_place_of_not_outside ha
  obtain ⟨last, rfl, hlast⟩ := exists_place_of_not_outside hb
  exact ⟨first, last, rfl, rfl, hfirst, hlast, Place.toPoint_le_toPoint.mp hle⟩

namespace Holds

lemma row_lt (h : lines.Holds place) : place.row < lines.size := by
  obtain ⟨line, hline, -⟩ := h
  exact (Array.getElem?_eq_some_iff.mp hline).1

lemma size_pos (h : lines.Holds place) : 0 < lines.size :=
  Nat.zero_lt_of_lt h.row_lt

lemma column_le (h : lines.Holds place) : place.column ≤ (lines.chars place.row).length := by
  obtain ⟨line, hline, hcolumn⟩ := h
  rw [chars, Array.getD_eq_getD_getElem?, hline, Option.getD_some, String.length_toList]
  exact hcolumn

lemma le_lastPlace (h : lines.Holds place) : place ≤ lines.lastPlace := by
  have hrow := h.row_lt
  rcases Nat.lt_or_ge place.row (lines.size - 1) with hlt | hge
  · exact .inl hlt
  · have heq : place.row = lines.size - 1 := by omega
    refine .inr ⟨heq, ?_⟩
    rw [lastPlace, ← heq]
    exact h.column_le

lemma ordered (hfirst : lines.Holds first) (hlast : lines.Holds last) (hle : first ≤ last) :
    lines.Ordered first.toPoint last.toPoint :=
  ⟨hfirst.not_outside, hlast.not_outside, Place.toPoint_le_toPoint.mpr hle⟩

end Holds

lemma holds_of_column_le (hrow : place.row < lines.size)
    (hcolumn : place.column ≤ (lines.chars place.row).length) : lines.Holds place := by
  refine ⟨lines[place.row], Array.getElem?_eq_getElem hrow, ?_⟩
  rwa [length_chars hrow] at hcolumn

lemma holds_first (h : 0 < lines.size) : lines.Holds ⟨0, 0⟩ :=
  holds_of_column_le h (Nat.zero_le _)

lemma holds_lastPlace (h : 0 < lines.size) : lines.Holds lines.lastPlace :=
  holds_of_column_le (Nat.sub_lt h Nat.one_pos) (Nat.le_refl _)

lemma first_le (place : Place) : (⟨0, 0⟩ : Place) ≤ place := by
  rcases Nat.eq_zero_or_pos place.row with hrow | hrow
  · exact .inr ⟨hrow.symm, Nat.zero_le _⟩
  · exact .inl hrow

lemma Holds.ordered_first (h : lines.Holds place) : lines.Ordered ⟨0, 0⟩ place.toPoint :=
  (holds_first h.size_pos).ordered h (first_le place)

lemma Holds.ordered_last (h : lines.Holds place) :
    lines.Ordered place.toPoint lines.lastPlace.toPoint :=
  h.ordered (holds_lastPlace h.size_pos) h.le_lastPlace

/-! ### Numbers of characters -/

lemma length_before (h : lines.Holds place) :
    (lines.before place).length = lines.offset place.toPoint := by
  rw [before, List.length_append, List.length_take_of_le h.column_le, ← String.toList_join,
    String.length_toList]
  rfl

/-- All lines stand before the end of the last one. -/
lemma before_lastPlace (h : 0 < lines.size) :
    lines.before lines.lastPlace = (String.join lines.toList).toList := by
  have hrows : lines.toList.take (lines.size - 1 + 1) = lines.toList := by
    rw [Nat.sub_add_cancel h, ← Array.length_toList, List.take_length]
  rw [String.toList_join, before, lastPlace, List.take_length, ← flatMap_take_succ, hrows]

lemma offset_first (lines : Lines) : lines.offset ⟨0, 0⟩ = 0 := by
  simp [offset]

lemma offset_lastPlace (h : 0 < lines.size) :
    lines.offset lines.lastPlace.toPoint = (String.join lines.toList).length := by
  rw [← length_before (holds_lastPlace h), before_lastPlace h, String.length_toList]

lemma offset_mono (hfirst : lines.Holds first) (hlast : lines.Holds last) (hle : first ≤ last) :
    lines.offset first.toPoint ≤ lines.offset last.toPoint := by
  rw [← length_before hfirst, ← length_before hlast, ← before_append_slice hle, List.length_append]
  exact Nat.le_add_right _ _

/-- A slice is what of the lines put together stands between the numbers of its places. -/
lemma ofList_slice (hfirst : lines.Holds first) (hlast : lines.Holds last) (hle : first ≤ last) :
    String.ofList (lines.slice first last) = lines.between first.toPoint last.toPoint := by
  have hwhole : (String.join lines.toList).toList =
      lines.before last ++ lines.slice last lines.lastPlace := by
    rw [before_append_slice hlast.le_lastPlace, before_lastPlace hlast.size_pos]
  rw [between, hwhole, ← length_before hlast, List.take_left, ← before_append_slice hle,
    ← length_before hfirst, List.drop_left]

lemma spanText_eq_between (h : lines.Ordered a b) :
    lines.spanText a b = .ok (lines.between a b) := by
  obtain ⟨first, last, rfl, rfl, hfirst, hlast, hle⟩ := h.exists_places
  rw [spanText_eq_ok hfirst hlast, ofList_slice hfirst hlast hle]

/-! ### The laws -/

lemma slice_self (lines : Lines) (place : Place) : lines.slice place place = [] := by
  rw [slice, if_pos rfl]
  exact List.drop_eq_nil_of_le (List.length_take_le _ _)

lemma spanText_whole (h : 0 < lines.size) :
    lines.spanText ⟨0, 0⟩ lines.lastPlace.toPoint = .ok (String.join lines.toList) := by
  have hslice : lines.slice ⟨0, 0⟩ lines.lastPlace = (String.join lines.toList).toList := by
    rw [← before_lastPlace h, ← before_append_slice (first_le lines.lastPlace)]
    rfl
  change lines.spanText (Place.mk 0 0).toPoint _ = _
  rw [spanText_eq_ok (holds_first h) (holds_lastPlace h), hslice, String.ofList_toList]

lemma spanLaws_spanText (lines : Lines) : lines.SpanLaws lines.spanText where
  append := by
    rintro a b c ⟨ha, hb, hab⟩ ⟨-, hc, hbc⟩
    obtain ⟨first, rfl, hfirst⟩ := exists_place_of_not_outside ha
    obtain ⟨middle, rfl, hmiddle⟩ := exists_place_of_not_outside hb
    obtain ⟨last, rfl, hlast⟩ := exists_place_of_not_outside hc
    rw [Place.toPoint_le_toPoint] at hab hbc
    refine ⟨_, _, spanText_eq_ok hfirst hmiddle, spanText_eq_ok hmiddle hlast, ?_⟩
    rw [spanText_eq_ok hfirst hlast, ← slice_append hab hbc, String.ofList_append]
  empty := by
    intro a ha
    obtain ⟨place, rfl, hplace⟩ := exists_place_of_not_outside ha
    rw [spanText_eq_ok hplace hplace, slice_self, String.ofList_nil]
  whole := spanText_whole

/-- Between two points stand no more characters than the points are apart. -/
lemma noWider_spanText (lines : Lines) : lines.NoWider lines.spanText := by
  intro a b text h htext
  rw [spanText_eq_between h, Except.ok.injEq] at htext
  rw [← htext, between, String.length_ofList, List.length_drop]
  exact Nat.sub_le_sub_right (List.length_take_le _ _) _

/-! ### Readings with the laws -/

section

variable {read : Point → Point → Except SpanError String}

/-- A reading that has the laws reads the lines put together in three pieces: what is before a span,
the span and what is after it. -/
lemma SpanLaws.exists_pieces (laws : lines.SpanLaws read) (hfirst : lines.Holds first)
    (hlast : lines.Holds last) (hle : first ≤ last) :
    ∃ before text after, read ⟨0, 0⟩ first.toPoint = .ok before ∧
      read first.toPoint last.toPoint = .ok text ∧
      read last.toPoint lines.lastPlace.toPoint = .ok after ∧
      String.join lines.toList = before ++ text ++ after := by
  obtain ⟨before, text, hbefore, htext, hboth⟩ :=
    laws.append hfirst.ordered_first (hfirst.ordered hlast hle)
  obtain ⟨both, after, hboth', hafter, hall⟩ := laws.append hlast.ordered_first hlast.ordered_last
  rw [hboth, Except.ok.injEq] at hboth'
  rw [laws.whole hfirst.size_pos, Except.ok.injEq, ← hboth'] at hall
  exact ⟨before, text, after, hbefore, htext, hafter, hall⟩

/-- Points that are moved inside the lines, none past another and the first and the last not at all,
are read with the same laws. -/
lemma SpanLaws.of_moved (laws : lines.SpanLaws read) {move : Point → Point}
    (hmove : ∀ a b, lines.Ordered a b → lines.Ordered (move a) (move b))
    (hstart : move ⟨0, 0⟩ = ⟨0, 0⟩)
    (hstop : move lines.lastPlace.toPoint = lines.lastPlace.toPoint) :
    lines.SpanLaws fun a b => read (move a) (move b) where
  append := fun hab hbc => laws.append (hmove _ _ hab) (hmove _ _ hbc)
  empty := fun {a} ha => laws.empty (hmove a a ⟨ha, ha, .inr ⟨rfl, Int.le_refl _⟩⟩).1
  whole := by
    intro h
    rw [hstart, hstop]
    exact laws.whole h

/-- Of such pieces none can be shorter than its points are apart, since together they are as long as
the lines. -/
lemma SpanLaws.eq_between (laws : lines.SpanLaws read) (hread : lines.NoWider read)
    (h : lines.Ordered a b) : read a b = .ok (lines.between a b) := by
  obtain ⟨first, last, rfl, rfl, hfirst, hlast, hle⟩ := h.exists_places
  obtain ⟨before, text, after, hbefore, htext, hafter, hall⟩ :=
    laws.exists_pieces hfirst hlast hle
  -- the bounds of the three pieces add up to the length of the lines, so that each is reached
  have hbefore_le := hread _ _ _ hfirst.ordered_first hbefore
  have htext_le := hread _ _ _ h htext
  have hafter_le := hread _ _ _ hlast.ordered_last hafter
  rw [offset_first, Nat.sub_zero] at hbefore_le
  have hoffset := offset_mono hfirst hlast hle
  have hoffset' := offset_mono hlast (holds_lastPlace hfirst.size_pos) hlast.le_lastPlace
  have hlength := congrArg String.length hall
  rw [String.length_append, String.length_append, ← offset_lastPlace hfirst.size_pos] at hlength
  have hfirst_eq : lines.offset first.toPoint = before.toList.length := by
    rw [String.length_toList]
    omega
  have hlast_eq : lines.offset last.toPoint = (before.toList ++ text.toList).length := by
    rw [List.length_append, String.length_toList, String.length_toList]
    omega
  rw [htext, between, hall, String.toList_append, String.toList_append, hlast_eq, List.take_left,
    hfirst_eq, List.drop_left, String.ofList_toList]

end

end Lines

/-- Spans of lines concatenate: reading them has the three laws. The slice of a span whose end is
not before its start is what of the lines put together stands between the numbers of characters
before its points. The laws fix it together with a fourth: any reading that has them and gives no
span more characters than its points are apart reads the same. -/
theorem spans_concatenate (lines : Lines) :
    lines.SpanLaws lines.spanText ∧
      (∀ a b, lines.Ordered a b → lines.spanText a b = .ok (lines.between a b)) ∧
      lines.NoWider lines.spanText ∧
      ∀ read, lines.SpanLaws read → lines.NoWider read →
        ∀ a b, lines.Ordered a b → read a b = lines.spanText a b := by
  refine ⟨lines.spanLaws_spanText, fun a b => Lines.spanText_eq_between, lines.noWider_spanText, ?_⟩
  intro read laws hread a b h
  rw [laws.eq_between hread h, Lines.spanText_eq_between h]

/-- A line of two letters. -/
def pairLine : Lines :=
  #["ab"]

/-- The start of that line for the point between its letters, and every other point for itself. -/
def pairStart (point : Point) : Point :=
  if point = ⟨0, 1⟩ then ⟨0, 0⟩ else point

lemma pairLine_points {point : Point} (h : ¬ pairLine.Outside point) :
    point = ⟨0, 0⟩ ∨ point = ⟨0, 1⟩ ∨ point = ⟨0, 2⟩ := by
  obtain ⟨⟨row, column⟩, rfl, hholds⟩ := Lines.exists_place_of_not_outside h
  obtain rfl : row = 0 := Nat.lt_one_iff.mp hholds.row_lt
  have hlength : (pairLine.chars 0).length = 2 := by decide +kernel
  have hcolumn : column ≤ 2 := hlength ▸ hholds.column_le
  simp only [Place.toPoint, Point.mk.injEq]
  omega

lemma ordered_pairStart {a b : Point} (h : pairLine.Ordered a b) :
    pairLine.Ordered (pairStart a) (pairStart b) := by
  obtain ⟨ha, hb, hle⟩ := h
  rcases pairLine_points ha with rfl | rfl | rfl <;>
  rcases pairLine_points hb with rfl | rfl | rfl <;>
    revert hle <;> decide +kernel

/-- The three laws alone do not fix the slices. A reading has them too which in a line of two
letters gives both of them to the span that begins after the first, and none to the span before. -/
theorem laws_leave_slices_open :
    pairLine.SpanLaws (fun a b => pairLine.spanText (pairStart a) (pairStart b)) ∧
      pairLine.Ordered ⟨0, 0⟩ ⟨0, 1⟩ ∧ pairLine.Ordered ⟨0, 1⟩ ⟨0, 2⟩ ∧
      pairLine.spanText (pairStart ⟨0, 0⟩) (pairStart ⟨0, 1⟩) = .ok "" ∧
      pairLine.spanText (pairStart ⟨0, 1⟩) (pairStart ⟨0, 2⟩) = .ok "ab" ∧
      pairLine.spanText ⟨0, 0⟩ ⟨0, 1⟩ = .ok "a" ∧ pairLine.spanText ⟨0, 1⟩ ⟨0, 2⟩ = .ok "b" := by
  refine ⟨?_, by decide +kernel⟩
  exact (Lines.spanLaws_spanText pairLine).of_moved (fun _ _ => ordered_pairStart) (by decide)
    (by decide +kernel)

/-- Three lines, the second of them empty. -/
def gappedLines : Lines :=
  #["ab", "", "c"]

/-- A span over all three lines is put together from two that meet in the empty one. -/
theorem spans_concatenate_gapped :
    (∃ text more, gappedLines.spanText ⟨0, 1⟩ ⟨1, 0⟩ = .ok text ∧
        gappedLines.spanText ⟨1, 0⟩ ⟨2, 1⟩ = .ok more ∧
        gappedLines.spanText ⟨0, 1⟩ ⟨2, 1⟩ = .ok (text ++ more)) ∧
      gappedLines.spanText ⟨1, 0⟩ ⟨1, 0⟩ = .ok "" ∧
      gappedLines.spanText ⟨0, 0⟩ ⟨2, 1⟩ = .ok "abc" ∧
      gappedLines.spanText ⟨0, 1⟩ ⟨2, 1⟩ = .ok (gappedLines.between ⟨0, 1⟩ ⟨2, 1⟩) ∧
      gappedLines.between ⟨0, 1⟩ ⟨2, 1⟩ = "bc" := by
  obtain ⟨laws, hbetween, hnoWider, hfixed⟩ := spans_concatenate gappedLines
  have hordered : gappedLines.Ordered ⟨0, 1⟩ ⟨2, 1⟩ := by decide +kernel
  refine ⟨laws.append (by decide +kernel) (by decide +kernel), laws.empty (by decide +kernel),
    laws.whole (by decide), ?_, by decide +kernel⟩
  rw [hfixed _ laws hnoWider _ _ hordered]
  exact hbetween _ _ hordered

end Outline
