import Mathlib.Tactic.Common
import Outline.Proofs.Source.Spans
import Outline.Source.View

/-!
# Spans that join

Between two places of lines, read in order, stands what is before the second and not before the
first. So the span from a place to another goes on with the span from there, and their texts are put
together, whether the places share a row or not.
-/

namespace Outline

lemma Place.le_trans {first middle last : Place} (h : first ≤ middle) (h' : middle ≤ last) :
    first ≤ last := by
  rcases h with hrow | ⟨hrow, hcolumn⟩
  · rcases h' with hrow' | ⟨hrow', -⟩
    · exact .inl (Nat.lt_trans hrow hrow')
    · exact .inl (hrow' ▸ hrow)
  · rcases h' with hrow' | ⟨hrow', hcolumn'⟩
    · exact .inl (hrow ▸ hrow')
    · exact .inr ⟨hrow.trans hrow', Nat.le_trans hcolumn hcolumn'⟩

namespace Lines

variable {lines : Lines} {first middle last : Place}

/-- The characters of lines before a place. -/
def before (lines : Lines) (place : Place) : List Char :=
  (lines.toList.take place.row).flatMap String.toList ++ (lines.chars place.row).take place.column

/-- The characters of the row after some rows. -/
lemma flatMap_take_succ (lines : Lines) (row : Nat) :
    (lines.toList.take (row + 1)).flatMap String.toList =
      (lines.toList.take row).flatMap String.toList ++ lines.chars row := by
  rw [List.take_add_one, List.flatMap_append, chars, Array.getD_eq_getD_getElem?,
    ← Array.getElem?_toList]
  cases lines.toList[row]? <;> simp

/-- The slice between two places leads from what is before the first to what is before the
second. -/
lemma before_append_slice (h : first ≤ last) :
    lines.before first ++ lines.slice first last = lines.before last := by
  obtain ⟨row, column⟩ := first
  obtain ⟨row', column'⟩ := last
  rcases h with hrow | ⟨hrow, hcolumn⟩
  · dsimp only at hrow
    have hrest : (lines.toList.take row').drop (row + 1) =
        (lines.extract (row + 1) row').toList := by
      simp [List.drop_take]
    have hrows : (lines.toList.take row').flatMap String.toList =
        (lines.toList.take (row + 1)).flatMap String.toList
          ++ (lines.extract (row + 1) row').toList.flatMap String.toList := by
      rw [← hrest, ← List.flatMap_append]
      conv_lhs => rw [← List.take_append_drop (row + 1) (lines.toList.take row'), List.take_take,
        Nat.min_eq_left hrow]
    rw [before, before, slice, if_neg (Nat.ne_of_lt hrow), hrows, flatMap_take_succ]
    conv_rhs => rw [← List.take_append_drop column (lines.chars row)]
    simp only [List.append_assoc]
  · dsimp only at hrow hcolumn
    subst hrow
    have htake : (lines.chars row).take column = ((lines.chars row).take column').take column := by
      rw [List.take_take, Nat.min_eq_left hcolumn]
    rw [before, before, slice, if_pos rfl, List.append_assoc, htake, List.take_append_drop]

/-- The slice from a place to another goes on with the slice from there. -/
lemma slice_append (h : first ≤ middle) (h' : middle ≤ last) :
    lines.slice first middle ++ lines.slice middle last = lines.slice first last := by
  have hsame : lines.before first ++ (lines.slice first middle ++ lines.slice middle last) =
      lines.before first ++ lines.slice first last := by
    rw [← List.append_assoc, before_append_slice h, before_append_slice h',
      before_append_slice (Place.le_trans h h')]
  exact List.append_cancel_left hsame

end Lines

/-! ### Points of a view -/

instance (first last : Place) : Decidable (first ≤ last) :=
  inferInstanceAs (Decidable (_ ∨ _ ∧ _))

namespace SourceView

/-- The place of a point of a tree in the lines of a view, if it lies in them. -/
def place? (view : SourceView) (point : Point) : Option Place :=
  (view.place point >>= view.lines.locate).toOption

/-- Whether two points of a tree lie in the lines of a view, the first not after the second. -/
def Precedes (view : SourceView) (start stop : Point) : Prop :=
  ∃ first ∈ view.place? start, ∃ last ∈ view.place? stop, first ≤ last

instance (view : SourceView) (start stop : Point) : Decidable (view.Precedes start stop) :=
  inferInstanceAs (Decidable (∃ first ∈ view.place? start, ∃ last ∈ view.place? stop, first ≤ last))

variable {view : SourceView} {a b c d : Point}

lemma place?_eq_some {place : Place} (h : view.place? a = some place) :
    ∃ point, view.place a = .ok point ∧ view.lines.locate point = .ok place := by
  rw [place?] at h
  cases hpoint : view.place a with
  | error error =>
    rw [hpoint] at h
    cases h
  | ok point =>
    refine ⟨point, rfl, ?_⟩
    cases hplace : view.lines.locate point with
    | error error => simp [hpoint, hplace, bind, Except.bind, Except.toOption] at h
    | ok found => simpa [hpoint, hplace, bind, Except.bind, Except.toOption] using h

lemma spanText_of_places {first last : Place} (hfirst : view.place? a = some first)
    (hlast : view.place? b = some last) :
    view.spanText a b = .ok (String.ofList (view.lines.slice first last)) := by
  obtain ⟨start, hstart, hfirst⟩ := place?_eq_some hfirst
  obtain ⟨stop, hstop, hlast⟩ := place?_eq_some hlast
  simp only [spanText, hstart, hstop, bind, Except.bind, Lines.spanText, hfirst, hlast]
  rfl

namespace Precedes

lemma trans (h : view.Precedes a b) (h' : view.Precedes b c) : view.Precedes a c := by
  obtain ⟨first, hfirst, middle, hmiddle, hle⟩ := h
  obtain ⟨middle', hmiddle', last, hlast, hle'⟩ := h'
  cases Option.mem_unique hmiddle hmiddle'
  exact ⟨first, hfirst, last, hlast, Place.le_trans hle hle'⟩

lemma exists_place (h : view.Precedes a b) : ∃ point, view.place a = .ok point := by
  obtain ⟨first, hfirst, -⟩ := h
  obtain ⟨point, hpoint, -⟩ := place?_eq_some hfirst
  exact ⟨point, hpoint⟩

/-- There is a text between such points. -/
lemma exists_spanText (h : view.Precedes a b) : ∃ text, view.spanText a b = .ok text := by
  obtain ⟨first, hfirst, last, hlast, -⟩ := h
  exact ⟨_, spanText_of_places hfirst hlast⟩

/-- The texts of two spans, one of which goes on where the other ends, are put together. -/
lemma spanText_append (h : view.Precedes a b) (h' : view.Precedes b c) {text more : String}
    (htext : view.spanText a b = .ok text) (hmore : view.spanText b c = .ok more) :
    view.spanText a c = .ok (text ++ more) := by
  obtain ⟨first, hfirst, middle, hmiddle, hle⟩ := h
  obtain ⟨middle', hmiddle', last, hlast, hle'⟩ := h'
  cases Option.mem_unique hmiddle hmiddle'
  rw [spanText_of_places hfirst hmiddle, Except.ok.injEq] at htext
  rw [spanText_of_places hmiddle hlast, Except.ok.injEq] at hmore
  rw [spanText_of_places hfirst hlast, ← htext, ← hmore, ← String.ofList_append,
    Lines.slice_append hle hle']

/-- So are those of two spans with nothing between them. -/
lemma spanText_adjoin (hab : view.Precedes a b) (hbc : view.Precedes b c)
    (hcd : view.Precedes c d) {text more : String} (htext : view.spanText a b = .ok text)
    (hgap : view.spanText b c = .ok "") (hmore : view.spanText c d = .ok more) :
    view.spanText a d = .ok (text ++ more) := by
  have hboth := hab.spanText_append hbc htext hgap
  rw [String.append_empty] at hboth
  exact (hab.trans hbc).spanText_append hcd hboth hmore

end Precedes

end SourceView

end Outline
