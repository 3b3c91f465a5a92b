import Mathlib.Tactic.Common
import Outline.Source.Span

/-!
# Places and spans of lines

The points that lie inside lines are those of places that the lines hold, and the span between two
such points is the slice between their places. A point that lies outside is refused with an error
that names its row or its column.
-/

namespace Outline

/-- The point of a place. -/
def Place.toPoint (place : Place) : Point :=
  ⟨place.row, place.column⟩

/-- Places are read row by row, and in a row from left to right. -/
instance : LE Place where
  le first second :=
    first.row < second.row ∨ first.row = second.row ∧ first.column ≤ second.column

namespace Lines

variable {lines : Lines}

/-- Whether a place lies inside lines: it may be just past the last character of its line. -/
def Holds (lines : Lines) (place : Place) : Prop :=
  ∃ line, lines[place.row]? = some line ∧ place.column ≤ line.length

/-- A point is located where it lies, and only inside the lines. -/
lemma locate_eq_ok_iff {point : Point} {place : Place} :
    lines.locate point = .ok place ↔ point = place.toPoint ∧ lines.Holds place := by
  obtain ⟨row, column⟩ := point
  constructor
  · intro h
    unfold locate at h
    split at h
    · cases h
    · next hrow =>
      split at h
      · cases h
      · next line hline =>
        split at h
        · cases h
        · next hcolumn =>
          simp only [Bool.or_eq_true, decide_eq_true_eq, not_or] at hcolumn
          cases h
          refine ⟨?_, line, hline, ?_⟩
          · rw [Place.toPoint, Point.mk.injEq]
            dsimp only at hrow hcolumn ⊢
            omega
          · dsimp only at hcolumn ⊢
            omega
  · rintro ⟨hpoint, line, hline, hcolumn⟩
    cases hpoint
    have hrow : ¬ (place.row : Int) < 0 := by omega
    have hcolumn' : ¬ ((place.column : Int) < 0 || line.length < (place.column : Int)) = true := by
      simp only [Bool.or_eq_true, decide_eq_true_eq]
      omega
    simp only [locate, if_neg hrow, Int.toNat_natCast, hline, if_neg hcolumn']

lemma spanText_eq_ok {first last : Place} (hfirst : lines.Holds first) (hlast : lines.Holds last) :
    lines.spanText first.toPoint last.toPoint = .ok (String.ofList (lines.slice first last)) := by
  rw [spanText, locate_eq_ok_iff.mpr ⟨rfl, hfirst⟩, locate_eq_ok_iff.mpr ⟨rfl, hlast⟩]
  rfl

/-! ### Points outside -/

/-- Whether a point lies outside lines: there is no such row, or its line has no such column. -/
def Outside (lines : Lines) (point : Point) : Prop :=
  point.row < 0 ∨ lines.size ≤ point.row ∨ point.column < 0 ∨
    (lines.chars point.row.toNat).length < point.column

instance (lines : Lines) (point : Point) : Decidable (lines.Outside point) :=
  inferInstanceAs (Decidable (_ ∨ _ ∨ _ ∨ _))

/-- What is told about a point that lies outside lines: its row if there is no such row, and else
its column. -/
def faultAt (lines : Lines) (point : Point) : SpanError :=
  if point.row < 0 ∨ lines.size ≤ point.row then .noRow point.row lines.size
  else .noColumn point.column point.row (lines.chars point.row.toNat).length

lemma length_chars {row : Nat} (h : row < lines.size) :
    (lines.chars row).length = lines[row].length := by
  simp [chars, Array.getD, h, String.length_toList]

/-- A point that lies outside is located nowhere. -/
lemma locate_eq_error {point : Point} (h : lines.Outside point) :
    lines.locate point = .error (lines.faultAt point) := by
  unfold locate faultAt
  by_cases hneg : point.row < 0
  · simp [hneg]
  · by_cases hsize : (lines.size : Int) ≤ point.row
    · have hnone : lines[point.row.toNat]? = none := by
        rw [Array.getElem?_eq_none_iff]
        omega
      simp [hneg, hsize, hnone]
    · have hlt : point.row.toNat < lines.size := by omega
      simp only [Outside, hneg, hsize, length_chars hlt, false_or] at h
      simp [hneg, hsize, length_chars hlt, Array.getElem?_eq_getElem hlt, h]

lemma exists_locate_eq_ok {point : Point} (h : ¬ lines.Outside point) :
    ∃ place, lines.locate point = .ok place := by
  simp only [Outside, not_or, Int.not_lt, Int.not_le] at h
  obtain ⟨hrow, hsize, hcolumn, hlength⟩ := h
  have hlt : point.row.toNat < lines.size := by omega
  rw [length_chars hlt] at hlength
  refine ⟨⟨point.row.toNat, point.column.toNat⟩, locate_eq_ok_iff.mpr ⟨?_, ?_⟩⟩
  · rw [Place.toPoint, Int.toNat_of_nonneg hrow, Int.toNat_of_nonneg hcolumn]
  · refine ⟨lines[point.row.toNat], Array.getElem?_eq_getElem hlt, ?_⟩
    dsimp only
    omega

lemma exists_locate_iff {point : Point} :
    (∃ place, lines.locate point = .ok place) ↔ ¬ lines.Outside point := by
  constructor
  · rintro ⟨place, hplace⟩ houtside
    rw [locate_eq_error houtside] at hplace
    cases hplace
  · exact exists_locate_eq_ok

end Lines

end Outline
