import Outline.Proofs.Source.Concatenation
import Outline.Proofs.Traversal.OneLine

/-!
# Reading a slice again

The text of a span may itself be cut into lines and read from its first point to its last. Lines
have no line feed, so that such a text is one line. A line is without the carriage return that it
ends in: all of the text is read again, save a return at its end.
-/

namespace Outline

/-- The text from the first point of a text to its last, after it is cut into lines. -/
def readAgain (text : String) : Except SpanError String :=
  (splitLines text).spanText ⟨0, 0⟩ (splitLines text).lastPlace.toPoint

/-- A text without line feeds is read again up to a return at its end. -/
lemma readAgain_of_oneLine {text : String} (h : OneLine text) :
    readAgain text = .ok (String.ofList (dropReturn text.toList)) := by
  have hlines : splitLines text = #[String.ofList (dropReturn text.toList)] := by
    rw [splitLines, cutAt_of_not_mem h]
    rfl
  have hsize : 0 < (splitLines text).size := by
    rw [hlines]
    exact Nat.one_pos
  rw [readAgain, Lines.spanText_whole hsize, hlines, String.join_cons, String.join_nil,
    String.append_empty]

/-- A slice of the lines of a text stays on one line. -/
lemma oneLine_of_spanText {text slice : String} {start stop : Point}
    (h : (splitLines text).spanText start stop = .ok slice) : OneLine slice := by
  have hlines : ∀ line ∈ (SourceView.ofLines (splitLines text)).lines, OneLine line :=
    oneLine_splitLines text
  exact oneLine_spanText hlines h

/-- Between any two points of a text there is a slice. Read again, it is the same if it does not end
in a carriage return; if it does, it is the slice without that return. -/
theorem slice_read_again (text : String) (start stop : Point)
    (hstart : ¬ (splitLines text).Outside start) (hstop : ¬ (splitLines text).Outside stop) :
    ∃ slice, (splitLines text).spanText start stop = .ok slice ∧
      (slice.toList.getLast? ≠ some '\r' → readAgain slice = .ok slice) ∧
      ∀ kept, slice = kept ++ "\r" → readAgain slice = .ok kept := by
  obtain ⟨first, rfl, hfirst⟩ := Lines.exists_place_of_not_outside hstart
  obtain ⟨last, rfl, hlast⟩ := Lines.exists_place_of_not_outside hstop
  have hslice := Lines.spanText_eq_ok hfirst hlast
  have hread := readAgain_of_oneLine (oneLine_of_spanText hslice)
  refine ⟨_, hslice, ?_, ?_⟩
  · intro hend
    rw [hread, dropReturn, if_neg hend, String.ofList_toList]
  · intro kept hkept
    rw [hread, hkept, String.toList_append]
    simp only [String.reduceToList, dropReturn_append_return, String.ofList_toList]

/-- Two lines, the first with a return inside it and one before its line feed. -/
def returnText : String :=
  "ab\rc\r\nde"

/-- A slice over both lines is read again with the return inside it. One that ends in that return is
read again without it. -/
theorem slice_read_again_returns :
    (∃ slice, (splitLines returnText).spanText ⟨0, 1⟩ ⟨1, 1⟩ = .ok slice ∧
        slice = "b\rcd" ∧ readAgain slice = .ok slice) ∧
      ∃ slice, (splitLines returnText).spanText ⟨0, 1⟩ ⟨0, 3⟩ = .ok slice ∧
        slice = "b\r" ∧ readAgain slice = .ok "b" := by
  have hboth : (splitLines returnText).spanText ⟨0, 1⟩ ⟨1, 1⟩ = .ok "b\rcd" := by decide +kernel
  have hfirst : (splitLines returnText).spanText ⟨0, 1⟩ ⟨0, 3⟩ = .ok "b\r" := by decide +kernel
  constructor
  · obtain ⟨slice, hslice, hkeep, -⟩ :=
      slice_read_again returnText ⟨0, 1⟩ ⟨1, 1⟩ (by decide +kernel) (by decide +kernel)
    obtain rfl : "b\rcd" = slice := by rwa [hboth, Except.ok.injEq] at hslice
    exact ⟨_, hslice, rfl, hkeep (by decide +kernel)⟩
  · obtain ⟨slice, hslice, -, hdrop⟩ :=
      slice_read_again returnText ⟨0, 1⟩ ⟨0, 3⟩ (by decide +kernel) (by decide +kernel)
    obtain rfl : "b\r" = slice := by rwa [hfirst, Except.ok.injEq] at hslice
    exact ⟨_, hslice, rfl, hdrop "b" rfl⟩

/-- A slice of one line that ends in a return is not the same when it is read again. -/
theorem slice_read_again_loses_return :
    ¬ (splitLines "a\rb").Outside ⟨0, 0⟩ ∧ ¬ (splitLines "a\rb").Outside ⟨0, 2⟩ ∧
      (splitLines "a\rb").spanText ⟨0, 0⟩ ⟨0, 2⟩ = .ok "a\r" ∧
      readAgain "a\r" = .ok "a" ∧ readAgain "a\r" ≠ .ok "a\r" := by
  decide +kernel

end Outline
