import Outline.Proofs.Source.Acceptance

/-!
# Columns of bytes as columns of characters

A column between two characters of a row is moved to the number of characters before it, and one
inside a character to the end of that character. No column is moved to the right, and none past
another, also beyond the end of the row. So places keep their order when they are counted in
characters, and spans that follow each other or lie inside each other still do.
-/

namespace Outline

open Text.Utf8

/-! ### Columns of one row -/

/-- In a row that is not an ASCII one a column is the number of characters that the bytes before it
are read as, also past the end. -/
lemma charColumn_of_not_ascii {row : List UInt8} (h : ¬ row.all (· < 0x80)) (column : Nat) :
    charColumn row column = (decodeReplacing (row.take column)).length := by
  rcases Nat.le_total column row.length with hle | hle
  · exact charColumn_eq_length hle
  · rw [charColumn_of_length_le h hle, charColumn_eq_length (Nat.le_refl _), List.take_length,
      List.take_of_length_le hle]

/-- No column is moved past another, whatever the bytes of the row are. -/
lemma charColumn_mono (row : List UInt8) {c d : Nat} (h : c ≤ d) :
    charColumn row c ≤ charColumn row d := by
  by_cases hascii : row.all (· < 0x80)
  · rw [charColumn_of_ascii hascii, charColumn_of_ascii hascii]
    exact Int.ofNat_le.mpr h
  · rw [charColumn_of_not_ascii hascii, charColumn_of_not_ascii hascii, Int.ofNat_le]
    exact length_decodeReplacing_mono (List.take_prefix_take_left h)

/-- No column is moved to the right. -/
lemma charColumn_le_self (row : List UInt8) (column : Nat) : charColumn row column ≤ column := by
  by_cases hascii : row.all (· < 0x80)
  · exact Int.le_of_eq (charColumn_of_ascii hascii column)
  · rw [charColumn_of_not_ascii hascii, Int.ofNat_le]
    exact Nat.le_trans (length_decodeReplacing_le _) (List.length_take_le column row)

/-- A column inside a character is moved to the end of it. -/
lemma charColumn_inside {line : List Char} {k column : Nat}
    (hafter : (bytes (line.take k)).length < column)
    (hbefore : column < (bytes (line.take (k + 1))).length) :
    charColumn (bytes line) column = (k + 1 : Nat) := by
  have hk : k < line.length := by
    by_contra hge
    rw [List.take_of_length_le (by omega)] at hafter hbefore
    omega
  obtain ⟨c, htake⟩ : ∃ c, line.take (k + 1) = line.take k ++ [c] :=
    ⟨_, List.take_succ_eq_append_getElem hk⟩
  have hline : bytes line = bytes (line.take (k + 1)) ++ bytes (line.drop (k + 1)) := by
    rw [← bytes_append, List.take_append_drop]
  have hchar : bytes [c] = String.utf8EncodeChar c := by
    rw [bytes_cons, bytes_nil, List.append_nil]
  -- before the column stand the first `k` characters and at least one byte of the next
  rw [hline, charColumn_take (Nat.le_of_lt hbefore), charColumn_eq_countP (Nat.le_of_lt hbefore),
    htake, bytes_append, hchar, List.take_append, List.take_of_length_le (Nat.le_of_lt hafter),
    List.countP_append, countP_bytes, countP_take_utf8EncodeChar _ (Nat.sub_pos_of_lt hafter),
    List.length_take_of_le (Nat.le_of_lt hk)]

/-! ### Places -/

/-- The place in characters of a place in bytes. -/
def charPlace (text : String) (place : Place) : Place :=
  ⟨place.row, (charColumn ((byteRows text).getD place.row []) place.column).toNat⟩

lemma toNat_charColumn (row : List UInt8) (column : Nat) :
    ((charColumn row column).toNat : Int) = charColumn row column :=
  Int.toNat_of_nonneg (charColumn_nonneg row column)

/-- The points of places in bytes lie in the source at those of the places in characters. -/
lemma place_ofText (text : String) (place : Place) :
    (SourceView.ofText text).place place.toPoint = .ok (charPlace text place).toPoint := by
  change charPoint (byteRows text) ⟨place.row, place.column⟩ = _
  rw [charPlace, Place.toPoint, toNat_charColumn]
  cases hline : (cutAt '\n' text.toList)[place.row]? with
  | none =>
    have hnone : (byteRows text)[place.row]? = none := by rw [getElem?_byteRows, hline]; rfl
    rw [(outside_of_getElem?_none hline place.column).1, Array.getD_eq_getD_getElem?, hnone,
      Option.getD_none, charColumn_of_ascii rfl]
  | some line => rw [charPoint_of_getElem? hline, getD_byteRows hline]

lemma charPlace_column_mono (text : String) (row : Nat) {c d : Nat} (h : c ≤ d) :
    (charPlace text ⟨row, c⟩).column ≤ (charPlace text ⟨row, d⟩).column :=
  Int.toNat_le_toNat (charColumn_mono _ h)

lemma charPlace_mono (text : String) {first last : Place} (h : first ≤ last) :
    charPlace text first ≤ charPlace text last := by
  obtain ⟨row, column⟩ := first
  obtain ⟨row', column'⟩ := last
  rcases h with hrow | ⟨hrow, hcolumn⟩
  · exact .inl hrow
  · dsimp only at hrow hcolumn
    subst hrow
    exact .inr ⟨rfl, charPlace_column_mono text row hcolumn⟩

lemma charPlace_eq {text : String} {row column k : Nat} {line : List Char}
    (hline : (cutAt '\n' text.toList)[row]? = some line)
    (hcolumn : charColumn (bytes line) column = k) : charPlace text ⟨row, column⟩ = ⟨row, k⟩ := by
  rw [charPlace, getD_byteRows hline, hcolumn, Int.toNat_natCast]

/-- How places in the bytes of a text are counted in characters. A column after some characters of
its row is their number, and one inside a character is moved to its end. No column is moved to the
right or past another, whether or not the row has such a column, and even if the bytes of the row
are not those of characters. So places keep their order, and spans that follow each other or lie
inside each other still do. -/
theorem columns_exact_and_monotone (text : String) :
    (∀ place, (SourceView.ofText text).place place.toPoint = .ok (charPlace text place).toPoint) ∧
      (∀ row line, (cutAt '\n' text.toList)[row]? = some line →
        (∀ k ≤ line.length, charPlace text ⟨row, (bytes (line.take k)).length⟩ = ⟨row, k⟩) ∧
        ∀ k column, (bytes (line.take k)).length < column →
          column < (bytes (line.take (k + 1))).length →
          charPlace text ⟨row, column⟩ = ⟨row, k + 1⟩) ∧
      (∀ row c d, c ≤ d →
        (charPlace text ⟨row, c⟩).column ≤ (charPlace text ⟨row, d⟩).column) ∧
      (∀ row column, (charPlace text ⟨row, column⟩).column ≤ column) ∧
      (∀ (octets : List UInt8) (c d : Nat), c ≤ d →
        charColumn octets c ≤ charColumn octets d ∧ charColumn octets c ≤ c) ∧
      (∀ first last, first ≤ last → charPlace text first ≤ charPlace text last) ∧
      ∀ outer inner : Place × Place, outer.1 ≤ inner.1 ∧ inner.2 ≤ outer.2 →
        charPlace text outer.1 ≤ charPlace text inner.1 ∧
          charPlace text inner.2 ≤ charPlace text outer.2 := by
  refine ⟨place_ofText text, ?_, fun row c d => charPlace_column_mono text row, ?_, ?_,
    fun first last => charPlace_mono text, ?_⟩
  · intro row line hline
    constructor
    · intro k hk
      exact charPlace_eq hline (charColumn_bytes hk)
    · intro k column hafter hbefore
      exact charPlace_eq hline (charColumn_inside hafter hbefore)
  · intro row column
    exact Int.toNat_le.mpr (charColumn_le_self _ column)
  · intro octets c d h
    exact ⟨charColumn_mono octets h, charColumn_le_self octets c⟩
  · rintro outer inner ⟨hstart, hstop⟩
    exact ⟨charPlace_mono text hstart, charPlace_mono text hstop⟩

/-- In a row of a letter, a character of four bytes and a letter, the column after that character is
2, and so is each of the three inside it. A column beyond the end is moved back to it. -/
theorem columns_exact_in_accented :
    charPlace accentedText ⟨1, 5⟩ = ⟨1, 2⟩ ∧ charPlace accentedText ⟨1, 2⟩ = ⟨1, 2⟩ ∧
      charPlace accentedText ⟨1, 3⟩ = ⟨1, 2⟩ ∧ charPlace accentedText ⟨1, 4⟩ = ⟨1, 2⟩ ∧
      charPlace accentedText ⟨1, 9⟩ = ⟨1, 3⟩ ∧
      charPlace accentedText ⟨0, 3⟩ ≤ charPlace accentedText ⟨1, 4⟩ ∧
      charPlace accentedText ⟨1, 4⟩ ≤ charPlace accentedText ⟨1, 9⟩ := by
  obtain ⟨-, hrows, -, -, -, -, hnested⟩ := columns_exact_and_monotone accentedText
  obtain ⟨hexact, hinside⟩ := hrows 1 ['x', '🙂', 'y'] (by decide +kernel)
  refine ⟨hexact 2 (by decide), hinside 1 2 (by decide) (by decide), hinside 1 3 (by decide)
    (by decide), hinside 1 4 (by decide) (by decide), by decide +kernel, ?_⟩
  exact hnested (⟨0, 3⟩, ⟨1, 9⟩) (⟨1, 4⟩, ⟨1, 4⟩) ⟨.inl (by decide), .inr ⟨rfl, by decide⟩⟩

end Outline
