import Outline.Proofs.Source.Range

/-!
# Points that are accepted

A point in bytes may lie anywhere, also where its row has no such byte. It is accepted if its place
in characters lies in the lines. In an ASCII row a column is its own place, so that one past the end
of the line is refused. In any other row a column past the end is moved back to the end, and it is
refused only where that end comes after a carriage return, which the line is without.
-/

namespace Outline

open Text.Utf8

/-- Whether a row of bytes accepts a column. -/
def AcceptsColumn (row : List UInt8) (column : Nat) : Prop :=
  if row.all (· < 0x80) then column ≤ (dropReturnByte row).length
  else ¬ (row.getLast? = some 0x0D ∧ row.length ≤ column)

instance (row : List UInt8) (column : Nat) : Decidable (AcceptsColumn row column) :=
  inferInstanceAs (Decidable (if row.all (· < 0x80) then column ≤ (dropReturnByte row).length
    else ¬ (row.getLast? = some 0x0D ∧ row.length ≤ column)))

/-! ### Columns past the end -/

/-- In an ASCII row a column stays where it is. -/
lemma charColumn_of_ascii {row : List UInt8} (h : row.all (· < 0x80)) (column : Int) :
    charColumn row column = column := by
  refine if_pos ?_
  rw [List.all_eq_true] at h ⊢
  exact fun b hb => h b (List.mem_of_mem_take hb)

/-- In any other row a column past the end is moved back to the end. -/
lemma charColumn_of_length_le {row : List UInt8} {column : Nat} (h : ¬ row.all (· < 0x80))
    (hle : row.length ≤ column) : charColumn row column = charColumn row row.length := by
  simp only [charColumn, bytesBefore_natCast, List.take_of_length_le hle, List.take_length,
    if_neg h]

lemma charColumn_length (line : List Char) :
    charColumn (bytes line) (bytes line).length = line.length := by
  rw [charColumn_eq_countP (Nat.le_refl _), List.take_length, countP_bytes]

lemma length_dropReturnByte_of_ascii {line : List Char} (h : (bytes line).all (· < 0x80)) :
    (dropReturnByte (bytes line)).length = (dropReturn line).length := by
  rw [← bytes_dropReturn]
  apply length_bytes_of_ascii
  rw [List.all_eq_true] at h ⊢
  exact fun b hb => h b ((bytes_isPrefix (dropReturn_isPrefix line)).subset hb)

/-- A row accepts the columns that lie in its line once they are counted in characters. -/
lemma charColumn_le_iff {line : List Char} {column : Nat} :
    charColumn (bytes line) column ≤ (dropReturn line).length ↔
      AcceptsColumn (bytes line) column := by
  by_cases hascii : (bytes line).all (· < 0x80)
  · rw [AcceptsColumn, if_pos hascii, charColumn_of_ascii hascii,
      length_dropReturnByte_of_ascii hascii, Int.ofNat_le]
  · rw [AcceptsColumn, if_neg hascii]
    -- past the end a column is accepted just in case the end is
    obtain ⟨inner, hinner, hcolumn, hpast⟩ : ∃ inner ≤ (bytes line).length,
        charColumn (bytes line) column = charColumn (bytes line) inner ∧
          ((bytes line).length ≤ column ↔ inner = (bytes line).length) := by
      by_cases hle : (bytes line).length ≤ column
      · exact ⟨_, Nat.le_refl _, charColumn_of_length_le hascii hle, iff_of_true hle rfl⟩
      · exact ⟨column, by omega, rfl, by omega⟩
    rw [hcolumn, hpast]
    rcases charColumn_cases hinner with ⟨hnot, hle⟩ | ⟨hpast, heq⟩
    · exact iff_of_true hle hnot
    · exact iff_of_false (by omega) (not_not.mpr hpast)

/-! ### Points -/

section

variable {text : String} {row : Nat} {line : List Char}

/-- A point past the last row stays where it is and is refused. -/
lemma outside_of_getElem?_none (h : (cutAt '\n' text.toList)[row]? = none) (column : Nat) :
    charPoint (byteRows text) ⟨row, column⟩ = .ok ⟨row, column⟩ ∧
      (splitLines text).Outside ⟨row, column⟩ := by
  rw [List.getElem?_eq_none_iff] at h
  constructor
  · refine if_pos ?_
    rw [size_byteRows]
    exact Int.ofNat_le.mpr h
  · refine .inr (.inl ?_)
    simpa [splitLines] using h

/-- The place of a point in a row that is there lies in the lines if the row accepts its column. -/
lemma not_outside_iff (h : (cutAt '\n' text.toList)[row]? = some line) (column : Nat) :
    ¬ (splitLines text).Outside ⟨row, charColumn (bytes line) column⟩ ↔
      AcceptsColumn (bytes line) column := by
  have hrow := lt_size_splitLines h
  have hnonneg := charColumn_nonneg (bytes line) column
  rw [← charColumn_le_iff]
  simp only [Lines.Outside, Int.toNat_natCast, chars_splitLines h]
  omega

variable {column : Nat}

lemma locate_past_ascii (h : (cutAt '\n' text.toList)[row]? = some line)
    (hascii : (bytes line).all (· < 0x80)) (hpast : (bytes line).length < column) :
    (splitLines text).locate ⟨row, charColumn (bytes line) column⟩ =
      .error (.noColumn column row (dropReturnByte (bytes line)).length) := by
  have hlength := length_dropReturnByte_of_ascii hascii
  have hrefused : ¬ AcceptsColumn (bytes line) column := by
    rw [AcceptsColumn, if_pos hascii, hlength]
    rw [length_bytes_of_ascii hascii] at hpast
    have := (dropReturn_isPrefix line).length_le
    omega
  have hrow := lt_size_splitLines h
  rw [Lines.locate_eq_error (not_not.mp (mt (not_outside_iff h column).mp hrefused)),
    Lines.faultAt, if_neg (by simp only; omega), charColumn_of_ascii hascii]
  simp only [Int.toNat_natCast, chars_splitLines h, hlength]

lemma locate_past_other (h : (cutAt '\n' text.toList)[row]? = some line)
    (hascii : ¬ (bytes line).all (· < 0x80)) (hreturn : (bytes line).getLast? ≠ some 0x0D)
    (hpast : (bytes line).length ≤ column) :
    (splitLines text).locate ⟨row, charColumn (bytes line) column⟩ =
      .ok ⟨row, ((splitLines text).chars row).length⟩ := by
  have hline : dropReturn line = line := by
    rcases dropReturn_cases line with hkeep | ⟨hkeep, -⟩
    · exact absurd (getLast?_bytes_eq_return.mpr hkeep) hreturn
    · exact hkeep
  rw [charColumn_of_length_le hascii hpast, charColumn_length, chars_splitLines h, hline,
    Lines.locate_eq_ok_iff]
  refine ⟨rfl, String.ofList (dropReturn line), ?_, ?_⟩
  · rw [getElem?_splitLines, h]
    rfl
  · simp [hline]

end

/-- A point in bytes always has a place in characters. It is accepted just in case there is its row
and the row accepts its column. A column past the end of its row is refused in an ASCII row, and is
moved back to the end of the line in any other row that does not end in a carriage return. -/
theorem accepted_points (text : String) (row column : Nat) :
    ∃ point, (SourceView.ofText text).place ⟨row, column⟩ = .ok point ∧
      ((∃ place, (splitLines text).locate point = .ok place) ↔
        ∃ octets, (byteRows text)[row]? = some octets ∧ AcceptsColumn octets column) ∧
      ∀ octets, (byteRows text)[row]? = some octets → octets.length < column →
        (octets.all (· < 0x80) → (splitLines text).locate point =
          .error (.noColumn column row (dropReturnByte octets).length)) ∧
        (¬ octets.all (· < 0x80) → octets.getLast? ≠ some 0x0D → (splitLines text).locate point =
          .ok ⟨row, ((splitLines text).chars row).length⟩) := by
  cases hline : (cutAt '\n' text.toList)[row]? with
  | none =>
    have hnone : (byteRows text)[row]? = none := by rw [getElem?_byteRows, hline]; rfl
    obtain ⟨hplace, houtside⟩ := outside_of_getElem?_none hline column
    refine ⟨_, hplace, ?_, ?_⟩
    · rw [Lines.exists_locate_iff, hnone]
      simp [houtside]
    · rw [hnone]
      nofun
  | some line =>
    have hsome : (byteRows text)[row]? = some (bytes line) := by rw [getElem?_byteRows, hline]; rfl
    refine ⟨_, charPoint_of_getElem? hline column, ?_, ?_⟩
    · rw [Lines.exists_locate_iff, not_outside_iff hline, hsome]
      simp
    · intro octets hoctets hpast
      obtain rfl : bytes line = octets := by rwa [hsome, Option.some.injEq] at hoctets
      exact ⟨fun hascii => locate_past_ascii hline hascii hpast,
        fun hascii hreturn => locate_past_other hline hascii hreturn (Nat.le_of_lt hpast)⟩

/-- Three rows: an ASCII one, one with a letter of two bytes and a carriage return, and that letter
alone. -/
def letterText : String :=
  "ab\né\r\né"

/-- In the first row a column past the end is refused, in the second the end itself is, and in the
third a column past the end is moved back to it. -/
theorem accepted_points_letter :
    (∃ point, (SourceView.ofText letterText).place ⟨0, 3⟩ = .ok point ∧
        (splitLines letterText).locate point = .error (.noColumn 3 0 2)) ∧
      (∃ point, (SourceView.ofText letterText).place ⟨1, 3⟩ = .ok point ∧
        ¬ ∃ place, (splitLines letterText).locate point = .ok place) ∧
      ∃ point, (SourceView.ofText letterText).place ⟨2, 9⟩ = .ok point ∧
        (splitLines letterText).locate point = .ok ⟨2, 1⟩ := by
  have hfirst : (byteRows letterText)[0]? = some [0x61, 0x62] := by decide +kernel
  have hsecond : (byteRows letterText)[1]? = some [0xC3, 0xA9, 0x0D] := by decide +kernel
  have hthird : (byteRows letterText)[2]? = some [0xC3, 0xA9] := by decide +kernel
  obtain ⟨ascii, hascii, -, hrefused⟩ := accepted_points letterText 0 3
  obtain ⟨inner, hinner, hiff, -⟩ := accepted_points letterText 1 3
  obtain ⟨past, hpast, -, hends⟩ := accepted_points letterText 2 9
  refine ⟨⟨ascii, hascii, ?_⟩, ⟨inner, hinner, ?_⟩, past, hpast, ?_⟩
  · exact (hrefused _ hfirst (by decide)).1 (by decide)
  · rw [hiff, hsecond]
    rintro ⟨octets, hoctets, haccepts⟩
    cases hoctets
    exact absurd haccepts (by decide)
  · exact (hends _ hthird (by decide)).2 (by decide) (by decide)

end Outline
