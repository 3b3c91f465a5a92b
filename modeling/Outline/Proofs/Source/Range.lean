import Outline.Proofs.Source.ByteSpans

/-!
# Points in rows of bytes

The points that a grammar gives lie in the rows of bytes of a text, where a carriage return before a
break is part of its row. Each of them has a place in characters. That place lies in the lines of
the text unless the point stands after such a return, since the line is without it.
-/

namespace Outline

open Text.Utf8

/-- Whether a point lies in rows of bytes; it may be just past the last byte of its row. -/
def Point.InRows (rows : Array (List UInt8)) (point : Point) : Prop :=
  0 ≤ point.row ∧ point.row < rows.size ∧ 0 ≤ point.column ∧
    point.column ≤ (rows.getD point.row.toNat []).length

/-- Whether a point stands after a carriage return that ends its row. -/
def Point.PastReturn (rows : Array (List UInt8)) (point : Point) : Prop :=
  (rows.getD point.row.toNat []).getLast? = some 0x0D ∧
    point.column = (rows.getD point.row.toNat []).length

instance (rows : Array (List UInt8)) (point : Point) : Decidable (point.InRows rows) :=
  inferInstanceAs (Decidable (_ ∧ _))

instance (rows : Array (List UInt8)) (point : Point) : Decidable (point.PastReturn rows) :=
  inferInstanceAs (Decidable (_ ∧ _))

/-! ### Columns in a row -/

lemma bytesBefore_natCast (row : List UInt8) (column : Nat) :
    bytesBefore row column = row.take column := by
  rw [bytesBefore, if_neg (by omega), Int.toNat_natCast]

/-- A column of a row is moved to the number of characters that the bytes before it are read as. -/
lemma charColumn_eq_length {row : List UInt8} {column : Nat} (h : column ≤ row.length) :
    charColumn row column = (decodeReplacing (row.take column)).length := by
  rw [charColumn, bytesBefore_natCast]
  split
  · next hascii => rw [length_decodeReplacing_of_ascii hascii, List.length_take_of_le h]
  · rfl

/-- In a row that some characters are written as, these are the characters begun before it. -/
lemma charColumn_eq_countP {line : List Char} {column : Nat} (h : column ≤ (bytes line).length) :
    charColumn (bytes line) column =
      ((bytes line).take column).countP fun b => !isContinuation b := by
  rw [charColumn_eq_length h, length_decodeReplacing_take]

lemma charColumn_le {line : List Char} {column : Nat} (h : column ≤ (bytes line).length) :
    charColumn (bytes line) column ≤ line.length := by
  rw [charColumn_eq_countP h, Int.ofNat_le]
  calc ((bytes line).take column).countP (fun b => !isContinuation b)
      ≤ (bytes line).countP (fun b => !isContinuation b) := (List.take_sublist _ _).countP_le
    _ = line.length := countP_bytes line

lemma charColumn_take {row more : List UInt8} {column : Nat} (h : column ≤ row.length) :
    charColumn (row ++ more) column = charColumn row column := by
  simp only [charColumn, bytesBefore_natCast, List.take_append_of_le_length h]

/-- A row ends in the byte of a return just in case its line ends in a return. -/
lemma getLast?_bytes_eq_return {line : List Char} :
    (bytes line).getLast? = some 0x0D ↔ line = dropReturn line ++ ['\r'] := by
  constructor
  · intro h
    rcases dropReturn_cases line with hreturn | ⟨hkeep, -⟩
    · exact hreturn
    · -- the row would be as long without its last byte
      have hrow : bytes line = (bytes line).dropLast := by
        conv_lhs => rw [← hkeep, bytes_dropReturn, dropReturnByte, if_pos h]
      have hlength := congrArg List.length hrow
      rw [List.length_dropLast] at hlength
      have hnil : bytes line = [] := List.length_eq_zero_iff.mp (by omega)
      rw [hnil] at h
      cases h
  · intro h
    rw [h, bytes_append]
    simp [bytes, show String.utf8EncodeChar '\r' = [0x0D] from rfl]

/-- A column of a row lies in the line without its return, or just past it. It does the second where
it stands after the return. -/
lemma charColumn_cases {line : List Char} {column : Nat} (h : column ≤ (bytes line).length) :
    (¬ ((bytes line).getLast? = some 0x0D ∧ column = (bytes line).length) ∧
        charColumn (bytes line) column ≤ (dropReturn line).length) ∨
      ((bytes line).getLast? = some 0x0D ∧ column = (bytes line).length) ∧
        charColumn (bytes line) column = (dropReturn line).length + 1 := by
  rcases dropReturn_cases line with hreturn | ⟨hkeep, hlast⟩
  · have hbytes : bytes line = bytes (dropReturn line) ++ [0x0D] := by
      conv_lhs => rw [hreturn, bytes_append]
      rfl
    have hlength : (bytes line).length = (bytes (dropReturn line)).length + 1 := by
      rw [hbytes, List.length_append, List.length_singleton]
    by_cases hcolumn : column = (bytes line).length
    · right
      refine ⟨⟨getLast?_bytes_eq_return.mpr hreturn, hcolumn⟩, ?_⟩
      rw [charColumn_eq_countP h, hcolumn, List.take_length, countP_bytes]
      have := congrArg List.length hreturn
      rw [List.length_append, List.length_singleton] at this
      omega
    · left
      have hle : column ≤ (bytes (dropReturn line)).length := by omega
      refine ⟨fun hpast => hcolumn hpast.2, ?_⟩
      rw [hbytes, charColumn_take hle]
      exact charColumn_le hle
  · left
    rw [hkeep]
    refine ⟨?_, charColumn_le h⟩
    rintro ⟨hbyte, -⟩
    have hreturn := congrArg List.length (getLast?_bytes_eq_return.mp hbyte)
    rw [hkeep, List.length_append, List.length_singleton] at hreturn
    omega

lemma charColumn_nonneg (row : List UInt8) (column : Nat) : 0 ≤ charColumn row column := by
  rw [charColumn]
  split
  · exact Int.natCast_nonneg _
  · exact Int.natCast_nonneg _

/-! ### Places of points -/

/-- A point in the rows of a text has a place in characters. Either it does not stand after a return
and its place lies in the lines, or it does and its place is refused. -/
lemma Point.InRows.charPoint_cases {text : String} {point : Point}
    (h : point.InRows (byteRows text)) :
    ∃ place, charPoint (byteRows text) point = .ok place ∧
      ((¬ point.PastReturn (byteRows text) ∧ ¬ (splitLines text).Outside place) ∨
        point.PastReturn (byteRows text) ∧ (splitLines text).Outside place ∧
          ∃ length : Nat,
            (splitLines text).faultAt place = .noColumn (length + 1) point.row length) := by
  obtain ⟨row, column⟩ := point
  obtain ⟨hrow, hsize, hcolumn, hlength⟩ := h
  lift row to Nat using hrow
  lift column to Nat using hcolumn
  have hlt : row < (cutAt '\n' text.toList).length := by
    rw [size_byteRows] at hsize
    exact Int.ofNat_lt.mp hsize
  obtain ⟨line, hline⟩ : ∃ line, (cutAt '\n' text.toList)[row]? = some line :=
    ⟨_, List.getElem?_eq_getElem hlt⟩
  have hrows := getD_byteRows hline
  rw [Int.toNat_natCast, hrows, Int.ofNat_le] at hlength
  have hlines := lt_size_splitLines hline
  have hchars := chars_splitLines hline
  refine ⟨_, charPoint_of_getElem? hline column, ?_⟩
  have hnonneg := charColumn_nonneg (bytes line) column
  simp only [Point.PastReturn, Lines.Outside, Lines.faultAt, Int.toNat_natCast, hrows, hchars,
    Int.natCast_inj]
  rcases charColumn_cases hlength with ⟨hnot, hle⟩ | ⟨hpast, heq⟩
  · left
    refine ⟨hnot, ?_⟩
    omega
  · right
    refine ⟨hpast, by omega, (dropReturn line).length, ?_⟩
    rw [if_neg (by omega), heq]

/-- No point stands after a return in a text that has none. -/
lemma Point.not_pastReturn {text : String} (h : '\r' ∉ text.toList) (point : Point) :
    ¬ point.PastReturn (byteRows text) := by
  rintro ⟨hlast, -⟩
  cases hline : (cutAt '\n' text.toList)[point.row.toNat]? with
  | none =>
    rw [Array.getD_eq_getD_getElem?, ← Array.getElem?_toList, toList_byteRows, List.getElem?_map,
      hline] at hlast
    cases hlast
  | some line =>
    rw [getD_byteRows hline] at hlast
    have hreturn : '\r' ∈ line := by
      rw [getLast?_bytes_eq_return.mp hlast]
      simp
    obtain ⟨rest, hrest⟩ := exists_eq_closed_append hline
    apply h
    rw [hrest]
    simp [hreturn]

end Outline
