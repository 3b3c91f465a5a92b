import Mathlib.Tactic.Common
import Outline.Proofs.Text.Utf8
import Outline.Source.Column

/-!
# Rows of bytes and lines of characters

A text is cut at its line feeds twice: its characters into lines, and its bytes into the rows that a
grammar counts. The byte of a line feed stands in no other character, so that the rows are the bytes
of the lines. A carriage return at the end is dropped from a line and kept in a row.
-/

namespace Outline

open Text.Utf8 (encode encode_eq_bytes toByteArray_encode bytes bytes_nil bytes_cons bytes_append
  ascii_mem_utf8EncodeChar)

/-! ### Cutting -/

section Cut

variable {α : Type} [DecidableEq α] {mark : α}

lemma cutAtFrom_append {as : List α} (h : mark ∉ as) (piece bs : List α) :
    cutAtFrom mark piece (as ++ bs) = cutAtFrom mark (as.reverse ++ piece) bs := by
  induction as generalizing piece with
  | nil => rfl
  | cons a as ih =>
    rw [List.mem_cons, not_or] at h
    rw [List.cons_append, cutAtFrom, if_neg (Ne.symm h.1), ih h.2, List.reverse_cons,
      List.append_assoc, List.singleton_append]

/-- Without a mark there is one piece. -/
lemma cutAt_of_not_mem {as : List α} (h : mark ∉ as) : cutAt mark as = [as] := by
  have hcut := cutAtFrom_append h [] []
  rw [List.append_nil] at hcut
  rw [cutAt, hcut, cutAtFrom, List.append_nil, List.reverse_reverse]

/-- What stands before the first mark is the first piece. -/
lemma cutAt_append {as : List α} (h : mark ∉ as) (bs : List α) :
    cutAt mark (as ++ mark :: bs) = as :: cutAt mark bs := by
  rw [cutAt, cutAtFrom_append h, cutAtFrom, if_pos rfl, List.append_nil, List.reverse_reverse,
    cutAt]

/-- A statement about a list holds if it does without a mark, and if it does before a mark once it
does after it. -/
lemma induction_on_cut {motive : List α → Prop} (mark : α)
    (last : ∀ as, mark ∉ as → motive as)
    (more : ∀ as bs, mark ∉ as → motive bs → motive (as ++ mark :: bs)) (as : List α) :
    motive as := by
  induction hlength : as.length using Nat.strong_induction_on generalizing as with
  | _ length ih =>
    by_cases h : mark ∈ as
    · obtain ⟨piece, rest, rfl, hpiece⟩ := List.eq_append_cons_of_mem h
      refine more piece rest hpiece (ih rest.length ?_ rest rfl)
      rw [← hlength, List.length_append, List.length_cons]
      omega
    · exact last as h

lemma not_mem_of_mem_cutAt {as piece : List α} (h : piece ∈ cutAt mark as) : mark ∉ piece := by
  induction as using induction_on_cut mark with
  | last as has =>
    rw [cutAt_of_not_mem has, List.mem_singleton] at h
    rw [h]
    exact has
  | more as bs has ih =>
    rw [cutAt_append has, List.mem_cons] at h
    rcases h with rfl | h
    · exact has
    · exact ih h

/-- Cutting is the splitting of the library. -/
lemma cutAt_eq_splitOn (mark : α) (as : List α) : cutAt mark as = as.splitOn mark := by
  induction as using induction_on_cut mark with
  | last as h => rw [cutAt_of_not_mem h, List.splitOn_eq_singleton h]
  | more as bs h ih =>
    rw [cutAt_append h, List.splitOn_append_cons_self_of_not_mem h, ih]

lemma cutAt_ne_nil (mark : α) (as : List α) : cutAt mark as ≠ [] := by
  induction as using induction_on_cut mark with
  | last as has => simp [cutAt_of_not_mem has]
  | more as bs has _ => simp [cutAt_append has]

/-- Pieces, each with a mark after it. -/
def closed (mark : α) (pieces : List (List α)) : List α :=
  pieces.flatMap (· ++ [mark])

/-- A piece stands after the closed pieces before it. -/
lemma exists_eq_closed_append {as piece : List α} {row : Nat}
    (h : (cutAt mark as)[row]? = some piece) :
    ∃ rest, as = closed mark ((cutAt mark as).take row) ++ piece ++ rest := by
  induction as using induction_on_cut mark generalizing row with
  | last as has =>
    rw [cutAt_of_not_mem has] at h ⊢
    cases row with
    | zero =>
      cases h
      exact ⟨[], by simp [closed]⟩
    | succ row => simp at h
  | more as bs has ih =>
    rw [cutAt_append has] at h ⊢
    cases row with
    | zero =>
      cases h
      exact ⟨mark :: bs, by simp [closed]⟩
    | succ row =>
      obtain ⟨rest, hrest⟩ := ih h
      refine ⟨rest, ?_⟩
      conv_lhs => rw [hrest]
      simp [closed]

end Cut

/-! ### Lines -/

lemma dropReturn_append_return (line : List Char) : dropReturn (line ++ ['\r']) = line := by
  simp [dropReturn]

/-- Either a line ends in a carriage return, which is dropped, or nothing is. -/
lemma dropReturn_cases (line : List Char) :
    line = dropReturn line ++ ['\r'] ∨ (dropReturn line = line ∧ line.getLast? ≠ some '\r') := by
  by_cases h : line.getLast? = some '\r'
  · left
    obtain ⟨rest, rfl⟩ := List.getLast?_eq_some_iff.mp h
    rw [dropReturn_append_return]
  · right
    exact ⟨if_neg h, h⟩

lemma dropReturn_isPrefix (line : List Char) : dropReturn line <+: line := by
  rcases dropReturn_cases line with h | ⟨h, -⟩
  · exact ⟨['\r'], h.symm⟩
  · exact ⟨[], by rw [List.append_nil, h]⟩

/-- Dropping the return and some characters before it can be done in either order. -/
lemma dropReturn_drop {line : List Char} {k : Nat} (hk : k ≤ (dropReturn line).length) :
    dropReturn (line.drop k) = (dropReturn line).drop k := by
  rcases dropReturn_cases line with h | ⟨h, hlast⟩
  · conv_lhs => rw [h, List.drop_append_of_le_length hk, dropReturn_append_return]
  · rw [h, dropReturn, if_neg]
    intro hdrop
    rw [List.getLast?_drop] at hdrop
    split at hdrop
    · cases hdrop
    · exact hlast hdrop

lemma getElem?_splitLines (text : String) (row : Nat) :
    (splitLines text)[row]? =
      (cutAt '\n' text.toList)[row]?.map fun line => String.ofList (dropReturn line) := by
  simp [splitLines]

/-! ### Rows -/

/-- Drops one byte of a carriage return at the end. -/
def dropReturnByte (row : List UInt8) : List UInt8 :=
  if row.getLast? = some 0x0D then row.dropLast else row

lemma bytes_lineFeed_cons (cs : List Char) :
    bytes ('\n' :: cs) = 10 :: bytes cs :=
  rfl

lemma lineFeed_mem_bytes {cs : List Char} : 10 ∈ bytes cs ↔ '\n' ∈ cs := by
  simp only [bytes, List.mem_flatMap]
  constructor
  · rintro ⟨c, hc, hmem⟩
    rw [← (ascii_mem_utf8EncodeChar (d := '\n') (by decide)).mp hmem]
    exact hc
  · intro h
    exact ⟨'\n', h, by decide⟩

/-- The rows of some bytes are the bytes of the lines. -/
lemma cutAt_bytes (cs : List Char) :
    cutAt 10 (bytes cs) = (cutAt '\n' cs).map bytes := by
  induction cs using induction_on_cut '\n' with
  | last cs h =>
    rw [cutAt_of_not_mem h, cutAt_of_not_mem (mt lineFeed_mem_bytes.mp h)]
    rfl
  | more cs ds h ih =>
    rw [cutAt_append h, bytes_append, bytes_lineFeed_cons,
      cutAt_append (mt lineFeed_mem_bytes.mp h), ih]
    rfl

lemma toList_byteRows (text : String) :
    (byteRows text).toList = (cutAt '\n' text.toList).map bytes :=
  cutAt_bytes text.toList

lemma getElem?_byteRows (text : String) (row : Nat) :
    (byteRows text)[row]? = (cutAt '\n' text.toList)[row]?.map bytes := by
  rw [← Array.getElem?_toList, toList_byteRows, List.getElem?_map]

lemma size_byteRows (text : String) :
    (byteRows text).size = (cutAt '\n' text.toList).length := by
  rw [← Array.length_toList, toList_byteRows, List.length_map]

/-- The bytes of a line without its return are those of the row without its byte. -/
lemma bytes_dropReturn (line : List Char) :
    bytes (dropReturn line) = dropReturnByte (bytes line) := by
  rcases dropReturn_cases line with h | ⟨h, hlast⟩
  · have hbytes : bytes line = bytes (dropReturn line) ++ [0x0D] := by
      conv_lhs => rw [h, bytes_append]
      rfl
    rw [hbytes, dropReturnByte, if_pos (by simp), List.dropLast_concat]
  · rw [h, dropReturnByte, if_neg]
    intro hbyte
    -- the last byte is one of the last character
    cases hline : line.getLast? with
    | none =>
      rw [List.getLast?_eq_none_iff.mp hline] at hbyte
      cases hbyte
    | some c =>
      obtain ⟨rest, rfl⟩ := List.getLast?_eq_some_iff.mp hline
      have hmem : 0x0D ∈ String.utf8EncodeChar c := by
        apply List.mem_of_getLast?
        rw [bytes_append, bytes_cons, bytes_nil, List.append_nil, List.getLast?_append] at hbyte
        rw [← hbyte]
        exact (Option.or_of_isSome (by simp)).symm
      have hreturn := (ascii_mem_utf8EncodeChar (d := '\r') (by decide)).mp hmem
      rw [hline, hreturn] at hlast
      exact hlast rfl

/-- The rows of a text are what its bytes in UTF-8 are split into at line feeds, and joined by line
feeds they are these bytes. There are as many of them as lines, and the bytes of each line are those
of its row but for one carriage return at the end. -/
theorem lines_agree_with_rows (text : String) :
    (encode text).toByteArray = text.toUTF8 ∧
      (byteRows text).toList = (encode text).splitOn 10 ∧
      [10].intercalate (byteRows text).toList = encode text ∧
      (splitLines text).size = (byteRows text).size ∧
      ∀ row : Nat,
        (splitLines text)[row]?.map encode = (byteRows text)[row]?.map dropReturnByte := by
  have hrows : (byteRows text).toList = (encode text).splitOn 10 :=
    cutAt_eq_splitOn 10 (encode text)
  refine ⟨toByteArray_encode text, hrows, ?_, ?_, ?_⟩
  · rw [hrows, List.intercalate_splitOn]
  · rw [size_byteRows]
    simp [splitLines]
  · intro row
    have hline : ∀ line,
        encode (String.ofList (dropReturn line)) = dropReturnByte (bytes line) := by
      intro line
      rw [encode_eq_bytes, String.toList_ofList, bytes_dropReturn]
    rw [getElem?_splitLines, getElem?_byteRows, Option.map_map, Option.map_map]
    exact congrArg (Option.map · _) (funext hline)

/-- Two letters whose numbers end in the bits of a line feed and of a carriage return stay whole,
and of two carriage returns before a break one is kept in the line. -/
example : splitLines "Ċč\r\r\n" = #["Ċč\r", ""] ∧
    byteRows "Ċč\r\r\n" = #[[0xC4, 0x8A, 0xC4, 0x8D, 0x0D, 0x0D], []] := by
  decide +kernel

end Outline
