import Mathlib.Tactic.Common
import Outline.Proofs.Source.Rows
import Outline.Proofs.Source.Spans
import Outline.Source.View

/-!
# Spans of bytes

A grammar gives the span of a node by two places in the bytes of a text. Its text is sliced out of
the lines, which have no breaks, at the columns in characters. It is what the bytes between the two
places stand for, less the breaks.
-/

namespace Outline

open Text.Utf8

/-! ### Columns -/

/-- A column after the bytes of some characters of a line is their number. -/
lemma charColumn_bytes {line : List Char} {k : Nat} (hk : k ≤ line.length) :
    charColumn (bytes line) (bytes (line.take k)).length = k := by
  have hbefore : bytesBefore (bytes line) (bytes (line.take k)).length = bytes (line.take k) := by
    have hnonneg : ¬ ((bytes (line.take k)).length : Int) < 0 := by omega
    rw [bytesBefore, if_neg hnonneg, Int.toNat_natCast]
    exact (List.prefix_iff_eq_take.mp (bytes_isPrefix (List.take_prefix k line))).symm
  have hlength : (line.take k).length = k := List.length_take_of_le hk
  rw [charColumn, hbefore]
  split
  · next hascii => rw [length_bytes_of_ascii hascii, hlength]
  · rw [decodeReplacing_bytes, hlength]

/-- More bytes of a line hold no fewer characters. -/
lemma le_of_length_bytes_take_le {line : List Char} {k l : Nat} (hk : k ≤ line.length)
    (hl : l ≤ line.length)
    (h : (bytes (line.take k)).length ≤ (bytes (line.take l)).length) : k ≤ l := by
  have hsublist := (List.prefix_of_prefix_length_le (bytes_isPrefix (List.take_prefix k line))
    (bytes_isPrefix (List.take_prefix l line)) h).sublist
  calc k = (line.take k).length := (List.length_take_of_le hk).symm
    _ = (bytes (line.take k)).countP (fun b => !isContinuation b) := (countP_bytes _).symm
    _ ≤ (bytes (line.take l)).countP (fun b => !isContinuation b) := hsublist.countP_le
    _ = (line.take l).length := countP_bytes _
    _ = l := List.length_take_of_le hl

lemma getD_byteRows {text : String} {row : Nat} {line : List Char}
    (h : (cutAt '\n' text.toList)[row]? = some line) :
    (byteRows text).getD row [] = bytes line := by
  rw [Array.getD_eq_getD_getElem?, getElem?_byteRows, h]
  rfl

lemma chars_splitLines {text : String} {row : Nat} {line : List Char}
    (h : (cutAt '\n' text.toList)[row]? = some line) :
    (splitLines text).chars row = dropReturn line := by
  rw [Lines.chars, Array.getD_eq_getD_getElem?, getElem?_splitLines, h]
  simp

lemma lt_size_splitLines {text : String} {row : Nat} {line : List Char}
    (h : (cutAt '\n' text.toList)[row]? = some line) : row < (splitLines text).size := by
  simpa [splitLines] using (List.getElem?_eq_some_iff.mp h).1

/-- A point of a row that is there stays in it, and its column is counted in characters. -/
lemma charPoint_of_getElem? {text : String} {row : Nat} {line : List Char}
    (h : (cutAt '\n' text.toList)[row]? = some line) (column : Int) :
    charPoint (byteRows text) ⟨row, column⟩ = .ok ⟨row, charColumn (bytes line) column⟩ := by
  have hrow := (List.getElem?_eq_some_iff.mp h).1
  have hnot : ¬ ((byteRows text).size : Int) ≤ row := by
    rw [size_byteRows]
    omega
  have hhuge : ¬ (row : Int) < -(Nat.pow 2 63 : Int) := by
    have := Int.natCast_nonneg (Nat.pow 2 63)
    omega
  have hnonneg : ¬ (row : Int) < 0 := by omega
  have hbyteRow : byteRow (byteRows text) row = .ok (bytes line) := by
    simp only [byteRow, if_neg hhuge, if_neg hnonneg, Int.toNat_natCast, getD_byteRows h]
  simp only [charPoint, if_neg hnot, hbyteRow]
  rfl

/-! ### Places in bytes -/

/-- Whether a place in bytes lies in a text: its row is there, its column does not lie inside the
break after the row, and the byte there, if any, begins a character. -/
def Place.LiesIn (place : Place) (text : String) : Prop :=
  ∃ row ∈ (byteRows text)[place.row]?, place.column ≤ (dropReturnByte row).length ∧
    ∀ b ∈ row[place.column]?, isContinuation b = false

instance (place : Place) (text : String) : Decidable (place.LiesIn text) :=
  inferInstanceAs (Decidable (∃ row ∈ (byteRows text)[place.row]?,
    place.column ≤ (dropReturnByte row).length ∧
      ∀ b ∈ row[place.column]?, isContinuation b = false))

/-- The number of bytes of a text before a place; each row before it has a line feed after it. -/
def byteOffset (text : String) (place : Place) : Nat :=
  (((byteRows text).toList.take place.row).map (·.length + 1)).sum + place.column

lemma length_bytes_closed (lines : List (List Char)) :
    (bytes (closed '\n' lines)).length = ((lines.map bytes).map (·.length + 1)).sum := by
  induction lines with
  | nil => rfl
  | cons line lines ih =>
    rw [closed, List.flatMap_cons, bytes_append, List.length_append, ← closed, ih, bytes_append]
    simp [bytes_lineFeed_cons]

/-- What of a text stands before a row, and a part of that row after it. -/
def upTo (text : String) (row : Nat) (part : List Char) : List Char :=
  closed '\n' ((cutAt '\n' text.toList).take row) ++ part

/-- A place in bytes after `k` characters of a line. -/
structure Stands (text : String) (place : Place) (line : List Char) (k : Nat) : Prop where
  line_at : (cutAt '\n' text.toList)[place.row]? = some line
  le_length : k ≤ (dropReturn line).length
  column_eq : place.column = (bytes (line.take k)).length

lemma Place.LiesIn.exists_stands {place : Place} {text : String} (h : place.LiesIn text) :
    ∃ line k, Stands text place line k := by
  obtain ⟨row, hrow, hcolumn, hboundary⟩ := h
  rw [getElem?_byteRows, Option.mem_def, Option.map_eq_some_iff] at hrow
  obtain ⟨line, hline, rfl⟩ := hrow
  rw [← bytes_dropReturn] at hcolumn
  obtain ⟨rest, hrest⟩ := dropReturn_isPrefix line
  obtain ⟨k, hk, hcount⟩ := exists_eq_length_bytes_take hcolumn (by
    intro b hb
    apply hboundary
    rw [← hrest, bytes_append, List.getElem?_append_left (List.getElem?_eq_some_iff.mp hb).1]
    exact hb)
  refine ⟨line, k, hline, hk, ?_⟩
  rw [hcount]
  conv_rhs => rw [← hrest, List.take_append_of_le_length hk]

namespace Stands

variable {text : String} {place : Place} {line : List Char} {k : Nat}

lemma le_line (h : Stands text place line k) : k ≤ line.length :=
  Nat.le_trans h.le_length (dropReturn_isPrefix line).length_le

lemma row_lt (h : Stands text place line k) :
    place.row < (cutAt '\n' text.toList).length :=
  (List.getElem?_eq_some_iff.mp h.line_at).1

/-- The point of such a place is that of the characters. -/
lemma charPoint_eq (h : Stands text place line k) :
    charPoint (byteRows text) place.toPoint = .ok (Place.mk place.row k).toPoint := by
  have hcolumn : charColumn (bytes line) place.column = k := by
    rw [h.column_eq]
    exact charColumn_bytes h.le_line
  rw [Place.toPoint, charPoint_of_getElem? h.line_at, hcolumn]
  rfl

/-- The lines hold such a place. -/
lemma holds (h : Stands text place line k) : (splitLines text).Holds ⟨place.row, k⟩ := by
  refine ⟨String.ofList (dropReturn line), ?_, ?_⟩
  · rw [getElem?_splitLines, h.line_at]
    rfl
  · simpa using h.le_length

lemma chars_eq (h : Stands text place line k) :
    (splitLines text).chars place.row = dropReturn line :=
  chars_splitLines h.line_at

/-- The offset of such a place is the number of bytes of what stands before it. -/
lemma byteOffset_eq (h : Stands text place line k) :
    byteOffset text place = (bytes (upTo text place.row (line.take k))).length := by
  rw [byteOffset, h.column_eq, upTo, bytes_append, List.length_append, toList_byteRows,
    ← List.map_take, length_bytes_closed]

/-- A text goes on after such a place. -/
lemma exists_eq_append (h : Stands text place line k) :
    ∃ rest, text.toList = upTo text place.row (line.take k) ++ rest := by
  obtain ⟨rest, hrest⟩ := exists_eq_closed_append h.line_at
  refine ⟨line.drop k ++ rest, ?_⟩
  conv_lhs => rw [hrest, ← List.take_append_drop k line]
  simp only [upTo, List.append_assoc]

end Stands

/-! ### Breaks -/

/-- Removes each carriage return that a line feed follows, together with the line feed. -/
def removePairs : List Char → List Char
  | []           => []
  | [c]          => [c]
  | c :: d :: cs =>
    if c = '\r' ∧ d = '\n' then removePairs cs else c :: removePairs (d :: cs)

/-- Removes each pair of a carriage return and a line feed, and then each line feed that is left. -/
def removeBreaks (cs : List Char) : List Char :=
  (removePairs cs).filter (· ≠ '\n')

lemma removeBreaks_lineFeed (cs : List Char) : removeBreaks ('\n' :: cs) = removeBreaks cs := by
  cases cs with
  | nil => rfl
  | cons c cs => simp [removeBreaks, removePairs]

lemma removeBreaks_pair (cs : List Char) :
    removeBreaks ('\r' :: '\n' :: cs) = removeBreaks cs := by
  simp [removeBreaks, removePairs]

lemma removeBreaks_cons {c d : Char} (hc : c ≠ '\n') (h : ¬ (c = '\r' ∧ d = '\n'))
    (cs : List Char) : removeBreaks (c :: d :: cs) = c :: removeBreaks (d :: cs) := by
  simp [removeBreaks, removePairs, hc, h]

lemma removeBreaks_of_not_mem {cs : List Char} (h : '\n' ∉ cs) : removeBreaks cs = cs := by
  induction cs with
  | nil => rfl
  | cons c cs ih =>
    simp only [List.mem_cons, not_or] at h
    cases cs with
    | nil => simp [removeBreaks, removePairs, Ne.symm h.1]
    | cons d cs =>
      simp only [List.mem_cons, not_or] at h
      rw [removeBreaks_cons (Ne.symm h.1) (fun hpair => h.2.1 hpair.2.symm)]
      rw [ih (by simpa using h.2)]

/-- A line feed is removed after a line, and a carriage return at the end of the line with it. -/
lemma removeBreaks_append {line : List Char} (h : '\n' ∉ line) (rest : List Char) :
    removeBreaks (line ++ '\n' :: rest) = dropReturn line ++ removeBreaks rest := by
  induction line with
  | nil => exact removeBreaks_lineFeed rest
  | cons c line ih =>
    simp only [List.mem_cons, not_or] at h
    cases line with
    | nil =>
      by_cases hc : c = '\r'
      · rw [hc]
        exact removeBreaks_pair rest
      · have hkeep : dropReturn [c] = [c] := if_neg (by simpa using hc)
        rw [List.singleton_append, removeBreaks_cons (Ne.symm h.1) (fun hpair => hc hpair.1),
          removeBreaks_lineFeed, hkeep]
        rfl
    | cons d line =>
      have hdrop : dropReturn (c :: d :: line) = c :: dropReturn (d :: line) := by
        simp only [dropReturn, List.getLast?_cons_cons]
        split <;> rfl
      have hd : d ≠ '\n' := fun hd => h.2 (by simp [hd])
      rw [List.cons_append, List.cons_append,
        removeBreaks_cons (Ne.symm h.1) (fun hpair => hd hpair.2), hdrop, List.cons_append,
        ← ih h.2]
      rfl

lemma removeBreaks_closed {lines : List (List Char)} (h : ∀ line ∈ lines, '\n' ∉ line)
    (rest : List Char) :
    removeBreaks (closed '\n' lines ++ rest) = lines.flatMap dropReturn ++ removeBreaks rest := by
  induction lines with
  | nil => rfl
  | cons line lines ih =>
    have hline := h line List.mem_cons_self
    have hlines := ih fun line hmem => h line (List.mem_cons_of_mem _ hmem)
    rw [List.flatMap_cons, List.append_assoc, ← hlines, ← removeBreaks_append hline]
    simp [closed]

/-! ### Slices -/

namespace Stands

variable {text : String} {start stop : Place} {a b : List Char} {k l : Nat}

lemma not_mem_line (h : Stands text start a k) : '\n' ∉ a :=
  not_mem_of_mem_cutAt (List.mem_of_getElem? h.line_at)

lemma take_dropReturn (h : Stands text start a k) : (dropReturn a).take k = a.take k := by
  obtain ⟨rest, hrest⟩ := dropReturn_isPrefix a
  conv_rhs => rw [← hrest, List.take_append_of_le_length h.le_length]

/-- Between two places of one row stands a part of its line. -/
lemma between_of_row_eq (first : Stands text start a k) (last : Stands text stop b l)
    (hrow : start.row = stop.row) (hcolumn : start.column ≤ stop.column) :
    ∃ cs, upTo text stop.row (b.take l) = upTo text start.row (a.take k) ++ cs ∧
      removeBreaks cs = (splitLines text).slice ⟨start.row, k⟩ ⟨stop.row, l⟩ := by
  have hline : a = b := by
    have hget := first.line_at
    rw [hrow, last.line_at] at hget
    exact (Option.some.inj hget).symm
  subst hline
  have hkl : k ≤ l := by
    rw [first.column_eq, last.column_eq] at hcolumn
    exact le_of_length_bytes_take_le first.le_line last.le_line hcolumn
  refine ⟨(a.take l).drop k, ?_, ?_⟩
  · have htake : a.take k = (a.take l).take k := by rw [List.take_take, Nat.min_eq_left hkl]
    rw [upTo, upTo, List.append_assoc, htake, List.take_append_drop, hrow]
  · have hno : '\n' ∉ (a.take l).drop k := fun hmem =>
      first.not_mem_line (List.mem_of_mem_take (List.mem_of_mem_drop hmem))
    rw [removeBreaks_of_not_mem hno, Lines.slice, if_pos hrow, first.chars_eq, last.take_dropReturn]

/-- Between places of two rows stand the rest of the first line, whole lines, and the beginning of
the last one. -/
lemma between_of_row_lt (first : Stands text start a k) (last : Stands text stop b l)
    (hrow : start.row < stop.row) :
    ∃ cs, upTo text stop.row (b.take l) = upTo text start.row (a.take k) ++ cs ∧
      removeBreaks cs = (splitLines text).slice ⟨start.row, k⟩ ⟨stop.row, l⟩ := by
  let middle := ((cutAt '\n' text.toList).take stop.row).drop (start.row + 1)
  have hmiddle : ∀ line ∈ middle, '\n' ∉ line := fun line hmem =>
    not_mem_of_mem_cutAt (List.mem_of_mem_take (List.mem_of_mem_drop hmem))
  have hsplit : (cutAt '\n' text.toList).take stop.row =
      (cutAt '\n' text.toList).take start.row ++ a :: middle := by
    have hget : ((cutAt '\n' text.toList).take stop.row)[start.row]? = some a := by
      rw [List.getElem?_take_of_lt hrow, first.line_at]
    obtain ⟨hlt, hget⟩ := List.getElem?_eq_some_iff.mp hget
    rw [← hget, List.getElem_cons_drop, ← Nat.min_eq_left (Nat.le_of_lt hrow), ← List.take_take,
      Nat.min_eq_left (Nat.le_of_lt hrow), List.take_append_drop]
  refine ⟨a.drop k ++ '\n' :: (closed '\n' middle ++ b.take l), ?_, ?_⟩
  · have hline : a.take k ++ (a.drop k ++ '\n' :: (closed '\n' middle ++ b.take l)) =
        a ++ '\n' :: (closed '\n' middle ++ b.take l) := by
      rw [← List.append_assoc, List.take_append_drop]
    rw [upTo, upTo, hsplit, List.append_assoc, hline]
    simp [closed]
  · have hdrop : '\n' ∉ a.drop k := fun hmem => first.not_mem_line (List.mem_of_mem_drop hmem)
    have htake : '\n' ∉ b.take l := fun hmem => last.not_mem_line (List.mem_of_mem_take hmem)
    have hlines : ((splitLines text).extract (start.row + 1) stop.row).toList.flatMap
        String.toList = middle.flatMap dropReturn := by
      simp [splitLines, middle, List.flatMap_map, List.drop_take, ← List.map_drop, ← List.map_take]
    rw [removeBreaks_append hdrop, removeBreaks_closed hmiddle, removeBreaks_of_not_mem htake,
      dropReturn_drop first.le_length, Lines.slice, if_neg (Nat.ne_of_lt hrow), first.chars_eq,
      last.chars_eq, last.take_dropReturn, hlines, List.append_assoc]

lemma exists_between (first : Stands text start a k) (last : Stands text stop b l)
    (hle : start ≤ stop) :
    ∃ cs, upTo text stop.row (b.take l) = upTo text start.row (a.take k) ++ cs ∧
      removeBreaks cs = (splitLines text).slice ⟨start.row, k⟩ ⟨stop.row, l⟩ := by
  rcases hle with hrow | ⟨hrow, hcolumn⟩
  · exact between_of_row_lt first last hrow
  · exact between_of_row_eq first last hrow hcolumn

end Stands

/-- A node whose places lie in a text, the first not after the second, has a text. It is what the
bytes between the two places are read as, less each break. -/
theorem Node.text_eq_decode_bytes (text : String) (node : Node) {start stop : Place}
    (hstart : node.start = start.toPoint) (hstop : node.stop = stop.toPoint)
    (hfirst : start.LiesIn text) (hlast : stop.LiesIn text) (hle : start ≤ stop) :
    ∃ chars,
      decode (((encode text).take (byteOffset text stop)).drop (byteOffset text start)) =
        .ok chars.reverse ∧
      node.text (.ofText text) = .ok (String.ofList (removeBreaks chars)) := by
  obtain ⟨a, k, first⟩ := hfirst.exists_stands
  obtain ⟨b, l, last⟩ := hlast.exists_stands
  obtain ⟨chars, hsplit, hslice⟩ := first.exists_between last hle
  refine ⟨chars, ?_, ?_⟩
  · obtain ⟨rest, hrest⟩ := last.exists_eq_append
    have hbytes : encode text = bytes (upTo text stop.row (b.take l)) ++ bytes rest := by
      rw [← bytes_append, ← hrest, encode_eq_bytes]
    rw [hbytes, last.byteOffset_eq, List.take_left, hsplit, bytes_append, first.byteOffset_eq,
      List.drop_left, decode_bytes]
  · rw [hslice, Node.text, hstart, hstop]
    simp only [SourceView.spanText, SourceView.ofText, first.charPoint_eq, last.charPoint_eq]
    exact Lines.spanText_eq_ok first.holds last.holds

/-- Two rows, the first with a carriage return before its line feed, in which characters of one, two
and four bytes stand. -/
def accentedText : String :=
  "né\r\nx🙂y"

/-- A node from the second character to the last but one. -/
def accentedNode : Node :=
  ⟨"identifier", ⟨0, 1⟩, ⟨1, 5⟩, []⟩

/-- The places of that node lie in that text. -/
theorem text_eq_decode_bytes_accented :
    (Place.mk 0 1).LiesIn accentedText ∧ (Place.mk 1 5).LiesIn accentedText ∧
      (∃ chars,
        decode (((encode accentedText).take (byteOffset accentedText ⟨1, 5⟩)).drop
          (byteOffset accentedText ⟨0, 1⟩)) = .ok chars.reverse ∧
        accentedNode.text (.ofText accentedText) = .ok (String.ofList (removeBreaks chars))) ∧
      accentedNode.text (.ofText accentedText) = .ok "éx🙂" := by
  have hstart : (Place.mk 0 1).LiesIn accentedText := by decide +kernel
  have hstop : (Place.mk 1 5).LiesIn accentedText := by decide +kernel
  refine ⟨hstart, hstop, ?_, by decide +kernel⟩
  exact Node.text_eq_decode_bytes accentedText accentedNode rfl rfl hstart hstop (.inl (by decide))

end Outline
