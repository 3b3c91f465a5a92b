import Mathlib.Tactic.Common
import Outline.Json.Reader

/-!
# The grammar of JSON texts

The part of the grammar of JSON whose only scalars are strings. Each relation holds of the
characters before a thing is spelled, of the thing, and of the characters left after it. A character
outside the first plane may be spelled by two escapes, one for each surrogate. The reader reads
every text of the grammar as what it spells.
-/

namespace Outline.Json

open Text (hexNumber?)

/-! ### Characters and strings -/

/-- Whether a character may stand between the signs of a text. -/
def IsBlank (c : Char) : Prop :=
  c = ' ' ∨ c = '\t' ∨ c = '\n' ∨ c = '\r'

/-- Any number of blanks. -/
inductive Blanks : List Char → List Char → Prop where
  | none {cs} : Blanks cs cs
  | one {c cs rest} (blank : IsBlank c) (more : Blanks cs rest) : Blanks (c :: cs) rest

/-- The characters with an escape of one letter, each with that letter. -/
def letterEscapes : List (Char × Char) := [
  ('"', '"'), ('\\', '\\'), ('/', '/'), ('b', Char.ofNat 0x08), ('f', Char.ofNat 0x0c),
  ('n', '\n'), ('r', '\r'), ('t', '\t')]

/-- One character of a string. -/
inductive SpellsChar : List Char → Char → List Char → Prop where
  | plain {c rest} (high : 0x20 ≤ c.toNat) (quote : c ≠ '"') (slash : c ≠ '\\') :
      SpellsChar (c :: rest) c rest
  | letter {e c rest} (escape : (e, c) ∈ letterEscapes) : SpellsChar ('\\' :: e :: rest) c rest
  | unit {h i j k n rest} (digits : hexNumber? [h, i, j, k] = some n) (valid : n.isValidChar) :
      SpellsChar ('\\' :: 'u' :: h :: i :: j :: k :: rest) (Char.ofNat n) rest
  | pair {h i j k h' i' j' k' high low rest} (first : hexNumber? [h, i, j, k] = some high)
      (isHigh : Text.Utf16.isHigh high) (second : hexNumber? [h', i', j', k'] = some low)
      (isLow : Text.Utf16.isLow low) :
      SpellsChar
        ('\\' :: 'u' :: h :: i :: j :: k :: '\\' :: 'u' :: h' :: i' :: j' :: k' :: rest)
        (Char.ofNat (Text.Utf16.join high low)) rest

/-- The characters of a string and the quote that closes it. -/
inductive SpellsText : List Char → List Char → List Char → Prop where
  | close {rest} : SpellsText ('"' :: rest) [] rest
  | char {cs c more s rest} (first : SpellsChar cs c more) (others : SpellsText more s rest) :
      SpellsText cs (c :: s) rest

/-- The name of a member, the colon after it and the blanks around them. -/
inductive SpellsName : List Char → String → List Char → Prop where
  | mk {cs quoted s more after rest} (before : Blanks cs ('"' :: quoted))
      (name : SpellsText quoted s more) (colon : Blanks more (':' :: after))
      (blanks : Blanks after rest) : SpellsName cs (String.ofList s) rest

/-! ### Values -/

mutual

/-- A value without blanks around it. -/
inductive Spells : List Char → Json → List Char → Prop where
  | str {cs s rest} (body : SpellsText cs s rest) :
      Spells ('"' :: cs) (.str (String.ofList s)) rest
  | emptyArr {cs rest} (blanks : Blanks cs (']' :: rest)) : Spells ('[' :: cs) (.arr []) rest
  | arr {cs items rest} (body : SpellsItems cs items rest) : Spells ('[' :: cs) (.arr items) rest
  | emptyObj {cs rest} (blanks : Blanks cs ('\x7d' :: rest)) :
      Spells ('\x7b' :: cs) (.obj []) rest
  | obj {cs members rest} (body : SpellsMembers cs members rest) :
      Spells ('\x7b' :: cs) (.obj members) rest

/-- The items of an array and the bracket that closes it. -/
inductive SpellsItems : List Char → List Json → List Char → Prop where
  | last {cs first item more rest} (before : Blanks cs first) (value : Spells first item more)
      (after : Blanks more (']' :: rest)) : SpellsItems cs [item] rest
  | more {cs first item more next items rest} (before : Blanks cs first)
      (value : Spells first item more) (after : Blanks more (',' :: next))
      (others : SpellsItems next items rest) : SpellsItems cs (item :: items) rest

/-- The members of an object and the brace that closes it. -/
inductive SpellsMembers : List Char → List (Text.Name × Json) → List Char → Prop where
  | last {cs name first item more rest} (label : SpellsName cs name first)
      (value : Spells first item more) (after : Blanks more ('\x7d' :: rest)) :
      SpellsMembers cs [(.text name, item)] rest
  | more {cs name first item more next members rest} (label : SpellsName cs name first)
      (value : Spells first item more) (after : Blanks more (',' :: next))
      (others : SpellsMembers next members rest) :
      SpellsMembers cs ((.text name, item) :: members) rest

end

/-! ### What is spelled takes characters -/

lemma Blanks.length_le {cs rest : List Char} (h : Blanks cs rest) : rest.length ≤ cs.length := by
  induction h with
  | none => exact Nat.le_refl _
  | one _ _ ih => exact Nat.le_succ_of_le ih

lemma SpellsChar.length_lt {cs rest : List Char} {c : Char} (h : SpellsChar cs c rest) :
    rest.length < cs.length := by
  cases h <;> simp only [List.length_cons] <;> omega

lemma SpellsText.length_lt {cs s rest : List Char} (h : SpellsText cs s rest) :
    rest.length < cs.length := by
  induction h with
  | close => exact Nat.lt_succ_self _
  | char first _ ih => exact Nat.lt_trans ih first.length_lt

lemma SpellsName.length_lt {cs rest : List Char} {name : String} (h : SpellsName cs name rest) :
    rest.length < cs.length := by
  obtain ⟨before, name, colon, blanks⟩ := h
  have hbefore := before.length_le
  have hcolon := colon.length_le
  have hname := name.length_lt
  have hblanks := blanks.length_le
  simp only [List.length_cons] at hbefore hcolon
  omega

mutual

lemma Spells.length_lt {cs rest : List Char} {value : Json} (h : Spells cs value rest) :
    rest.length < cs.length := by
  cases h with
  | str body => exact Nat.lt_succ_of_lt body.length_lt
  | emptyArr blanks => exact Nat.lt_succ_of_lt blanks.length_le
  | arr body => exact Nat.lt_succ_of_lt body.length_lt
  | emptyObj blanks => exact Nat.lt_succ_of_lt blanks.length_le
  | obj body => exact Nat.lt_succ_of_lt body.length_lt

lemma SpellsItems.length_lt {cs rest : List Char} {items : List Json}
    (h : SpellsItems cs items rest) : rest.length < cs.length := by
  cases h with
  | last before value after =>
    exact Nat.lt_of_lt_of_le (Nat.lt_trans after.length_le value.length_lt) before.length_le
  | more before value after others =>
    have hnext := Nat.lt_trans others.length_lt after.length_le
    exact Nat.lt_of_lt_of_le (Nat.lt_trans hnext value.length_lt) before.length_le

lemma SpellsMembers.length_lt {cs rest : List Char} {members : List (Text.Name × Json)}
    (h : SpellsMembers cs members rest) : rest.length < cs.length := by
  cases h with
  | last label value after =>
    exact Nat.lt_trans (Nat.lt_trans after.length_le value.length_lt) label.length_lt
  | more label value after others =>
    have hnext := Nat.lt_trans others.length_lt after.length_le
    exact Nat.lt_trans (Nat.lt_trans hnext value.length_lt) label.length_lt

end

/-! ### Reading blanks -/

lemma skipBlanks_cons_of_isBlank {c : Char} (h : IsBlank c) (cs : List Char) :
    skipBlanks (c :: cs) = skipBlanks cs := by
  rcases h with rfl | rfl | rfl | rfl <;> rfl

lemma skipBlanks_of_not_isBlank {c : Char} (h : ¬ IsBlank c) (cs : List Char) :
    skipBlanks (c :: cs) = c :: cs := by
  simp only [IsBlank, not_or] at h
  simp [skipBlanks, h]

/-- The reader skips all the blanks before a sign. -/
lemma Blanks.skipBlanks_eq {cs rest : List Char} {c : Char} (h : Blanks cs (c :: rest))
    (hc : ¬ IsBlank c) : skipBlanks cs = c :: rest := by
  generalize hsign : c :: rest = sign at h
  induction h with
  | none =>
    rw [← hsign]
    exact skipBlanks_of_not_isBlank hc rest
  | one blank _ ih =>
    rw [skipBlanks_cons_of_isBlank blank]
    exact ih hsign

lemma not_isBlank_of_mem {c : Char} (h : c ∈ ['"', '[', ']', '\x7b', '\x7d', ':', ',']) :
    ¬ IsBlank c := by
  simp only [List.mem_cons, List.not_mem_nil, or_false] at h
  rcases h with rfl | rfl | rfl | rfl | rfl | rfl | rfl <;> simp [IsBlank]

/-- A value begins with a quote or with an opening sign. -/
lemma Spells.exists_cons {cs rest : List Char} {value : Json} (h : Spells cs value rest) :
    ∃ c tail, cs = c :: tail ∧ c ∈ ['"', '[', '\x7b'] := by
  cases h with
  | str => exact ⟨_, _, rfl, by simp⟩
  | emptyArr => exact ⟨_, _, rfl, by simp⟩
  | arr => exact ⟨_, _, rfl, by simp⟩
  | emptyObj => exact ⟨_, _, rfl, by simp⟩
  | obj => exact ⟨_, _, rfl, by simp⟩

/-- The reader skips all the blanks before a value. -/
lemma Blanks.skipBlanks_value {cs first rest : List Char} {value : Json} (h : Blanks cs first)
    (hvalue : Spells first value rest) : skipBlanks cs = first := by
  obtain ⟨c, tail, rfl, hc⟩ := hvalue.exists_cons
  refine h.skipBlanks_eq (not_isBlank_of_mem ?_)
  simp only [List.mem_cons, List.not_mem_nil, or_false] at hc ⊢
  tauto

/-! ### Reading strings -/

lemma pushUnit_none {unit : Nat} (h : Text.Utf16.isHigh unit = false) (done : List Nat) :
    pushUnit none unit done = (none, unit :: done) := by
  simp [pushUnit, h]

lemma pushUnit_high {unit : Nat} (h : Text.Utf16.isHigh unit) (done : List Nat) :
    pushUnit none unit done = (some unit, unit :: done) := by
  simp [pushUnit, h]

lemma pushUnit_low {unit : Nat} (h : Text.Utf16.isLow unit) (high : Nat) (done : List Nat) :
    pushUnit (some high) unit (high :: done) = (none, Text.Utf16.join high unit :: done) := by
  simp [pushUnit, h]

lemma isHigh_of_isValidChar {n : Nat} (h : n.isValidChar) : Text.Utf16.isHigh n = false := by
  rcases h with h | ⟨h, -⟩ <;> simp [Text.Utf16.isHigh] <;> omega

lemma isValidChar_join {high low : Nat} (hhigh : Text.Utf16.isHigh high)
    (hlow : Text.Utf16.isLow low) : (Text.Utf16.join high low).isValidChar := by
  simp only [Text.Utf16.isHigh, Text.Utf16.isLow, Bool.and_eq_true, decide_eq_true_eq] at hhigh hlow
  right
  unfold Text.Utf16.join
  omega

lemma toNat_ofNat_of_isValidChar {n : Nat} (h : n.isValidChar) : (Char.ofNat n).toNat = n := by
  have hchar : Char.ofNat n = Char.ofNatAux n h := dif_pos h
  rw [hchar]
  rfl

lemma readString_unit {h i j k : Char} {n : Nat} (digits : hexNumber? [h, i, j, k] = some n)
    (high : Option Nat) (done : List Nat) (rest : List Char) :
    readString high done ('\\' :: 'u' :: h :: i :: j :: k :: rest) =
      readString (pushUnit high n done).1 (pushUnit high n done).2 rest := by
  rw [readString]
  simp [digits]

lemma readString_letter {e c : Char} (escape : (e, c) ∈ letterEscapes) (done : List Nat)
    (rest : List Char) :
    readString none done ('\\' :: e :: rest) = readString none (c.toNat :: done) rest := by
  have hne : e ≠ 'u' := by
    rintro rfl
    simp [letterEscapes] at escape
  have hescaped : escaped? e = some c := by
    simp only [letterEscapes, List.mem_cons, Prod.mk.injEq, List.not_mem_nil, or_false] at escape
    rcases escape with ⟨rfl, rfl⟩ | ⟨rfl, rfl⟩ | ⟨rfl, rfl⟩ | ⟨rfl, rfl⟩ | ⟨rfl, rfl⟩ | ⟨rfl, rfl⟩ |
      ⟨rfl, rfl⟩ | ⟨rfl, rfl⟩ <;> rfl
  rw [readString.eq_4 _ _ _ _ fun _ _ _ _ _ h _ => hne h]
  simp [hescaped]

lemma SpellsChar.readString_eq {cs rest : List Char} {c : Char} (h : SpellsChar cs c rest)
    (done : List Nat) : readString none done cs = readString none (c.toNat :: done) rest := by
  cases h with
  | plain high quote slash =>
    have hnot : ¬ (decide (c.toNat < 0x20) || decide (c = '\\')) = true := by
      simp only [Bool.or_eq_true, decide_eq_true_eq, not_or]
      exact ⟨Nat.not_lt.mpr high, slash⟩
    rw [readString.eq_5 _ _ _ _ quote (fun _ _ _ _ _ h _ => slash h) (fun _ _ h _ => slash h),
      if_neg hnot]
  | letter escape => exact readString_letter escape done rest
  | unit digits valid =>
    rw [readString_unit digits, pushUnit_none (isHigh_of_isValidChar valid),
      toNat_ofNat_of_isValidChar valid]
  | pair first isHigh second isLow =>
    rw [readString_unit first, pushUnit_high isHigh, readString_unit second, pushUnit_low isLow,
      toNat_ofNat_of_isValidChar (isValidChar_join isHigh isLow)]

/-- The reader reads the code points that a text spells. -/
lemma SpellsText.readString_eq {cs s rest : List Char} (h : SpellsText cs s rest)
    (done : List Nat) :
    readString none done cs = .ok (done.reverse ++ s.map Char.toNat, rest) := by
  induction h generalizing done with
  | close => simp [readString]
  | char first _ ih => simp [first.readString_eq, ih]

lemma ofPoints_map_toNat (s : List Char) :
    Text.Name.ofPoints (s.map Char.toNat) = .text (String.ofList s) := by
  have hvalid : (s.map Char.toNat).all Nat.isValidChar := by
    rw [List.all_eq_true]
    intro n hn
    obtain ⟨c, -, rfl⟩ := List.mem_map.mp hn
    exact decide_eq_true c.valid
  rw [Text.Name.ofPoints, if_pos hvalid, List.map_map]
  simp [Function.comp_def, Char.ofNat_toNat]

lemma SpellsName.readName_eq {cs rest : List Char} {name : String} (h : SpellsName cs name rest)
    {value : Json} {more : List Char} (hvalue : Spells rest value more) :
    readName (skipBlanks cs) = .ok (.text name, rest) := by
  obtain ⟨before, name, colon, blanks⟩ := h
  rw [before.skipBlanks_eq (not_isBlank_of_mem (by simp)), readName, name.readString_eq]
  simp only [bind, Except.bind, List.reverse_nil, List.nil_append]
  rw [colon.skipBlanks_eq (not_isBlank_of_mem (by simp))]
  simp [ofPoints_map_toNat, blanks.skipBlanks_value hvalue, pure, Except.pure]

/-! ### Reading values -/

/-- What the reader can read with an amount of fuel: whatever has no more characters than that. -/
structure Reads (fuel : Nat) : Prop where
  value : ∀ {cs value rest}, Spells cs value rest → cs.length ≤ fuel + rest.length →
    readValue fuel cs = .ok (value, rest)
  items : ∀ {cs items rest}, SpellsItems cs items rest → cs.length ≤ fuel + rest.length →
    ∀ done, readItems fuel done (skipBlanks cs) = .ok (.arr (done.reverse ++ items), rest)
  members : ∀ {cs members rest}, SpellsMembers cs members rest → cs.length ≤ fuel + rest.length →
    ∀ done, readMembers fuel done (skipBlanks cs) = .ok (.obj (done.reverse ++ members), rest)

lemma reads_zero : Reads 0 where
  value h hfuel := by
    have := h.length_lt
    omega
  items h hfuel := by
    have := h.length_lt
    omega
  members h hfuel := by
    have := h.length_lt
    omega

namespace Reads

variable {fuel : Nat} {cs rest : List Char}

/-- The bracket of an array is not followed by another when there are items. -/
lemma readValue_arr (reads : Reads fuel) {items : List Json} (body : SpellsItems cs items rest)
    (hfuel : cs.length ≤ fuel + rest.length) :
    readValue (fuel + 1) ('[' :: cs) = .ok (.arr items, rest) := by
  have hitems := reads.items body hfuel []
  obtain ⟨c, tail, hskip, hc⟩ : ∃ c tail, skipBlanks cs = c :: tail ∧ c ≠ ']' := by
    cases body with
    | last before value _ | more before value _ _ =>
      obtain ⟨c, tail, rfl, hc⟩ := value.exists_cons
      exact ⟨c, tail, before.skipBlanks_value value, by rintro rfl; simp at hc⟩
  rw [hskip] at hitems
  simp [readValue, hskip, hc, hitems]

lemma readValue_obj (reads : Reads fuel) {members : List (Text.Name × Json)}
    (body : SpellsMembers cs members rest) (hfuel : cs.length ≤ fuel + rest.length) :
    readValue (fuel + 1) ('\x7b' :: cs) = .ok (.obj members, rest) := by
  have hmembers := reads.members body hfuel []
  obtain ⟨tail, hskip⟩ : ∃ tail, skipBlanks cs = '"' :: tail := by
    cases body with
    | last label _ _ | more label _ _ _ =>
      obtain ⟨before, -, -, -⟩ := label
      exact ⟨_, before.skipBlanks_eq (not_isBlank_of_mem (by simp))⟩
  rw [hskip] at hmembers
  simp [readValue, hskip, hmembers]

lemma readItems_succ (reads : Reads fuel) {items : List Json} (h : SpellsItems cs items rest)
    (hfuel : cs.length ≤ fuel + 1 + rest.length) (done : List Json) :
    readItems (fuel + 1) done (skipBlanks cs) = .ok (.arr (done.reverse ++ items), rest) := by
  cases h with
  | last before value after =>
    have hbefore := before.length_le
    have hafter := after.length_le
    simp only [List.length_cons] at hafter
    simp [before.skipBlanks_value value, readItems, reads.value value (by omega),
      after.skipBlanks_eq (not_isBlank_of_mem (by simp))]
  | more before value after others =>
    have hbefore := before.length_le
    have hvalue := value.length_lt
    have hafter := after.length_le
    have hothers := others.length_lt
    simp only [List.length_cons] at hafter
    simp [before.skipBlanks_value value, readItems, reads.value value (by omega),
      after.skipBlanks_eq (not_isBlank_of_mem (by simp)), reads.items others (by omega)]

lemma readMembers_succ (reads : Reads fuel) {members : List (Text.Name × Json)}
    (h : SpellsMembers cs members rest) (hfuel : cs.length ≤ fuel + 1 + rest.length)
    (done : List (Text.Name × Json)) :
    readMembers (fuel + 1) done (skipBlanks cs) = .ok (.obj (done.reverse ++ members), rest) := by
  cases h with
  | last label value after =>
    have hlabel := label.length_lt
    have hafter := after.length_le
    simp only [List.length_cons] at hafter
    simp [readMembers, label.readName_eq value, reads.value value (by omega),
      after.skipBlanks_eq (not_isBlank_of_mem (by simp))]
  | more label value after others =>
    have hlabel := label.length_lt
    have hvalue := value.length_lt
    have hafter := after.length_le
    have hothers := others.length_lt
    simp only [List.length_cons] at hafter
    simp [readMembers, label.readName_eq value, reads.value value (by omega),
      after.skipBlanks_eq (not_isBlank_of_mem (by simp)), reads.members others (by omega)]

lemma succ (reads : Reads fuel) : Reads (fuel + 1) where
  items := reads.readItems_succ
  members := reads.readMembers_succ
  value h hfuel := by
    cases h with
    | str body =>
      simp [readValue, body.readString_eq, ofPoints, ofPoints_map_toNat, ofName, bind, Except.bind,
        pure, Except.pure]
    | emptyArr blanks => simp [readValue, blanks.skipBlanks_eq (not_isBlank_of_mem (by simp))]
    | arr body =>
      simp only [List.length_cons] at hfuel
      exact reads.readValue_arr body (by omega)
    | emptyObj blanks => simp [readValue, blanks.skipBlanks_eq (not_isBlank_of_mem (by simp))]
    | obj body =>
      simp only [List.length_cons] at hfuel
      exact reads.readValue_obj body (by omega)

end Reads

lemma reads (fuel : Nat) : Reads fuel := by
  induction fuel with
  | zero => exact reads_zero
  | succ fuel ih => exact ih.succ

/-- A text of the grammar is read as the value that it spells. -/
theorem Spells.parse_eq {text : String} {value : Json} (h : Spells text.toList value []) :
    parse text = .ok value := by
  have hread := (reads (text.toList.length + 1)).value h (Nat.le_add_right _ _)
  rw [parse, Blanks.none.skipBlanks_value h, hread]
  rfl

end Outline.Json
