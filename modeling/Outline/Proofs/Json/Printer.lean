import Mathlib.Data.List.Infix
import Outline.Json.Printer
import Outline.Proofs.Json.Grammar

/-!
# Printed JSON

What the printer writes for a value made of strings, arrays and objects is a text of the grammar
that spells the value, and it has no characters but line feeds and those that ASCII can print.
-/

namespace Outline

/-! ### Hexadecimal digits -/

lemma Text.hexValue?_hexDigit {n : Nat} (h : n < 16) : hexValue? (hexDigit n) = some n := by
  have : ∀ m < 16, hexValue? (hexDigit m) = some m := by decide
  exact this n h

namespace Json

/-- Four digits are read as the number that they are of. -/
lemma exists_hexDigits (n : Nat) (h : n < 0x10000) :
    ∃ i j k l, Text.hexDigits 4 n = [i, j, k, l] ∧ Text.hexNumber? [i, j, k, l] = some n := by
  refine ⟨_, _, _, _, rfl, ?_⟩
  have hdigit : ∀ m, Text.hexValue? (Text.hexDigit (m % 16)) = some (m % 16) :=
    fun m => Text.hexValue?_hexDigit (Nat.mod_lt m (by decide))
  simp only [Text.hexNumber?, List.foldlM, hdigit, Option.map_some, bind, Option.bind, pure,
    Option.some.injEq]
  omega

/-! ### Strings -/

lemma spellsChar_unitEscape {n : Nat} (h : n < 0x10000) (hvalid : n.isValidChar)
    (rest : List Char) : SpellsChar (unitEscape n ++ rest) (Char.ofNat n) rest := by
  obtain ⟨i, j, k, l, hdigits, hnumber⟩ := exists_hexDigits n h
  rw [unitEscape, hdigits]
  exact .unit hnumber hvalid

/-- Two surrogates, each by its escape, spell the character that they make up. -/
lemma spellsChar_surrogates {high low n : Nat} (hhigh : Text.Utf16.isHigh high)
    (hlow : Text.Utf16.isLow low) (hjoin : Text.Utf16.join high low = n) (rest : List Char) :
    SpellsChar (unitEscape high ++ unitEscape low ++ rest) (Char.ofNat n) rest := by
  subst hjoin
  have hlt : high < 0x10000 ∧ low < 0x10000 := by
    simp [Text.Utf16.isHigh, Text.Utf16.isLow] at hhigh hlow
    omega
  obtain ⟨i, j, k, l, hdigits, hnumber⟩ := exists_hexDigits high hlt.1
  obtain ⟨i', j', k', l', hdigits', hnumber'⟩ := exists_hexDigits low hlt.2
  rw [unitEscape, unitEscape, hdigits, hdigits']
  exact .pair hnumber hhigh hnumber' hlow

/-- A character outside the first plane has two surrogates. -/
lemma surrogates_of_le {n : Nat} (hlow : 0x10000 ≤ n) (hhigh : n < 0x110000) :
    Text.Utf16.isHigh (0xD800 + (n - 0x10000) / 0x400) ∧
      Text.Utf16.isLow (0xDC00 + (n - 0x10000) % 0x400) ∧
      Text.Utf16.join (0xD800 + (n - 0x10000) / 0x400) (0xDC00 + (n - 0x10000) % 0x400) = n := by
  refine ⟨?_, ?_, ?_⟩
  · simp [Text.Utf16.isHigh]
    omega
  · simp [Text.Utf16.isLow]
    omega
  · unfold Text.Utf16.join
    omega

/-- The printer spells every character. -/
lemma spellsChar_escapeChar (c : Char) (rest : List Char) :
    SpellsChar (escapeChar c ++ rest) c rest := by
  have hletter : ∀ {e n}, (e, Char.ofNat n) ∈ letterEscapes → c.toNat = n →
      SpellsChar (['\\', e] ++ rest) c rest := by
    rintro e _ hmem rfl
    rw [Char.ofNat_toNat] at hmem
    exact .letter hmem
  unfold escapeChar
  dsimp only
  split
  · next hquote =>
    simp only [Bool.or_eq_true, decide_eq_true_eq] at hquote
    rcases hquote with rfl | rfl
    · exact .letter (by decide)
    · exact .letter (by decide)
  next hquote =>
  split
  · next hcode => exact hletter (by decide) hcode
  split
  · next hcode => exact hletter (by decide) hcode
  split
  · next hcode => exact hletter (by decide) hcode
  split
  · next hcode => exact hletter (by decide) hcode
  split
  · next hcode => exact hletter (by decide) hcode
  split
  · next hplain =>
    simp only [Bool.or_eq_true, decide_eq_true_eq, not_or] at hquote
    simp only [Bool.and_eq_true, decide_eq_true_eq] at hplain
    exact .plain hplain.1 hquote.1 hquote.2
  split
  · next hplane =>
    have := spellsChar_unitEscape hplane c.valid rest
    rwa [Char.ofNat_toNat] at this
  · next hplane =>
    have hvalid : c.toNat < 0x110000 := by
      rcases c.valid with h | ⟨-, h⟩
      · exact Nat.lt_trans h (by decide)
      · exact h
    obtain ⟨hhigh, hlow, hjoin⟩ := surrogates_of_le (Nat.le_of_not_lt hplane) hvalid
    have := spellsChar_surrogates hhigh hlow hjoin rest
    rwa [Char.ofNat_toNat] at this

lemma spellsText_escape (s rest : List Char) :
    SpellsText (s.flatMap escapeChar ++ '"' :: rest) s rest := by
  induction s with
  | nil => exact .close
  | cons c s ih =>
    rw [List.flatMap_cons, List.append_assoc]
    exact .char (spellsChar_escapeChar c _) ih

lemma writeString_append (s : String) (rest : List Char) :
    writeString s ++ rest = '"' :: (s.toList.flatMap escapeChar ++ '"' :: rest) := by
  simp [writeString]

/-! ### Values -/

/-- The members of a record. -/
def named (members : List (String × Json)) : List (Text.Name × Json) :=
  members.map fun (name, value) => (.text name, value)

lemma named_nil : named [] = [] := rfl

lemma named_cons (member : String × Json) (members : List (String × Json)) :
    named (member :: members) = (.text member.1, member.2) :: named members := rfl

/-- Values made of texts, arrays and objects, whose members have texts for names. -/
inductive Textual : Json → Prop where
  | str (s : String) : Textual (.str s)
  | arr {items : List Json} (each : ∀ item ∈ items, Textual item) : Textual (.arr items)
  | obj {members : List (String × Json)} (each : ∀ member ∈ members, Textual member.2) :
      Textual (.record members)

lemma blanks_replicate (n : Nat) (rest : List Char) :
    Blanks (List.replicate n ' ' ++ rest) rest := by
  induction n with
  | zero => exact .none
  | succ n ih => exact .one (.inl rfl) ih

lemma blanks_lineBreak (depth : Nat) (rest : List Char) :
    Blanks (lineBreak depth ++ rest) rest :=
  .one (.inr (.inr (.inl rfl))) (blanks_replicate _ rest)

lemma spellsItems_writeItems {item : Json} {items : List Json}
    (each : ∀ value ∈ item :: items, ∀ depth rest, Spells (write depth value rest) value rest)
    (depth outer : Nat) (rest : List Char) :
    SpellsItems
      (write.writeItems depth (item :: items) (lineBreak outer ++ ']' :: rest))
      (item :: items) rest := by
  induction items generalizing item with
  | nil =>
    simp only [write.writeItems, comma, List.isEmpty_nil, if_true, List.nil_append]
    exact .last (blanks_lineBreak _ _) (each item List.mem_cons_self _ _) (blanks_lineBreak _ _)
  | cons next items ih =>
    rw [write.writeItems]
    refine .more (blanks_lineBreak _ _) (each item List.mem_cons_self _ _) .none ?_
    exact ih fun value hvalue => each value (List.mem_cons_of_mem _ hvalue)

lemma spellsName_write (name : String) (depth : Nat) (rest : List Char) :
    SpellsName (lineBreak depth ++ writeName (.text name) ++ ':' :: ' ' :: rest) name rest := by
  rw [List.append_assoc, writeName, writeString_append]
  have hblank : Blanks (' ' :: rest) rest := .one (.inl rfl) .none
  have := SpellsName.mk (blanks_lineBreak depth _) (spellsText_escape name.toList _) .none hblank
  rwa [String.ofList_toList] at this

lemma spellsMembers_writeMembers {member : String × Json} {members : List (String × Json)}
    (each : ∀ m ∈ member :: members, ∀ depth rest, Spells (write depth m.2 rest) m.2 rest)
    (depth outer : Nat) (rest : List Char) :
    SpellsMembers
      (write.writeMembers depth (named (member :: members)) (lineBreak outer ++ '\x7d' :: rest))
      (named (member :: members)) rest := by
  induction members generalizing member with
  | nil =>
    simp only [named_cons, named_nil, write.writeMembers, comma, List.isEmpty_nil, if_true,
      List.nil_append]
    exact .last (spellsName_write _ _ _) (each member List.mem_cons_self _ _)
      (blanks_lineBreak _ _)
  | cons next members ih =>
    rw [named_cons, write.writeMembers]
    refine .more (spellsName_write _ _ _) (each member List.mem_cons_self _ _) .none ?_
    exact ih fun m hm => each m (List.mem_cons_of_mem _ hm)

lemma write_str (depth : Nat) (s : String) (rest : List Char) :
    write depth (.str s) rest = writeString s ++ rest := rfl

lemma write_arr (depth : Nat) (item : Json) (items : List Json) (rest : List Char) :
    write depth (.arr (item :: items)) rest =
      '[' :: write.writeItems (depth + 1) (item :: items) (lineBreak depth ++ ']' :: rest) := rfl

lemma write_record (depth : Nat) (member : String × Json) (members : List (String × Json))
    (rest : List Char) :
    write depth (.record (member :: members)) rest =
      '\x7b' :: write.writeMembers (depth + 1) (named (member :: members))
        (lineBreak depth ++ '\x7d' :: rest) := rfl

/-- What is written before some characters spells the value, with those left. -/
lemma Textual.spells_write {value : Json} (h : value.Textual) (depth : Nat) (rest : List Char) :
    Spells (write depth value rest) value rest := by
  induction h generalizing depth rest with
  | str s =>
    rw [write_str, writeString_append]
    have := Spells.str (spellsText_escape s.toList rest)
    rwa [String.ofList_toList] at this
  | @arr items _ ih =>
    cases items with
    | nil => exact .emptyArr .none
    | cons item items =>
      rw [write_arr]
      exact .arr (spellsItems_writeItems ih _ _ _)
  | @obj members _ ih =>
    cases members with
    | nil => exact .emptyObj .none
    | cons member members =>
      rw [write_record]
      exact .obj (spellsMembers_writeMembers ih _ _ _)

/-! ### Characters -/

/-- The characters that are written: line feeds and those that ASCII can print. -/
def IsWritten (c : Char) : Prop :=
  c = '\n' ∨ 0x20 ≤ c.toNat ∧ c.toNat < 0x7f

instance : DecidablePred IsWritten :=
  fun _ => inferInstanceAs (Decidable (_ ∨ _))

lemma isWritten_hexDigits (width n : Nat) : ∀ c ∈ Text.hexDigits width n, IsWritten c := by
  induction width generalizing n with
  | zero => simp [Text.hexDigits]
  | succ width ih =>
    have hdigit : ∀ m < 16, IsWritten (Text.hexDigit m) := by decide
    intro c hc
    rcases List.mem_append.mp hc with hc | hc
    · exact ih _ c hc
    · rw [List.mem_singleton.mp hc]
      exact hdigit _ (Nat.mod_lt n (by decide))

lemma isWritten_unitEscape (unit : Nat) : ∀ c ∈ unitEscape unit, IsWritten c := by
  intro c hc
  rcases List.mem_cons.mp hc with rfl | hc
  · decide
  rcases List.mem_cons.mp hc with rfl | hc
  · decide
  · exact isWritten_hexDigits _ _ c hc

lemma isWritten_escapeChar (c : Char) : ∀ d ∈ escapeChar c, IsWritten d := by
  have hletter : ∀ e, IsWritten e → ∀ d ∈ ['\\', e], IsWritten d := by
    intro e he d hd
    rcases List.mem_cons.mp hd with rfl | hd
    · decide
    · rwa [List.mem_singleton.mp hd]
  unfold escapeChar
  dsimp only
  split
  · next hquote =>
    simp only [Bool.or_eq_true, decide_eq_true_eq] at hquote
    rcases hquote with rfl | rfl
    · exact hletter _ (by decide)
    · exact hletter _ (by decide)
  split
  · exact hletter _ (by decide)
  split
  · exact hletter _ (by decide)
  split
  · exact hletter _ (by decide)
  split
  · exact hletter _ (by decide)
  split
  · exact hletter _ (by decide)
  split
  · next hplain =>
    intro d hd
    rw [List.mem_singleton.mp hd]
    simp only [Bool.and_eq_true, decide_eq_true_eq] at hplain
    exact .inr hplain
  split
  · exact isWritten_unitEscape _
  · intro d hd
    rcases List.mem_append.mp hd with hd | hd
    · exact isWritten_unitEscape _ d hd
    · exact isWritten_unitEscape _ d hd

lemma isWritten_writeString (s : String) : ∀ c ∈ writeString s, IsWritten c := by
  intro c hc
  have hcases : c = '"' ∨ c ∈ s.toList.flatMap escapeChar := by
    simp only [writeString, List.cons_append, List.mem_cons, List.mem_append, List.not_mem_nil,
      or_false] at hc
    tauto
  rcases hcases with rfl | hc
  · decide
  · obtain ⟨d, -, hd⟩ := List.mem_flatMap.mp hc
    exact isWritten_escapeChar d c hd

lemma isWritten_lineBreak (depth : Nat) : ∀ c ∈ lineBreak depth, IsWritten c := by
  intro c hc
  rcases List.mem_cons.mp hc with rfl | hc
  · decide
  · rw [(List.mem_replicate.mp hc).2]
    decide

lemma isWritten_comma {α : Type} (rest : List α) : ∀ c ∈ comma rest, IsWritten c := by
  intro c hc
  unfold comma at hc
  split at hc
  · cases hc
  · rw [List.mem_singleton.mp hc]
    decide

lemma isWritten_writeItems {items : List Json}
    (each : ∀ item ∈ items, ∀ depth rest, (∀ c ∈ rest, IsWritten c) →
      ∀ c ∈ write depth item rest, IsWritten c)
    (depth : Nat) {rest : List Char} (hrest : ∀ c ∈ rest, IsWritten c) :
    ∀ c ∈ write.writeItems depth items rest, IsWritten c := by
  induction items with
  | nil => exact hrest
  | cons item items ih =>
    rw [write.writeItems, List.forall_mem_append]
    refine ⟨isWritten_lineBreak depth, each item List.mem_cons_self _ _ ?_⟩
    rw [List.forall_mem_append]
    exact ⟨isWritten_comma items, ih fun other hother => each other (List.mem_cons_of_mem _ hother)⟩

lemma isWritten_writeMembers {members : List (String × Json)}
    (each : ∀ member ∈ members, ∀ depth rest, (∀ c ∈ rest, IsWritten c) →
      ∀ c ∈ write depth member.2 rest, IsWritten c)
    (depth : Nat) {rest : List Char} (hrest : ∀ c ∈ rest, IsWritten c) :
    ∀ c ∈ write.writeMembers depth (named members) rest, IsWritten c := by
  induction members with
  | nil => exact hrest
  | cons member members ih =>
    rw [named_cons, write.writeMembers, List.forall_mem_append, List.forall_mem_append,
      List.forall_mem_cons, List.forall_mem_cons]
    refine ⟨⟨isWritten_lineBreak depth, isWritten_writeString member.1⟩, by decide, by decide, ?_⟩
    apply each member List.mem_cons_self
    rw [List.forall_mem_append]
    exact ⟨isWritten_comma _, ih fun other hother => each other (List.mem_cons_of_mem _ hother)⟩

/-- Only line feeds and printing ASCII characters are written before characters of that kind. -/
lemma Textual.isWritten_write {value : Json} (h : value.Textual) (depth : Nat) {rest : List Char}
    (hrest : ∀ c ∈ rest, IsWritten c) : ∀ c ∈ write depth value rest, IsWritten c := by
  -- a closing sign goes on the line after the items
  have hclose : ∀ {sign depth rest}, IsWritten sign → (∀ c ∈ rest, IsWritten c) →
      ∀ c ∈ lineBreak depth ++ sign :: rest, IsWritten c := by
    intro sign depth rest hsign hrest
    exact List.forall_mem_append.mpr
      ⟨isWritten_lineBreak depth, List.forall_mem_cons.mpr ⟨hsign, hrest⟩⟩
  induction h generalizing depth rest with
  | str s => exact List.forall_mem_append.mpr ⟨isWritten_writeString s, hrest⟩
  | @arr items _ ih =>
    cases items with
    | nil =>
      change ∀ c ∈ '[' :: ']' :: rest, IsWritten c
      rw [List.forall_mem_cons, List.forall_mem_cons]
      exact ⟨by decide, by decide, hrest⟩
    | cons item items =>
      rw [write_arr, List.forall_mem_cons]
      exact ⟨by decide,
        isWritten_writeItems (fun v hv d _ => ih v hv d) _ (hclose (by decide) hrest)⟩
  | @obj members _ ih =>
    cases members with
    | nil =>
      change ∀ c ∈ '\x7b' :: '\x7d' :: rest, IsWritten c
      rw [List.forall_mem_cons, List.forall_mem_cons]
      exact ⟨by decide, by decide, hrest⟩
    | cons member members =>
      rw [write_record, List.forall_mem_cons]
      exact ⟨by decide,
        isWritten_writeMembers (fun m hm d _ => ih m hm d) _ (hclose (by decide) hrest)⟩

/-! ### Ends -/

lemma suffix_writeItems {items : List Json}
    (each : ∀ item ∈ items, ∀ depth rest, rest <:+ write depth item rest) (depth : Nat)
    (rest : List Char) : rest <:+ write.writeItems depth items rest := by
  induction items with
  | nil => exact List.suffix_rfl
  | cons item items ih =>
    rw [write.writeItems]
    calc rest
        <:+ write.writeItems depth items rest :=
          ih fun other hother => each other (List.mem_cons_of_mem _ hother)
      _ <:+ comma items ++ write.writeItems depth items rest := List.suffix_append _ _
      _ <:+ write depth item (comma items ++ write.writeItems depth items rest) :=
          each item List.mem_cons_self _ _
      _ <:+ _ := List.suffix_append _ _

lemma suffix_writeMembers {members : List (String × Json)}
    (each : ∀ member ∈ members, ∀ depth rest, rest <:+ write depth member.2 rest) (depth : Nat)
    (rest : List Char) : rest <:+ write.writeMembers depth (named members) rest := by
  induction members with
  | nil => exact List.suffix_rfl
  | cons member members ih =>
    rw [named_cons, write.writeMembers]
    calc rest
        <:+ write.writeMembers depth (named members) rest :=
          ih fun other hother => each other (List.mem_cons_of_mem _ hother)
      _ <:+ comma (named members) ++ write.writeMembers depth (named members) rest :=
          List.suffix_append _ _
      _ <:+ write depth member.2
            (comma (named members) ++ write.writeMembers depth (named members) rest) :=
          each member List.mem_cons_self _ _
      _ <:+ ':' :: ' ' :: write depth member.2
            (comma (named members) ++ write.writeMembers depth (named members) rest) :=
          List.suffix_append [':', ' '] _
      _ <:+ _ := List.suffix_append _ _

/-- What is written stands before the characters that follow. -/
lemma Textual.suffix_write {value : Json} (h : value.Textual) (depth : Nat) (rest : List Char) :
    rest <:+ write depth value rest := by
  induction h generalizing depth rest with
  | str s => exact List.suffix_append _ _
  | @arr items _ ih =>
    cases items with
    | nil => exact List.suffix_append ['[', ']'] _
    | cons item items =>
      rw [write_arr]
      calc rest
          <:+ lineBreak depth ++ [']'] ++ rest := List.suffix_append _ _
        _ = lineBreak depth ++ ']' :: rest := by simp
        _ <:+ write.writeItems (depth + 1) (item :: items) (lineBreak depth ++ ']' :: rest) :=
            suffix_writeItems ih _ _
        _ <:+ _ := List.suffix_cons _ _
  | @obj members _ ih =>
    cases members with
    | nil => exact List.suffix_append ['\x7b', '\x7d'] _
    | cons member members =>
      rw [write_record]
      calc rest
          <:+ lineBreak depth ++ ['\x7d'] ++ rest := List.suffix_append _ _
        _ = lineBreak depth ++ '\x7d' :: rest := by simp
        _ <:+ write.writeMembers (depth + 1) (named (member :: members))
              (lineBreak depth ++ '\x7d' :: rest) := suffix_writeMembers ih _ _
        _ <:+ _ := List.suffix_cons _ _

/-! ### Whole texts -/

lemma Textual.spells_render {value : Json} (h : value.Textual) :
    Spells value.render.toList value [] := by
  rw [render, String.toList_ofList]
  exact h.spells_write 0 []

lemma Textual.isWritten_render {value : Json} (h : value.Textual) :
    ∀ c ∈ value.render.toList, IsWritten c := by
  rw [render, String.toList_ofList]
  exact h.isWritten_write 0 (by simp)

/-- The text of an object ends in its brace. -/
lemma Textual.suffix_render {members : List (String × Json)} (h : (record members).Textual) :
    ['\x7d'] <:+ (record members).render.toList := by
  generalize hvalue : record members = value at h ⊢
  rw [render, String.toList_ofList]
  cases h with
  | str => simp [record] at hvalue
  | arr => simp [record] at hvalue
  | @obj members each =>
    cases members with
    | nil => exact List.suffix_append ['\x7b'] _
    | cons member members =>
      rw [write_record]
      calc ['\x7d']
          <:+ lineBreak 0 ++ ['\x7d'] := List.suffix_append _ _
        _ <:+ write.writeMembers 1 (named (member :: members)) (lineBreak 0 ++ ['\x7d']) :=
            suffix_writeMembers (fun m hm => (each m hm).suffix_write) _ _
        _ <:+ _ := List.suffix_cons _ _

end Json

end Outline
