import Mathlib.Tactic.Common
import Mathlib.Tactic.IntervalCases
import Outline.Text.Utf8

/-!
# The bytes of characters

A character is written as one first byte and up to three that continue it. From this follow how many
characters some bytes hold, where in them a character may begin, and that what was written is read
back. A reader that goes on past faults reads a character that is cut apart as one, so that of any
beginning of written bytes it reads as many characters as begin in it.
-/

namespace Outline.Text.Utf8

/-- The bytes of some characters. -/
def bytes (cs : List Char) : List UInt8 :=
  cs.flatMap String.utf8EncodeChar

lemma encode_eq_bytes (text : String) : encode text = bytes text.toList :=
  rfl

/-- The bytes of a text are those of the library. -/
lemma toByteArray_encode (text : String) : (encode text).toByteArray = text.toUTF8 := by
  rw [String.toUTF8_eq_toByteArray]
  conv_rhs => rw [← String.ofList_toList (s := text), String.toByteArray_ofList]
  rfl

@[simp]
lemma bytes_nil : bytes [] = [] :=
  rfl

lemma bytes_cons (c : Char) (cs : List Char) :
    bytes (c :: cs) = String.utf8EncodeChar c ++ bytes cs :=
  List.flatMap_cons

lemma bytes_append (cs ds : List Char) : bytes (cs ++ ds) = bytes cs ++ bytes ds :=
  List.flatMap_append

lemma bytes_isPrefix {cs ds : List Char} (h : cs <+: ds) : bytes cs <+: bytes ds := by
  obtain ⟨rest, rfl⟩ := h
  rw [bytes_append]
  exact List.prefix_append _ _

/-! ### One character -/

/-- The four lengths of a character, each with the range of its characters and their bytes. -/
lemma utf8EncodeChar_cases (c : Char) :
    (c.toNat < 0x80 ∧ String.utf8EncodeChar c = [UInt8.ofNat c.toNat]) ∨
    (0x80 ≤ c.toNat ∧ c.toNat < 0x800 ∧ String.utf8EncodeChar c =
      [UInt8.ofNat (c.toNat / 64 + 0xC0), UInt8.ofNat (c.toNat % 64 + 0x80)]) ∨
    (0x800 ≤ c.toNat ∧ c.toNat < 0x10000 ∧ (c.toNat < 0xD800 ∨ 0xDFFF < c.toNat) ∧
      String.utf8EncodeChar c =
        [UInt8.ofNat (c.toNat / 4096 + 0xE0), UInt8.ofNat (c.toNat / 64 % 64 + 0x80),
          UInt8.ofNat (c.toNat % 64 + 0x80)]) ∨
    (0x10000 ≤ c.toNat ∧ c.toNat < 0x110000 ∧ String.utf8EncodeChar c =
      [UInt8.ofNat (c.toNat / 262144 + 0xF0), UInt8.ofNat (c.toNat / 4096 % 64 + 0x80),
        UInt8.ofNat (c.toNat / 64 % 64 + 0x80), UInt8.ofNat (c.toNat % 64 + 0x80)]) := by
  have hvalid : c.toNat < 0xD800 ∨ 0xDFFF < c.toNat ∧ c.toNat < 0x110000 := c.valid
  have hval : c.val.toNat = c.toNat := rfl
  unfold String.utf8EncodeChar
  simp only [hval]
  split
  · left
    exact ⟨by omega, rfl⟩
  · right
    split
    · left
      refine ⟨by omega, by omega, ?_⟩
      rw [Nat.mod_eq_of_lt (show c.toNat / 64 < 32 by omega)]
    · right
      split
      · left
        refine ⟨by omega, by omega, by omega, ?_⟩
        rw [Nat.mod_eq_of_lt (show c.toNat / 4096 < 16 by omega)]
      · right
        refine ⟨by omega, by omega, ?_⟩
        rw [Nat.mod_eq_of_lt (show c.toNat / 262144 < 8 by omega)]

lemma toNat_ofNat {n : Nat} (h : n < 256) : (UInt8.ofNat n).toNat = n :=
  Nat.mod_eq_of_lt h

lemma isContinuation_iff {b : UInt8} : isContinuation b ↔ 0x80 ≤ b.toNat ∧ b.toNat ≤ 0xBF := by
  simp [isContinuation, UInt8.le_iff_toNat_le]

/-- Six bits make up a byte that continues a character. -/
lemma isContinuation_digit (n : Nat) : isContinuation (UInt8.ofNat (n % 64 + 0x80)) := by
  rw [isContinuation_iff, toNat_ofNat (by omega)]
  omega

/-- A byte above those that continue characters begins one that is not an ASCII one. -/
lemma begins_of_le {n : Nat} (h : 0xC0 ≤ n) (h' : n < 256) :
    isContinuation (UInt8.ofNat n) = false ∧ ¬ UInt8.ofNat n < 0x80 := by
  constructor
  · rw [← Bool.not_eq_true, isContinuation_iff, toNat_ofNat h']
    omega
  · rw [UInt8.lt_iff_toNat_lt, toNat_ofNat h']
    exact Nat.not_lt.mpr (Nat.le_trans (by decide) h)

/-- A character begins with a byte that continues none, all its other bytes do, and it has others
only when it is not an ASCII one. -/
lemma utf8EncodeChar_eq_cons (c : Char) :
    ∃ b bs, String.utf8EncodeChar c = b :: bs ∧ isContinuation b = false ∧
      (∀ x ∈ bs, isContinuation x) ∧
      (b < 0x80 → bs = [] ∧ b = UInt8.ofNat c.toNat ∧ c.toNat < 0x80) := by
  obtain ⟨h, e⟩ | ⟨h, h', e⟩ | ⟨h, h', -, e⟩ | ⟨h, h', e⟩ := utf8EncodeChar_cases c
  · refine ⟨_, _, e, ?_, by simp, fun _ => ⟨rfl, rfl, h⟩⟩
    rw [← Bool.not_eq_true, isContinuation_iff, toNat_ofNat (by omega)]
    omega
  all_goals
    refine ⟨_, _, e, (begins_of_le (by omega) (by omega)).1, ?_,
      fun hlt => absurd hlt (begins_of_le (by omega) (by omega)).2⟩
    simp only [List.mem_cons, List.not_mem_nil, or_false, forall_eq_or_imp, forall_eq,
      isContinuation_digit, and_self]

/-- The byte of an ASCII character stands in that character only. -/
lemma ascii_mem_utf8EncodeChar {c d : Char} (hd : d.toNat < 0x80) :
    UInt8.ofNat d.toNat ∈ String.utf8EncodeChar c ↔ c = d := by
  have hn : (UInt8.ofNat d.toNat).toNat = d.toNat := toNat_ofNat (by omega)
  constructor
  · intro h
    obtain ⟨b, bs, e, -, hbs, hfirst⟩ := utf8EncodeChar_eq_cons c
    rw [e, List.mem_cons] at h
    rcases h with rfl | h
    · obtain ⟨-, heq, hc⟩ := hfirst (by rw [UInt8.lt_iff_toNat_lt, hn]; exact hd)
      have hnat := congrArg UInt8.toNat heq
      rw [hn, toNat_ofNat (by omega)] at hnat
      exact Char.toNat_inj.mp hnat.symm
    · have hcontinues := isContinuation_iff.mp (hbs _ h)
      omega
  · rintro rfl
    obtain ⟨-, e⟩ | ⟨h, -⟩ | ⟨h, -⟩ | ⟨h, -⟩ := utf8EncodeChar_cases c
    · rw [e]
      exact List.mem_singleton_self _
    all_goals omega

/-! ### Counting -/

/-- Some bytes hold as many characters as they hold bytes that continue none. -/
lemma countP_bytes (cs : List Char) :
    (bytes cs).countP (fun b => !isContinuation b) = cs.length := by
  induction cs with
  | nil => rfl
  | cons c cs ih =>
    obtain ⟨b, bs, e, hb, hbs, -⟩ := utf8EncodeChar_eq_cons c
    have hrest : bs.countP (fun b => !isContinuation b) = 0 := by
      rw [List.countP_eq_zero]
      intro x hx
      simp [hbs x hx]
    rw [bytes_cons, e, List.countP_append, List.countP_cons_of_pos (by simp [hb]), hrest, ih]
    simp [Nat.add_comm]

/-- Among ASCII bytes each is a character. -/
lemma length_bytes_of_ascii {cs : List Char} (h : (bytes cs).all (· < 0x80)) :
    (bytes cs).length = cs.length := by
  rw [← countP_bytes, eq_comm, List.countP_eq_length]
  intro b hb
  have hlt : b < 0x80 := by simpa using List.all_eq_true.mp h b hb
  simp [isContinuation, UInt8.not_le.mpr hlt]

/-- A place where no byte goes on stands after a whole number of characters. -/
lemma exists_eq_length_bytes_take {cs : List Char} {column : Nat}
    (hcolumn : column ≤ (bytes cs).length)
    (hboundary : ∀ b, (bytes cs)[column]? = some b → isContinuation b = false) :
    ∃ k ≤ cs.length, column = (bytes (cs.take k)).length := by
  induction cs generalizing column with
  | nil => exact ⟨0, Nat.le_refl 0, Nat.le_zero.mp hcolumn⟩
  | cons c cs ih =>
    rw [bytes_cons] at hcolumn hboundary
    rw [List.length_append] at hcolumn
    by_cases hlt : column < (String.utf8EncodeChar c).length
    · -- only the first byte of a character may stand there
      obtain ⟨b, bs, e, -, hbs, -⟩ := utf8EncodeChar_eq_cons c
      rw [List.getElem?_append_left hlt, e] at hboundary
      rw [e] at hlt
      cases column with
      | zero => exact ⟨0, Nat.zero_le _, rfl⟩
      | succ column =>
        have hin : column < bs.length := Nat.lt_of_succ_lt_succ hlt
        have hno := hboundary bs[column] (by simp)
        rw [hbs _ (List.getElem_mem hin)] at hno
        cases hno
    · rw [List.getElem?_append_right (Nat.le_of_not_lt hlt)] at hboundary
      obtain ⟨k, hk, hcount⟩ := ih (by omega) hboundary
      refine ⟨k + 1, Nat.succ_le_succ hk, ?_⟩
      rw [List.take_succ_cons, bytes_cons, List.length_append]
      omega

/-! ### The steps of a reader -/

lemma first_ascii {n : Nat} (h : n < 0x80) : first (UInt8.ofNat n) = .char (Char.ofNat n) := by
  have hn : (UInt8.ofNat n).toNat = n := toNat_ofNat (by omega)
  have hb : UInt8.ofNat n < 0x80 := by
    rw [UInt8.lt_iff_toNat_lt, hn]
    exact h
  rw [first, if_pos hb, hn]

lemma first_of_begin? {b : UInt8} {s : Begun} (h : begin? b = some s) : first b = .begun s := by
  have hb : ¬ b < 0x80 := by
    intro hb
    rw [begin?, if_pos (UInt8.lt_trans hb (by decide))] at h
    cases h
  rw [first, if_neg hb, h]

lemma begin?_two {n : Nat} (h : 2 ≤ n) (h' : n < 32) :
    begin? (UInt8.ofNat (n + 0xC0)) = some ⟨1, 0x80, 0xBF, n, 1⟩ := by
  interval_cases n <;> rfl

lemma begin?_three {n : Nat} (h : n < 16) :
    begin? (UInt8.ofNat (n + 0xE0)) =
      some ⟨2, if n = 0 then 0xA0 else 0x80, if n = 13 then 0x9F else 0xBF, n, 1⟩ := by
  interval_cases n <;> rfl

lemma begin?_four {n : Nat} (h : n < 5) :
    begin? (UInt8.ofNat (n + 0xF0)) =
      some ⟨3, if n = 0 then 0x90 else 0x80, if n = 4 then 0x8F else 0xBF, n, 1⟩ := by
  interval_cases n <;> rfl

/-- A byte inside the bounds adds its six bits to a character begun. -/
lemma Begun.next_of_bounds {s : Begun} {digit : Nat} (hdigit : digit < 64)
    (hleast : s.least.toNat ≤ digit + 0x80) (hmost : digit + 0x80 ≤ s.most.toNat) :
    s.next (UInt8.ofNat (digit + 0x80)) =
      if s.owed ≤ 1 then .char (Char.ofNat (s.value * 64 + digit))
      else .begun ⟨s.owed - 1, 0x80, 0xBF, s.value * 64 + digit, s.seen + 1⟩ := by
  have hn : (UInt8.ofNat (digit + 0x80)).toNat = digit + 0x80 := toNat_ofNat (by omega)
  have hb : (s.least ≤ UInt8.ofNat (digit + 0x80) && UInt8.ofNat (digit + 0x80) ≤ s.most) =
      true := by
    simp only [UInt8.le_iff_toNat_le, hn, Bool.and_eq_true, decide_eq_true_eq]
    exact ⟨hleast, hmost⟩
  rw [next, if_pos hb, hn, Nat.add_sub_cancel]

lemma Begun.next_digit (owed value seen n : Nat) :
    Begun.next ⟨owed, 0x80, 0xBF, value, seen⟩ (UInt8.ofNat (n % 64 + 0x80)) =
      if owed ≤ 1 then .char (Char.ofNat (value * 64 + n % 64))
      else .begun ⟨owed - 1, 0x80, 0xBF, value * 64 + n % 64, seen + 1⟩ := by
  apply next_of_bounds
  · exact Nat.mod_lt n (by decide)
  · exact Nat.le_add_left ..
  · change n % 64 + 0x80 ≤ 0xBF
    omega

/-- The bounds of the second byte of three leave out what is written shorter, and the surrogates. -/
lemma bounds_three {n : Nat} (h : 0x800 ≤ n) (hs : n < 0xD800 ∨ 0xDFFF < n) :
    (if n / 4096 = 0 then 0xA0 else 0x80 : UInt8).toNat ≤ n / 64 % 64 + 0x80 ∧
      n / 64 % 64 + 0x80 ≤ (if n / 4096 = 13 then 0x9F else 0xBF : UInt8).toNat := by
  constructor
  · split
    · change 0xA0 ≤ n / 64 % 64 + 0x80
      omega
    · exact Nat.le_add_left ..
  · split
    · change n / 64 % 64 + 0x80 ≤ 0x9F
      omega
    · change n / 64 % 64 + 0x80 ≤ 0xBF
      omega

/-- Those of four leave out what is written shorter, and what is past the last character. -/
lemma bounds_four {n : Nat} (h : 0x10000 ≤ n) (h' : n < 0x110000) :
    (if n / 262144 = 0 then 0x90 else 0x80 : UInt8).toNat ≤ n / 4096 % 64 + 0x80 ∧
      n / 4096 % 64 + 0x80 ≤ (if n / 262144 = 4 then 0x8F else 0xBF : UInt8).toNat := by
  constructor
  · split
    · change 0x90 ≤ n / 4096 % 64 + 0x80
      omega
    · exact Nat.le_add_left ..
  · split
    · change n / 4096 % 64 + 0x80 ≤ 0x8F
      omega
    · change n / 4096 % 64 + 0x80 ≤ 0xBF
      omega

/-- Bytes that go on with a character begun, step by step up to its end. -/
inductive Begun.Spells : Begun → List UInt8 → Char → Prop where
  | last {s : Begun} {b : UInt8} {c : Char} (h : s.next b = .char c) : Spells s [b] c
  | more {s t : Begun} {b : UInt8} {bs : List UInt8} {c : Char} (h : s.next b = .begun t)
      (rest : Spells t bs c) : Spells s (b :: bs) c

/-- The steps through the bytes of a character end with that character. -/
lemma utf8EncodeChar_spells (c : Char) :
    (∃ b, String.utf8EncodeChar c = [b] ∧ first b = .char c) ∨
      ∃ b bs s, String.utf8EncodeChar c = b :: bs ∧ first b = .begun s ∧ s.Spells bs c := by
  have hofNat : ∀ n, n = c.toNat → Step.char (Char.ofNat n) = .char c := by
    rintro _ rfl
    rw [Char.ofNat_toNat]
  obtain ⟨h, e⟩ | ⟨h, h', e⟩ | ⟨h, h', hs, e⟩ | ⟨h, h', e⟩ := utf8EncodeChar_cases c
  · left
    exact ⟨_, e, (first_ascii h).trans (hofNat _ rfl)⟩
  · right
    refine ⟨_, _, _, e, first_of_begin? (begin?_two (by omega) (by omega)), .last ?_⟩
    rw [Begun.next_digit, if_pos (Nat.le_refl 1)]
    exact hofNat _ (by omega)
  · right
    obtain ⟨hleast, hmost⟩ := bounds_three h hs
    have hsecond := Begun.next_of_bounds (s := ⟨2, _, _, c.toNat / 4096, 1⟩)
      (Nat.mod_lt _ (by decide)) hleast hmost
    refine ⟨_, _, _, e, first_of_begin? (begin?_three (by omega)),
      .more (hsecond.trans (if_neg (by simp))) (.last ?_)⟩
    rw [Begun.next_digit, if_pos (by simp)]
    exact hofNat _ (by dsimp only; omega)
  · right
    obtain ⟨hleast, hmost⟩ := bounds_four h h'
    have hsecond := Begun.next_of_bounds (s := ⟨3, _, _, c.toNat / 262144, 1⟩)
      (Nat.mod_lt _ (by decide)) hleast hmost
    refine ⟨_, _, _, e, first_of_begin? (begin?_four (by omega)),
      .more (hsecond.trans (if_neg (by simp)))
        (.more ((Begun.next_digit ..).trans (if_neg (by simp))) (.last ?_))⟩
    rw [Begun.next_digit, if_pos (by simp)]
    exact hofNat _ (by dsimp only; omega)

/-! ### Reading up to a fault -/

lemma decodeFrom_spells {s : Begun} {bs : List UInt8} {c : Char} (h : s.Spells bs c)
    (position : Nat) (done : List Char) (rest : List UInt8) :
    decodeFrom position (some s) done (bs ++ rest) =
      decodeFrom (position + bs.length) none (c :: done) rest := by
  induction h generalizing position with
  | last h =>
    simp only [List.singleton_append, decodeFrom, h]
    rfl
  | more h _ ih =>
    simp only [List.cons_append, decodeFrom, h, ih, List.length_cons]
    rw [Nat.add_assoc, Nat.add_comm 1]

/-- The bytes of a character are read as that character. -/
lemma decodeFrom_utf8EncodeChar (position : Nat) (done : List Char) (c : Char)
    (rest : List UInt8) :
    decodeFrom position none done (String.utf8EncodeChar c ++ rest) =
      decodeFrom (position + (String.utf8EncodeChar c).length) none (c :: done) rest := by
  rcases utf8EncodeChar_spells c with ⟨b, e, h⟩ | ⟨b, bs, s, e, h, hspells⟩
  · simp only [e, List.singleton_append, decodeFrom, h]
    rfl
  · simp only [e, List.cons_append, decodeFrom, h, decodeFrom_spells hspells, List.length_cons]
    rw [Nat.add_assoc, Nat.add_comm 1]

lemma decodeFrom_bytes (position : Nat) (done cs : List Char) :
    decodeFrom position none done (bytes cs) = .ok (cs.reverse ++ done) := by
  induction cs generalizing position done with
  | nil => rfl
  | cons c cs ih =>
    rw [bytes_cons, decodeFrom_utf8EncodeChar, ih, List.reverse_cons, List.append_assoc]
    rfl

/-- What is written is read back. -/
theorem decode_bytes (cs : List Char) : decode (bytes cs) = .ok cs.reverse := by
  rw [decode, decodeFrom_bytes, List.append_nil]

/-! ### Reading past faults -/

lemma replaceFrom_spells {s : Begun} {bs : List UInt8} {c : Char} (h : s.Spells bs c)
    (rest : List UInt8) : replaceFrom (some s) (bs ++ rest) = c :: replaceFrom none rest := by
  induction h with
  | last h => simp [replaceFrom, readPast, h, Step.replaced]
  | more h _ ih => simpa [replaceFrom, readPast, h, Step.replaced] using ih

/-- Of a character begun only some further bytes are there: it is read as one replacement
character. -/
lemma replaceFrom_spells_take {s : Begun} {bs : List UInt8} {c : Char} (h : s.Spells bs c) {n : Nat}
    (hn : n < bs.length) : replaceFrom (some s) (bs.take n) = [replacement] := by
  induction h generalizing n with
  | last h =>
    obtain rfl : n = 0 := by simpa using hn
    rfl
  | more h _ ih =>
    cases n with
    | zero => rfl
    | succ n =>
      have := ih (Nat.lt_of_succ_lt_succ hn)
      simpa [replaceFrom, readPast, h, Step.replaced] using this

lemma decodeReplacing_utf8EncodeChar (c : Char) (rest : List UInt8) :
    decodeReplacing (String.utf8EncodeChar c ++ rest) = c :: decodeReplacing rest := by
  rcases utf8EncodeChar_spells c with ⟨b, e, h⟩ | ⟨b, bs, s, e, h, hspells⟩
  · simp [decodeReplacing, e, replaceFrom, readPast, h, Step.replaced]
  · simpa [decodeReplacing, e, replaceFrom, readPast, h, Step.replaced] using
      replaceFrom_spells hspells rest

/-- A character that is cut apart is read as one replacement character. -/
lemma decodeReplacing_take_utf8EncodeChar (c : Char) {n : Nat} (hn : 0 < n)
    (hlt : n < (String.utf8EncodeChar c).length) :
    decodeReplacing ((String.utf8EncodeChar c).take n) = [replacement] := by
  obtain ⟨n, rfl⟩ := Nat.exists_eq_succ_of_ne_zero (Nat.ne_of_gt hn)
  rcases utf8EncodeChar_spells c with ⟨b, e, -⟩ | ⟨b, bs, s, e, h, hspells⟩
  · simp [e] at hlt
  · rw [e] at hlt ⊢
    simpa [decodeReplacing, replaceFrom, readPast, h, Step.replaced] using
      replaceFrom_spells_take hspells (Nat.lt_of_succ_lt_succ hlt)

/-- Bytes without a fault are read the same by both readers. -/
lemma replaceFrom_of_decodeFrom {position : Nat} {begun : Option Begun} {done cs : List Char}
    {bs : List UInt8} (h : decodeFrom position begun done bs = .ok cs) :
    cs = (replaceFrom begun bs).reverse ++ done := by
  induction bs generalizing position begun done with
  | nil =>
    cases begun with
    | none =>
      cases h
      rfl
    | some s => cases h
  | cons b bs ih =>
    cases begun with
    | none =>
      rw [decodeFrom] at h
      split at h
      · next hfirst => simpa [replaceFrom, readPast, hfirst, Step.replaced] using ih h
      · next hfirst => simpa [replaceFrom, readPast, hfirst, Step.replaced] using ih h
      · cases h
    | some s =>
      rw [decodeFrom] at h
      split at h
      · next hnext => simpa [replaceFrom, readPast, hnext, Step.replaced] using ih h
      · next hnext => simpa [replaceFrom, readPast, hnext, Step.replaced] using ih h
      · cases h

/-- What is written is read back without a replacement. -/
theorem decodeReplacing_bytes (cs : List Char) : decodeReplacing (bytes cs) = cs := by
  have h := replaceFrom_of_decodeFrom (decode_bytes cs)
  rw [List.append_nil] at h
  exact (List.reverse_inj.mp h).symm

/-- The first bytes of a character, if there are any, begin one character. -/
lemma countP_take_utf8EncodeChar (c : Char) {n : Nat} (hn : 0 < n) :
    ((String.utf8EncodeChar c).take n).countP (fun b => !isContinuation b) = 1 := by
  obtain ⟨b, bs, e, hb, hbs, -⟩ := utf8EncodeChar_eq_cons c
  obtain ⟨n, rfl⟩ := Nat.exists_eq_succ_of_ne_zero (Nat.ne_of_gt hn)
  have hrest : (bs.take n).countP (fun b => !isContinuation b) = 0 := by
    rw [List.countP_eq_zero]
    intro x hx
    simp [hbs x (List.mem_of_mem_take hx)]
  rw [e, List.take_succ_cons, List.countP_cons_of_pos (by simp [hb]), hrest]

/-- A beginning of the bytes of some characters, which may end inside one of them, is read as many
characters as it has bytes that continue none. -/
lemma length_decodeReplacing_take (cs : List Char) (n : Nat) :
    (decodeReplacing ((bytes cs).take n)).length =
      ((bytes cs).take n).countP fun b => !isContinuation b := by
  induction cs generalizing n with
  | nil => simp [decodeReplacing, replaceFrom]
  | cons c cs ih =>
    rw [bytes_cons]
    by_cases hlt : n < (String.utf8EncodeChar c).length
    · -- the beginning ends inside the first character
      rw [List.take_append_of_le_length (Nat.le_of_lt hlt)]
      cases n with
      | zero => rfl
      | succ n =>
        rw [decodeReplacing_take_utf8EncodeChar c (Nat.succ_pos n) hlt,
          countP_take_utf8EncodeChar c (Nat.succ_pos n)]
        rfl
    · have hall : (String.utf8EncodeChar c).take n = String.utf8EncodeChar c :=
        List.take_of_length_le (Nat.le_of_not_lt hlt)
      have hone := countP_take_utf8EncodeChar c (n := n)
        (Nat.lt_of_lt_of_le (String.length_utf8EncodeChar c ▸ c.utf8Size_pos)
          (Nat.le_of_not_lt hlt))
      rw [hall] at hone
      rw [List.take_append, hall, decodeReplacing_utf8EncodeChar, List.length_cons, ih,
        List.countP_append, hone, Nat.add_comm]

/-! ### How much is read past faults -/

/-- The number of characters that stand begun. -/
def pending (begun : Option Begun) : Nat :=
  begun.toList.length

lemma length_replaced (step : Step) : step.replaced.1.length + pending step.replaced.2 = 1 := by
  cases step <;> rfl

/-- A byte adds at most one to the characters read and begun, and takes none away. -/
lemma length_readPast (begun : Option Begun) (b : UInt8) :
    pending begun ≤ (readPast begun b).1.length + pending (readPast begun b).2 ∧
      (readPast begun b).1.length + pending (readPast begun b).2 ≤ pending begun + 1 := by
  have hfirst := length_replaced (first b)
  cases begun with
  | none =>
    rw [readPast, hfirst]
    exact ⟨Nat.zero_le 1, Nat.le_refl 1⟩
  | some s =>
    have hnext := length_replaced (s.next b)
    simp only [readPast, pending, Option.toList_some, List.length_singleton] at hfirst hnext ⊢
    split
    · simp only [List.length_cons]
      omega
    · omega

lemma length_replaceFrom_nil (begun : Option Begun) :
    (replaceFrom begun []).length = pending begun :=
  List.length_map _

lemma pending_le_length_replaceFrom (begun : Option Begun) (bs : List UInt8) :
    pending begun ≤ (replaceFrom begun bs).length := by
  induction bs generalizing begun with
  | nil => exact Nat.le_of_eq (length_replaceFrom_nil begun).symm
  | cons b bs ih =>
    calc pending begun
        ≤ (readPast begun b).1.length + pending (readPast begun b).2 := (length_readPast begun b).1
      _ ≤ (readPast begun b).1.length + (replaceFrom (readPast begun b).2 bs).length :=
        Nat.add_le_add_left (ih _) _
      _ = (replaceFrom begun (b :: bs)).length := List.length_append.symm

/-- More bytes are read as no fewer characters. -/
lemma length_replaceFrom_append (begun : Option Begun) (bs more : List UInt8) :
    (replaceFrom begun bs).length ≤ (replaceFrom begun (bs ++ more)).length := by
  induction bs generalizing begun with
  | nil =>
    rw [length_replaceFrom_nil]
    exact pending_le_length_replaceFrom begun more
  | cons b bs ih =>
    simp only [List.cons_append, replaceFrom, List.length_append]
    exact Nat.add_le_add_left (ih _) _

lemma length_decodeReplacing_mono {bs more : List UInt8} (h : bs <+: more) :
    (decodeReplacing bs).length ≤ (decodeReplacing more).length := by
  obtain ⟨rest, rfl⟩ := h
  exact length_replaceFrom_append none bs rest

/-- Bytes are read as no more characters than they are. -/
lemma length_replaceFrom_le (begun : Option Begun) (bs : List UInt8) :
    (replaceFrom begun bs).length ≤ bs.length + pending begun := by
  induction bs generalizing begun with
  | nil => simp [length_replaceFrom_nil]
  | cons b bs ih =>
    have hle := (length_readPast begun b).2
    have := ih (readPast begun b).2
    simp only [replaceFrom, List.length_append, List.length_cons]
    omega

lemma length_decodeReplacing_le (bs : List UInt8) : (decodeReplacing bs).length ≤ bs.length :=
  length_replaceFrom_le none bs

/-- ASCII bytes are read as one character each. -/
lemma length_decodeReplacing_of_ascii {bs : List UInt8} (h : bs.all (· < 0x80)) :
    (decodeReplacing bs).length = bs.length := by
  induction bs with
  | nil => rfl
  | cons b bs ih =>
    rw [List.all_cons, Bool.and_eq_true] at h
    have hfirst : first b = .char (Char.ofNat b.toNat) := if_pos (by simpa using h.1)
    have hrest := ih h.2
    rw [decodeReplacing] at hrest ⊢
    simp [replaceFrom, readPast, hfirst, Step.replaced, hrest]

end Outline.Text.Utf8
