import Mathlib.Data.List.Find
import Mathlib.Data.List.Nodup

/-!
# Values by key

Rows of keys with values, in which a value takes the place of the one before it with the same key.
-/

namespace Outline

variable {α β : Type} [DecidableEq α]

lemma mem_of_lookup {entries : List (α × β)} {key : α} {value : β}
    (h : entries.lookup key = some value) : (key, value) ∈ entries := by
  obtain ⟨before, after, rfl, -⟩ := List.lookup_eq_some_iff.mp h
  simp

lemma isSome_lookup {entries : List (α × β)} {entry : α × β} (h : entry ∈ entries) :
    (entries.lookup entry.1).isSome := by
  rw [Option.isSome_iff_ne_none, ne_eq, List.lookup_eq_none_iff]
  intro hnone
  simpa using hnone entry h

/-- What a key has after keys were changed is what the first key has that becomes it. -/
lemma lookup_map_key {γ : Type} (change : γ → α) (entries : List (γ × β)) (key : α) :
    (entries.map fun entry => (change entry.1, entry.2)).lookup key =
      (entries.find? fun entry => change entry.1 = key).map (·.2) := by
  induction entries with
  | nil => rfl
  | cons entry rest ih =>
    rw [List.map_cons, List.lookup_cons, List.find?_cons, ih]
    by_cases h : change entry.1 = key
    · simp [h]
    · simp [h, beq_false_of_ne (Ne.symm h)]

lemma lookup_eq_find? (entries : List (α × β)) (key : α) :
    entries.lookup key = (entries.find? fun entry => entry.1 = key).map (·.2) := by
  simpa using lookup_map_key id entries key

lemma lookup_replace (entries : List (α × β)) (key other : α) (value : β) :
    (entries.map fun entry => if entry.1 = key then (key, value) else entry).lookup other =
      if other = key then (entries.lookup key).map fun _ => value else entries.lookup other := by
  induction entries with
  | nil => simp
  | cons entry rest ih =>
    rw [List.map_cons, List.lookup_cons, List.lookup_cons, List.lookup_cons, ih]
    by_cases hkey : key = entry.1
    · by_cases h : other = key
      · simp [h, ← hkey]
      · simp [h, ← hkey, beq_false_of_ne h]
    · by_cases h : other = key
      · simp [h, Ne.symm hkey, beq_false_of_ne hkey]
      · simp [h, Ne.symm hkey]

/-- A value that takes the place of the one its key has, or else comes to the end, is what its key
has then. -/
lemma lookup_replace_or_add (entries : List (α × β)) (key other : α) (value : β) :
    (if (entries.lookup key).isSome then
        entries.map fun entry => if entry.1 = key then (key, value) else entry
      else entries ++ [(key, value)]).lookup other =
      if other = key then some value else entries.lookup other := by
  split_ifs with hheld h h
  · obtain ⟨old, hold⟩ := Option.isSome_iff_exists.mp hheld
    rw [lookup_replace, if_pos h, hold]
    rfl
  · rw [lookup_replace, if_neg h]
  · rw [Option.not_isSome_iff_eq_none] at hheld
    rw [List.lookup_append, h, hheld]
    simp
  · rw [List.lookup_append, List.lookup_cons, beq_false_of_ne h]
    simp

lemma mem_replace_or_add {entries : List (α × β)} {key : α} {value : β} {entry : α × β}
    (h : entry ∈ if (entries.lookup key).isSome then
        entries.map fun entry => if entry.1 = key then (key, value) else entry
      else entries ++ [(key, value)]) : entry = (key, value) ∨ entry ∈ entries := by
  split_ifs at h
  · obtain ⟨before, hbefore, rfl⟩ := List.mem_map.mp h
    split_ifs
    · exact .inl rfl
    · exact .inr hbefore
  · exact (List.mem_append.mp h).symm.imp_left List.mem_singleton.mp

omit [DecidableEq α] in
lemma mem_foldl {put : List (α × β) → α × β → List (α × β)}
    (hput : ∀ entries added entry, entry ∈ put entries added → entry = added ∨ entry ∈ entries)
    {entries added : List (α × β)} {entry : α × β} (h : entry ∈ added.foldl put entries) :
    entry ∈ added ∨ entry ∈ entries := by
  induction added generalizing entries with
  | nil => exact .inr h
  | cons first rest ih =>
    rcases ih h with hrest | hfirst
    · exact .inl (List.mem_cons_of_mem _ hrest)
    · rcases hput entries first entry hfirst with rfl | hentry
      · exact .inl List.mem_cons_self
      · exact .inr hentry

/-- Of the values with which a key comes in the last counts. -/
lemma lookup_foldl {put : List (α × β) → α × β → List (α × β)}
    (hput : ∀ entries entry key,
      (put entries entry).lookup key = if key = entry.1 then some entry.2 else entries.lookup key)
    (entries added : List (α × β)) (key : α) :
    (added.foldl put entries).lookup key =
      (added.reverse.lookup key).or (entries.lookup key) := by
  induction added generalizing entries with
  | nil => rfl
  | cons entry rest ih =>
    rw [List.foldl_cons, ih, hput, List.reverse_cons, List.lookup_append, Option.or_assoc,
      List.lookup_cons]
    by_cases h : key = entry.1
    · simp [h]
    · simp [h, beq_false_of_ne h]

/-- Where no key stands twice, the order does not count. -/
lemma lookup_reverse {entries : List (α × β)} (h : (entries.map (·.1)).Nodup) (key : α) :
    entries.reverse.lookup key = entries.lookup key := by
  induction entries with
  | nil => rfl
  | cons entry rest ih =>
    rw [List.map_cons, List.nodup_cons] at h
    rw [List.reverse_cons, List.lookup_append, ih h.2, List.lookup_cons, List.lookup_cons]
    by_cases hkey : key = entry.1
    · have hnone : rest.lookup entry.1 = none := by
        rw [List.lookup_eq_none_iff]
        intro other hother
        rw [bne_iff_ne]
        intro heq
        exact h.1 (heq ▸ List.mem_map_of_mem hother)
      simp [hkey, hnone]
    · simp [beq_false_of_ne hkey]

end Outline
