import Outline.Proofs.Lookup
import Outline.Settings.Load

/-!
# What sources supply

A source gives each setting a value or none, and may have values for names that are no settings.
Laid over each other, sources that have none of these supply a setting as the first of them does
that supplies it at all.
-/

namespace Outline.Settings

/-! ### Values by name -/

namespace Source

lemma lookup_put (source : Source) (name other : Text.Name) (value : Supplied) :
    (source.put name value).lookup other =
      if other = name then some value else source.lookup other :=
  lookup_replace_or_add source name other value

/-- Of two sources the stronger decides, and of several values of one name in it the last. -/
lemma lookup_over (strong weak : Source) (name : Text.Name) :
    (strong.over weak).lookup name = (strong.reverse.lookup name).or (weak.lookup name) :=
  lookup_foldl (fun source given other => lookup_put source given.1 other given.2) _ _ _

/-- Whether a source has values for settings only. -/
def Known (source : Source) : Prop :=
  ∀ given ∈ source, given.1 ∈ names.map Text.Name.text

instance (source : Source) : Decidable source.Known :=
  inferInstanceAs (Decidable (∀ given ∈ source, _))

lemma Known.over {strong weak : Source} (hstrong : strong.Known) (hweak : weak.Known) :
    (strong.over weak).Known := by
  intro given hgiven
  rcases mem_foldl (fun _ _ _ => mem_replace_or_add) hgiven with hgiven | hgiven
  · exact hstrong given hgiven
  · exact hweak given hgiven

lemma Known.ofPairs {pairs : List (Text.Name × Supplied)} (h : Source.Known pairs) :
    (Source.ofPairs pairs).Known :=
  h.over fun _ hgiven => absurd hgiven List.not_mem_nil

/-! ### Settings in turn -/

/-- Values for settings in their order. -/
def inTurn (supply : String → Option Supplied) (settings : List String) : Source :=
  settings.filterMap fun setting => (supply setting).map fun value => (.text setting, value)

/-- Whether a source supplies settings so. Names that are no settings may follow them. -/
def Supplies (source : Source) (supply : String → Option Supplied) : Prop :=
  ∃ others : Source, (∀ given ∈ others, given.1 ∉ names.map Text.Name.text) ∧
    source = inTurn supply names ++ others

variable {supply : String → Option Supplied}

lemma inTurn_cons (setting : String) (settings : List String) :
    inTurn supply (setting :: settings) =
      ((supply setting).map fun value => (Text.Name.text setting, value)).toList ++
        inTurn supply settings := by
  rw [inTurn, List.filterMap_cons]
  cases supply setting <;> rfl

lemma sublist_inTurn (settings : List String) :
    ((inTurn supply settings).map (·.1)).Sublist (settings.map Text.Name.text) := by
  induction settings with
  | nil => exact .slnil
  | cons setting settings ih =>
    rw [inTurn_cons]
    cases supply setting with
    | none => exact ih.cons _
    | some value => exact ih.cons_cons _

lemma known_inTurn : (inTurn supply names).Known :=
  fun _ hgiven => (sublist_inTurn names).subset (List.mem_map_of_mem hgiven)

lemma nodup_inTurn : ((inTurn supply names).map (·.1)).Nodup :=
  (sublist_inTurn names).nodup (by decide)

lemma lookup_inTurn (settings : List String) (setting : String) :
    (inTurn supply settings).lookup (.text setting) =
      if setting ∈ settings then supply setting else none := by
  induction settings with
  | nil => rfl
  | cons other settings ih =>
    rw [inTurn_cons, List.lookup_append, ih]
    by_cases hsame : setting = other
    · subst hsame
      cases supply setting <;> simp
    · have hne : Text.Name.text setting ≠ .text other := fun heq => hsame (Text.Name.text.inj heq)
      cases supply other with
      | none => simp [hsame]
      | some value => simp [hsame, List.lookup_cons, beq_false_of_ne hne]

namespace Supplies

variable {source : Source}

lemma suppliedFor_eq (h : source.Supplies supply) {setting : String} (hsetting : setting ∈ names) :
    suppliedFor source setting = supply setting := by
  obtain ⟨others, hothers, rfl⟩ := h
  have hnone : others.lookup (.text setting) = none := by
    rw [List.lookup_eq_none_iff]
    intro given hgiven
    rw [bne_iff_ne]
    intro heq
    exact hothers given hgiven (heq ▸ List.mem_map_of_mem hsetting)
  rw [suppliedFor, List.lookup_append, lookup_inTurn, if_pos hsetting, hnone, Option.or_none]

/-- A source of settings only has each of them once at most. -/
lemma nodup (h : source.Supplies supply) (hknown : source.Known) : (source.map (·.1)).Nodup := by
  obtain ⟨others, hothers, rfl⟩ := h
  have hnone : others = [] := by
    rw [List.eq_nil_iff_forall_not_mem]
    exact fun given hgiven => hothers given hgiven (hknown given (List.mem_append_right _ hgiven))
  rw [hnone, List.append_nil]
  exact nodup_inTurn

end Supplies

end Source

/-! ### Plain words -/

/-- Whether a character is a plain letter or joins words, as in the names of variables. -/
def IsPlainChar (c : Char) : Prop :=
  0x41 ≤ c.toNat ∧ c.toNat ≤ 0x5a ∨ c.toNat = 0x5f ∨ 0x61 ≤ c.toNat ∧ c.toNat ≤ 0x7a

instance (c : Char) : Decidable (IsPlainChar c) :=
  inferInstanceAs (Decidable (_ ∨ _))

/-- Whether each character of a text is such a one. -/
def IsPlain (text : String) : Prop := ∀ c ∈ text.toList, IsPlainChar c

-- By the characters of the text, and not by all there are.
instance (text : String) : Decidable (IsPlain text) :=
  List.decidableBAll IsPlainChar text.toList

/-- The letters of a text, all of them small. -/
def letters (text : String) : List Char := text.toList.map Char.toLower

lemma lowerChar_of_plain {c : Char} (h : IsPlainChar c) (before after : List Char) :
    Text.lowerChar before c after = [c.toLower] := by
  have hcapital : ∀ n < 0x5b, 0x41 ≤ n →
      [Char.ofNat (Text.lowerIn Text.caseRuns n)] = [(Char.ofNat n).toLower] := by decide +kernel
  have hsmall : ∀ n < 0x7b, n = 0x5f ∨ 0x61 ≤ n →
      [Char.ofNat (Text.lowerIn Text.caseRuns n)] = [(Char.ofNat n).toLower] := by decide +kernel
  have hlower : [Char.ofNat (Text.lowerIn Text.caseRuns c.toNat)] = [c.toLower] := by
    rcases h with h | h
    · simpa using hcapital c.toNat (by omega) h.1
    · simpa using hsmall c.toNat (by omega) (by omega)
  unfold IsPlainChar at h
  rw [Text.lowerChar, if_neg (by omega), if_neg (by omega), hlower]

lemma lowerChars_of_plain {cs : List Char} (h : ∀ c ∈ cs, IsPlainChar c) (before : List Char) :
    Text.lowerChars before cs = cs.map Char.toLower := by
  induction cs generalizing before with
  | nil => rfl
  | cons c cs ih =>
    rw [Text.lowerChars, lowerChar_of_plain (h c List.mem_cons_self),
      ih fun d hd => h d (List.mem_cons_of_mem _ hd)]
    rfl

lemma lower_of_plain {text : String} (h : IsPlain text) :
    Text.lower text = String.ofList (letters text) := by
  rw [Text.lower, lowerChars_of_plain h, letters]

/-- Plain words are the same in lower case if they have the same letters. -/
lemma lower_eq_iff {text other : String} (h : IsPlain text) (hother : IsPlain other) :
    Text.lower text = Text.lower other ↔ letters text = letters other := by
  rw [lower_of_plain h, lower_of_plain hother, String.ofList_inj]

lemma lower_of_letters {text : String} (h : IsPlain text) (hletters : letters text = text.toList) :
    Text.lower text = text := by
  rw [lower_of_plain h, hletters, String.ofList_toList]

lemma lower_of_mem_names {setting : String} (h : setting ∈ names) :
    Text.lower setting = setting := by
  have hplain : ∀ setting ∈ names, IsPlain setting ∧ letters setting = setting.toList := by
    decide +kernel
  exact lower_of_letters (hplain setting h).1 (hplain setting h).2

/-! ### Sources one by one -/

lemma isNameOf_iff {setting : String} {name : Text.Name} (h : name ∈ names.map Text.Name.text) :
    isNameOf setting name = true ↔ name = .text setting := by
  obtain ⟨other, hother, rfl⟩ := List.mem_map.mp h
  simp [isNameOf, Text.Name.text?, lower_of_mem_names hother]

/-- Named values supply to a setting the value of the first name that is the setting's. -/
lemma supplies_ofNamed (pairs : List (Text.Name × Supplied)) :
    (ofNamed pairs).Supplies fun setting =>
      ((Source.ofPairs pairs).find? fun pair => isNameOf setting pair.1).map (·.2) := by
  refine ⟨(Source.ofPairs pairs).filter fun pair => !names.any (isNameOf · pair.1), ?_, ?_⟩
  · intro given hgiven hmem
    obtain ⟨setting, hsetting, hname⟩ := List.mem_map.mp hmem
    have hown := (isNameOf_iff hmem).mpr hname.symm
    have hother := (List.mem_filter.mp hgiven).2
    simp only [Bool.not_eq_true', List.any_eq_false] at hother
    exact hother setting hsetting hown
  · simp [ofNamed, Source.inTurn, Function.comp_def]

lemma known_ofNamed {pairs : List (Text.Name × Supplied)} (h : Source.Known pairs) :
    (ofNamed pairs).Known := by
  intro given hgiven
  rcases List.mem_append.mp hgiven with hgiven | hgiven
  · obtain ⟨setting, hsetting, hsome⟩ := List.mem_filterMap.mp hgiven
    obtain ⟨pair, -, rfl⟩ := Option.map_eq_some_iff.mp hsome
    exact List.mem_map_of_mem hsetting
  · exact h.ofPairs given (List.mem_of_mem_filter hgiven)

/-- Where every name is a setting's as it is written, the last value of each is supplied. -/
lemma suppliedFor_ofNamed {pairs : List (Text.Name × Supplied)} (h : Source.Known pairs)
    {setting : String} (hsetting : setting ∈ names) :
    suppliedFor (ofNamed pairs) setting = pairs.reverse.lookup (.text setting) := by
  have hfind : (Source.ofPairs pairs).find? (fun pair => isNameOf setting pair.1) =
      (Source.ofPairs pairs).find? fun pair => pair.1 = .text setting := by
    refine List.find?_congr fun given hgiven => ?_
    rw [Bool.eq_iff_iff, isNameOf_iff (h.ofPairs given hgiven), decide_eq_true_iff]
  rw [(supplies_ofNamed pairs).suppliedFor_eq hsetting, hfind, ← lookup_eq_find?, Source.ofPairs,
    Source.lookup_over]
  simp

/-- The value of the last variable that is a setting's after a lead, in any case of letters. -/
def lastVariable {α : Type} (lead : String) (held : List (String × α)) (setting : String) :
    Option α :=
  (held.reverse.find? fun entry => Text.lower entry.1 = Text.lower (lead ++ setting)).map (·.2)

/-- The last variable that has the letters of a setting's. -/
def lastPlain {α : Type} (lead : String) (held : List (String × α)) (setting : String) : Option α :=
  (held.reverse.find? fun entry => letters entry.1 = letters (lead ++ setting)).map (·.2)

/-- Among plain words, variables are told by their letters. -/
lemma lastVariable_eq_lastPlain {α : Type} {lead : String} {held : List (String × α)}
    {setting : String} (hheld : ∀ entry ∈ held, IsPlain entry.1)
    (hsetting : IsPlain (lead ++ setting)) :
    lastVariable lead held setting = lastPlain lead held setting := by
  unfold lastVariable lastPlain
  congr 1
  refine List.find?_congr fun entry hentry => ?_
  rw [decide_eq_decide]
  exact lower_eq_iff (hheld entry (List.mem_reverse.mp hentry)) hsetting

lemma ofEnvironment_eq (lead : String) (environment : List (String × String)) :
    ofEnvironment { lead } environment =
      Source.inTurn (fun setting => (lastVariable lead environment setting).map .text) names := by
  simp [ofEnvironment, Source.inTurn, lastVariable, VariableRules.keeps, VariableRules.key,
    VariableRules.nameOf, VariableRules.supply, Function.comp_def]

lemma suppliedFor_ofEnvironment (lead : String) (environment : List (String × String))
    {setting : String} (hsetting : setting ∈ names) :
    suppliedFor (ofEnvironment { lead } environment) setting =
      (lastVariable lead environment setting).map .text := by
  rw [suppliedFor, ofEnvironment_eq, Source.lookup_inTurn, if_pos hsetting]

lemma gather_eq (lead : String) (files : List (List Dotenv.Binding)) :
    gather { lead } files =
      (files.flatten.map fun binding => (Text.lower binding.1, binding.2)).foldl putBinding [] := by
  have hkept : files.flatten.filter (fun binding => VariableRules.keeps { lead } binding.2) =
      files.flatten := List.filter_eq_self.mpr fun _ _ => rfl
  rw [gather, hkept, List.foldl_map]
  rfl

/-- Of several bindings that compare as one the last counts. -/
lemma lookup_gather (lead : String) (files : List (List Dotenv.Binding)) (setting : String) :
    (gather { lead } files).lookup (({ lead } : VariableRules).nameOf setting) =
      lastVariable lead files.flatten setting := by
  have hput : ∀ (done : List Dotenv.Binding) binding name, (putBinding done binding).lookup name =
      if name = binding.1 then some binding.2 else done.lookup name :=
    fun done binding name => lookup_replace_or_add done binding.1 name binding.2
  rw [gather_eq, lookup_foldl hput, ← List.map_reverse, lookup_map_key]
  simp [lastVariable, VariableRules.nameOf, VariableRules.key]

lemma mem_gather {lead : String} {files : List (List Dotenv.Binding)} {entry : Dotenv.Binding}
    (h : entry ∈ gather { lead } files) :
    ∃ binding ∈ files.flatten, entry.1 = Text.lower binding.1 := by
  rw [gather_eq] at h
  have hadded := (mem_foldl (fun _ _ _ => mem_replace_or_add) h).resolve_right List.not_mem_nil
  obtain ⟨binding, hbinding, rfl⟩ := List.mem_map.mp hadded
  exact ⟨binding, hbinding, rfl⟩

/-- Variables of files supply settings in turn. A variable that is no setting's follows them, unless
its name is a setting's with a lead missing. -/
lemma ofBindings_eq (lead : String) (files : List (List Dotenv.Binding)) :
    ∃ others : Source,
      ofBindings { lead } files = Source.inTurn (fun setting =>
        (lastVariable lead files.flatten setting).join.map .text) names ++ others ∧
      ∀ given ∈ others, ∃ entry ∈ gather { lead } files, given.1 = .text entry.1 ∧
        (lead ≠ "" → entry.1 ∉ names) ∧
        ∀ setting ∈ names, VariableRules.nameOf { lead } setting ≠ entry.1 := by
  refine ⟨_, congrArg (· ++ _) (List.filterMap_congr fun setting _ => ?_), ?_⟩
  · simp only [← lookup_gather]
    cases (gather { lead } files).lookup (VariableRules.nameOf { lead } setting) with
    | none => rfl
    | some value => cases value <;> rfl
  · intro given hgiven
    obtain ⟨⟨name, value⟩, hentry, hsome⟩ := List.mem_filterMap.mp hgiven
    cases value with
    | none => cases hsome
    | some value =>
      simp only [Option.ite_none_left_eq_some, Option.some.injEq, Bool.or_eq_true,
        Bool.and_eq_true, decide_eq_true_eq, List.contains_iff_mem, List.any_eq_true, not_or,
        not_and, not_exists] at hsome
      obtain ⟨⟨⟨-, hlead⟩, hvariable⟩, rfl⟩ := hsome
      exact ⟨_, hentry, rfl, hlead, hvariable⟩

/-- Where no lead is asked for, a setting's name is that of its variable. -/
lemma nameOf_of_mem {setting : String} (h : setting ∈ names) :
    VariableRules.nameOf { lead := "" } setting = setting := by
  simp [VariableRules.nameOf, VariableRules.key, lower_of_mem_names h]

lemma supplies_ofBindings (lead : String) (files : List (List Dotenv.Binding)) :
    (ofBindings { lead } files).Supplies fun setting =>
      (lastVariable lead files.flatten setting).join.map .text := by
  obtain ⟨others, heq, hothers⟩ := ofBindings_eq lead files
  refine ⟨others, fun given hgiven hmem => ?_, heq⟩
  obtain ⟨entry, -, hname, hlead, hvariable⟩ := hothers given hgiven
  have hsetting : entry.1 ∈ names := by simpa [hname] using hmem
  by_cases hnone : lead = ""
  · subst hnone
    exact hvariable entry.1 hsetting (nameOf_of_mem hsetting)
  · exact hlead hnone hsetting

/-- A file with variables of settings only has values for settings only. -/
lemma known_ofBindings {lead : String} {files : List (List Dotenv.Binding)}
    (h : ∀ binding ∈ files.flatten, ∃ setting ∈ names,
      Text.lower binding.1 = Text.lower (lead ++ setting)) :
    (ofBindings { lead } files).Known := by
  obtain ⟨others, heq, hothers⟩ := ofBindings_eq lead files
  have hnone : others = [] := by
    rw [List.eq_nil_iff_forall_not_mem]
    intro given hgiven
    obtain ⟨entry, hentry, -, -, hvariable⟩ := hothers given hgiven
    obtain ⟨binding, hbinding, hname⟩ := mem_gather hentry
    obtain ⟨setting, hsetting, hlower⟩ := h binding hbinding
    refine hvariable setting hsetting ?_
    rw [hname, hlower]
    rfl
  rw [heq, hnone, List.append_nil]
  exact Source.known_inTurn

/-! ### Sources together -/

/-- The value that decides a setting: that of the first source which supplies it. -/
def deciding (sources : List Source) (setting : String) : Option Supplied :=
  sources.findSome? (suppliedFor · setting)

lemma suppliedFor_merge {sources : List Source}
    (h : ∀ source ∈ sources, (source.map (·.1)).Nodup) (setting : String) :
    suppliedFor (merge sources) setting = deciding sources setting := by
  induction sources with
  | nil => rfl
  | cons source rest ih =>
    have hsource := lookup_reverse (h source List.mem_cons_self) (.text setting)
    have hrest := ih fun other hother => h other (List.mem_cons_of_mem _ hother)
    calc suppliedFor (merge (source :: rest)) setting
      _ = (source.reverse.lookup (.text setting)).or (suppliedFor (merge rest) setting) :=
        source.lookup_over (merge rest) _
      _ = (suppliedFor source setting).or (deciding rest setting) := by
        rw [hsource, hrest, suppliedFor]
      _ = deciding (source :: rest) setting := by
        simp only [deciding, List.findSome?_cons]
        cases suppliedFor source setting <;> rfl

lemma known_merge {sources : List Source} (h : ∀ source ∈ sources, source.Known) :
    (merge sources).Known := by
  induction sources with
  | nil => exact fun _ hgiven => absurd hgiven List.not_mem_nil
  | cons source rest ih =>
    exact (h source List.mem_cons_self).over
      (ih fun other hother => h other (List.mem_cons_of_mem _ hother))

end Outline.Settings
