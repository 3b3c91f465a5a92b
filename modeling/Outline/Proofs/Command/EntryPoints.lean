import Outline.Proofs.Command.Output
import Outline.Proofs.Registry.History
import Outline.Proofs.Traversal.OneLine

/-!
# Three ways to a report

A report can be asked for a text, for a file, and on the command line. All three go over the same
parser and the same visit: the report of a file is the one of the text that it holds, by whatever
codec it is read, in the language that is set or that goes with its extension. The command prints
it, after the listing if that is asked for, if it has the room to make it. Where no parser is found,
a file is not even read.
-/

namespace Outline

/-! ### Languages of files -/

/-- Whether a registry is proper and has parsers for languages only. -/
structure Registry.OfLanguages (registry : Registry) : Prop extends registry.Proper where
  known : ∀ entry ∈ registry.entries, ∃ language : Language, entry.1 = .name language.name

/-- Whether the parser for a file is one of a language: of the language that is set or, failing
that, of the first that takes files with the extension of its path. -/
def Resolves (registry : Registry) (settings : Settings) (path : String) (language : Language) :
    Prop :=
  match settings.language with
  | some configured =>
    language = configured ∧ ∃ parser, registry.forLanguage configured.name = .ok parser
  | none => ∃ parser, registry.forPath path = .ok parser ∧
    parser.language = some (.str language.name)

/-- What is wrong where no parser is found for a file. -/
def unresolved (settings : Settings) (path : String) : RegistryError :=
  match settings.language with
  | some configured => .unknownLanguage configured.name
  | none            => .unknownExtension (Files.extension path) path

lemma Json.eq_str_of_key? {value : Json} {name : String} (h : value.key? = some (.name name)) :
    value = .str name := by
  cases value with
  | str text =>
    simp only [key?, Option.some.injEq, Key.name.injEq, Text.Name.text.injEq] at h
    rw [h]
  | real number =>
    cases number <;> simp [key?, Key.ofDouble, Double.ratio?, Key.ofRatio] at h
  | _ => simp [key?] at h

section

variable {registry : Registry} {settings : Settings} {path : String} {language : Language}
  {parser : SourceParser}

namespace Registry.OfLanguages

/-- A parser that is registered under a name is of the language with that name. -/
lemma language_of_mem (h : registry.OfLanguages) {name : String}
    (hmem : (.name name, parser) ∈ registry.entries) : parser.language = some (.str name) := by
  obtain ⟨key, hkey, hentry⟩ := Option.map_eq_some_iff.mp (h.own _ hmem)
  cases hentry
  obtain ⟨value, hvalue, hname⟩ := Option.bind_eq_some_iff.mp hkey
  rw [hvalue, Json.eq_str_of_key? hname]

lemma mem_of_forLanguage (h : registry.OfLanguages) {name : String}
    (hparser : registry.forLanguage name = .ok parser) :
    (.name name, parser) ∈ registry.entries := by
  rw [h.forLanguage_eq] at hparser
  split at hparser
  · next hlookup =>
    cases hparser
    exact mem_of_lookup hlookup
  · cases hparser

/-- A parser for a path is registered under the name of a language, and is the parser for that. -/
lemma exists_of_forPath (h : registry.OfLanguages) (hparser : registry.forPath path = .ok parser) :
    ∃ language : Language, parser.language = some (.str language.name) ∧
      registry.forLanguage language.name = .ok parser := by
  rw [h.forPath_eq] at hparser
  split at hparser
  · next found hfind =>
    cases hparser
    obtain ⟨entry, hentry, rfl⟩ := List.mem_map.mp (List.mem_of_find?_eq_some hfind)
    obtain ⟨language, hlanguage⟩ := h.known entry hentry
    have hlookup := h.lookup_of_mem hentry
    rw [hlanguage] at hlookup
    refine ⟨language, ?_, ?_⟩
    · exact h.language_of_mem (mem_of_lookup hlookup)
    · rw [h.forLanguage_eq, hlookup]
  · cases hparser

end Registry.OfLanguages

/-- The parser that is chosen for a file is the one of the language that the file is in. -/
lemma chooseParser_of_resolves (hregistry : registry.OfLanguages)
    (h : Resolves registry settings path language) :
    ∃ parser, chooseParser registry settings path = .ok parser ∧
      registry.forLanguage language.name = .ok parser ∧ parser.languageName = language.name := by
  unfold Resolves at h
  unfold chooseParser
  cases hset : settings.language with
  | some configured =>
    rw [hset] at h
    obtain ⟨rfl, parser, hparser⟩ := h
    refine ⟨parser, hparser, hparser, ?_⟩
    have := hregistry.language_of_mem (hregistry.mem_of_forLanguage hparser)
    simp [SourceParser.languageName, this, Json.shown]
  | none =>
    rw [hset] at h
    obtain ⟨parser, hparser, hlanguage⟩ := h
    obtain ⟨found, hfound, hfor⟩ := hregistry.exists_of_forPath hparser
    have hname : found.name = language.name :=
      Json.str.inj (Option.some.inj (hfound.symm.trans hlanguage))
    refine ⟨parser, hparser, hname ▸ hfor, ?_⟩
    simp [SourceParser.languageName, hlanguage, Json.shown]

/-- Where a file is in no language, the registry refuses to give a parser. -/
lemma chooseParser_of_unresolved (hregistry : registry.OfLanguages)
    (h : ¬ ∃ language, Resolves registry settings path language) :
    chooseParser registry settings path = .error (unresolved settings path) := by
  unfold Resolves at h
  unfold chooseParser unresolved
  cases hset : settings.language with
  | some configured =>
    rw [hset] at h
    change registry.forLanguage configured.name = _
    rw [hregistry.forLanguage_eq]
    split
    · next parser hlookup =>
      exact absurd ⟨configured, rfl, parser, by rw [hregistry.forLanguage_eq, hlookup]⟩ h
    · rfl
  | none =>
    rw [hset] at h
    change registry.forPath path = _
    rw [hregistry.forPath_eq]
    split
    · next parser hfind =>
      have hparser : registry.forPath path = .ok parser := by rw [hregistry.forPath_eq, hfind]
      obtain ⟨language, hlanguage, -⟩ := hregistry.exists_of_forPath hparser
      exact absurd ⟨language, parser, hparser, hlanguage⟩ h
    · rfl

end

/-! ### Reports of files -/

/-- Whether the bytes of the file at a path are a text in the encoding with a name, by whatever
codec goes by that name. -/
def Files.Decodes (files : Files.Access) (path : String) (encoding : Text.Name)
    (decoded : String) : Prop :=
  ∃ name decode bytes, encoding = .text name ∧ hasNull name = false ∧
    files.codecs name = some (.text decode) ∧ hasNull path = false ∧
    files.lookup (plain path) = .file bytes ∧ decode bytes = .ok decoded

lemma Files.Decodes.readText_eq {files : Files.Access} {path decoded : String}
    {encoding : Text.Name} (h : Files.Decodes files path encoding decoded) :
    Files.readText files path encoding =
      .ok (String.ofList (Text.unifyBreaks decoded.toList)) := by
  obtain ⟨name, decode, bytes, rfl, hname, hcodec, hpath, hfile, hdecode⟩ := h
  simp [readText, encodingText, hname, hpath, hfile, readNamed, hcodec, readBytes, hdecode,
    pure, Except.pure]

section

variable {room : Room String} {registry : Registry} {grammar : Grammar} {files : Files.Access}
  {settings : Settings} {path text : String} {language : Language} {parser : SourceParser}

/-- The summary of a file holds the report of its text, or fails as that does. -/
lemma summarizeFile_eq_summarize (hparser : chooseParser registry settings path = .ok parser)
    (hlanguage : registry.forLanguage language.name = .ok parser)
    (hname : parser.languageName = language.name)
    (htext : Files.readText files path settings.encoding = .ok text) :
    (summarizeFile room registry grammar files settings path).map (·.1) =
      (summarize room registry grammar text language settings.output).map fun content =>
        ⟨path, language.name, settings.output, content⟩ := by
  have hload : loadTree registry grammar files settings path =
      .ok (.parse grammar language.name text) :=
    loadTree_eq_ok_iff.mpr ⟨parser, text, hparser, htext, by rw [hname]⟩
  have hvisit : (SourceTree.parse grammar language.name text).visit =
      buildContext (splitLines text) (.ofText text) (grammar text) := rfl
  rw [summarizeFile_eq hload, summarize_eq hlanguage, hvisit]
  dsimp only
  cases (buildContext (splitLines text) (.ofText text) (grammar text)).failure with
  | some error => rfl
  | none =>
    dsimp only
    cases (buildContext (splitLines text) (.ofText text) (grammar text)).render room
      settings.output with
    | ok content => rfl
    | error error => rfl

lemma summarizeFile_of_resolves (room : Room String) (grammar : Grammar)
    (hregistry : registry.OfLanguages)
    (hresolves : Resolves registry settings path language)
    (htext : Files.readText files path settings.encoding = .ok text) :
    (summarizeFile room registry grammar files settings path).map (·.1) =
      (summarize room registry grammar text language settings.output).map fun content =>
        ⟨path, language.name, settings.output, content⟩ := by
  obtain ⟨parser, hparser, hlanguage, hname⟩ := chooseParser_of_resolves hregistry hresolves
  exact summarizeFile_eq_summarize hparser hlanguage hname htext

/-- A summary is of a source that was loaded and visited, and holds its report. -/
lemma exists_tree_of_summarizeFile {summary : FileSummary} {records : List LogRecord}
    (h : summarizeFile room registry grammar files settings path = .ok (summary, records)) :
    ∃ tree, loadTree registry grammar files settings path = .ok tree ∧
      tree.visit.failure = none ∧ summary.content = tree.visit.report settings.output := by
  obtain ⟨tree, htree, -⟩ := bind_eq_ok h
  rw [summarizeFile_eq htree] at h
  split at h
  · cases h
  · next hvisit =>
    obtain ⟨content, hrender, hsummary⟩ := map_eq_ok h
    cases hsummary
    exact ⟨tree, htree, hvisit, (Visited.render_eq_ok_iff.mp hrender).2.symm⟩

/-- A file for which no parser is found is not summarised, whatever it holds. -/
lemma summarizeFile_of_unresolved {error : RegistryError}
    (hparser : chooseParser registry settings path = .error error) :
    summarizeFile room registry grammar files settings path = .error (.parser error) := by
  rw [summarizeFile, loadTree_of_choose_error hparser, error_bind]

lemma exists_resolves_of_summarizeFile (hregistry : registry.OfLanguages) {summary : FileSummary}
    {records : List LogRecord}
    (h : summarizeFile room registry grammar files settings path = .ok (summary, records)) :
    ∃ language, Resolves registry settings path language := by
  by_contra hnone
  rw [summarizeFile_of_unresolved (chooseParser_of_unresolved hregistry hnone)] at h
  cases h

/-- What a summary holds is the report of the text. -/
lemma summarize_of_summarizeFile (hregistry : registry.OfLanguages)
    (hresolves : Resolves registry settings path language)
    (htext : Files.readText files path settings.encoding = .ok text) {summary : FileSummary}
    {records : List LogRecord}
    (h : summarizeFile room registry grammar files settings path = .ok (summary, records)) :
    summarize room registry grammar text language settings.output = .ok summary.content := by
  have hsame := summarizeFile_of_resolves room grammar hregistry hresolves htext
  rw [h] at hsame
  cases hsummarize : summarize room registry grammar text language settings.output with
  | error error =>
    rw [hsummarize] at hsame
    cases hsame
  | ok content =>
    rw [hsummarize] at hsame
    cases hsame
    rfl

/-- A text with a report in the language of its file gives the file a summary. -/
lemma exists_summarizeFile (hregistry : registry.OfLanguages)
    (hresolves : Resolves registry settings path language)
    (htext : Files.readText files path settings.encoding = .ok text) {content : String}
    (h : summarize room registry grammar text language settings.output = .ok content) :
    ∃ summary records,
      summarizeFile room registry grammar files settings path = .ok (summary, records) := by
  have hsame := summarizeFile_of_resolves room grammar hregistry hresolves htext
  rw [h] at hsame
  cases hresult : summarizeFile room registry grammar files settings path with
  | error error =>
    rw [hresult] at hsame
    cases hsame
  | ok result => exact ⟨result.1, result.2, rfl⟩

/-- A tree whose rows are not below zero has a listing. -/
lemma exists_listing_of_rows (h : (grammar text).EachPoint fun point => 0 ≤ point.row) :
    ∃ listing, (grammar text).listingIn (.ofText text) "" = .ok listing := by
  refine Node.EachPoint.exists_listingIn_of_places (h.imp ?_) ""
  intro point hpoint
  by_cases hpast : ((byteRows text).size : Int) ≤ point.row
  · exact ⟨point, if_pos hpast⟩
  · have hlow : ¬ point.row < -(Nat.pow 2 63 : Int) := by omega
    have hsign : ¬ point.row < 0 := by omega
    refine ⟨{ point with
      column := charColumn ((byteRows text).getD point.row.toNat []) point.column }, ?_⟩
    simp only [SourceView.ofText, charPoint, if_neg hpast, byteRow, if_neg hlow, if_neg hsign]
    rfl

end

namespace Command

variable {world : World} {registry : Registry} {grammar : Grammar} {arguments : List String}
  {parsed : Arguments} {path : String} {settings : Settings}

/-- Whether a run on arguments comes to summarise a file under settings. -/
structure Starts (world : World) (arguments : List String) (parsed : Arguments) (path : String)
    (settings : Settings) : Prop extends Proceeds world arguments parsed path where
  hasSettings : Settings.load world.toSurroundings {} (overrides parsed.options) = .ok settings

lemma Starts.run_eq (h : Starts world arguments parsed path settings) :
    run world registry grammar arguments =
      (summarizeSource world registry grammar settings path).unified := by
  rw [h.toProceeds.run_eq, h.hasSettings]

/-- A run that finds no parser ends over its usage, with the words of the registry. -/
lemma Starts.run_of_unresolved (h : Starts world arguments parsed path settings)
    {error : RegistryError} (hparser : chooseParser registry settings path = .error error)
    (husage : isUsage (.parser error) = true) :
    (run world registry grammar arguments).exitCode = 2 ∧
      (run world registry grammar arguments).stdout = "" ∧
      (run world registry grammar arguments).stderr =
        (Outcome.ofUsage (.problem error.message)).unified.stderr := by
  have hload : loadTree registry grammar world.toAccess settings path = .error (.parser error) :=
    loadTree_of_choose_error hparser
  rw [h.run_eq]
  simp only [summarizeSource, hload, if_pos husage]
  refine ⟨by simp [Outcome.ofUsage], by simp [Outcome.ofUsage], ?_⟩
  unfold finish
  cases world.hasHandler
  · simp [SummaryError.message, Outcome.unified]
  · simp [SummaryError.message, Outcome.unified]

/-- A run on a file that has a summary prints what the summary holds, if it has room for the
report. -/
lemma Starts.run_of_summarizeFile (h : Starts world arguments parsed path settings)
    (hregistry : registry.OfLanguages) {text listing : String}
    (htext : Files.readText world.toAccess path settings.encoding = .ok text)
    (hlisting : settings.showTree = true →
      (grammar text).listingIn (.ofText text) "" = .ok listing)
    (hfits : world.room.fits settings.output
      (buildContext (splitLines text) (.ofText text) (grammar text)).outline = true)
    {room : Room String} {summary : FileSummary} {records : List LogRecord}
    (hsummary : summarizeFile room registry grammar world.toAccess settings path =
      .ok (summary, records)) :
    (run world registry grammar arguments).exitCode = 0 ∧
      (run world registry grammar arguments).stdout =
        (if settings.showTree then printed listing else "") ++
          printed (terminated summary.content) := by
  obtain ⟨language, hresolves⟩ := exists_resolves_of_summarizeFile hregistry hsummary
  obtain ⟨parser, hparser, -, -⟩ := chooseParser_of_resolves hregistry hresolves
  obtain ⟨tree, htree, hvisit, hreport⟩ := exists_tree_of_summarizeFile hsummary
  have hparsed : tree = .parse grammar parser.languageName text :=
    Except.ok.inj (htree.symm.trans
      (loadTree_eq_ok_iff.mpr ⟨parser, text, hparser, htext, rfl⟩))
  have hlisted : settings.showTree = true → tree.listing "" = .ok listing := by
    rw [hparsed]
    exact hlisting
  have hloads : Loads world registry grammar arguments parsed path settings tree :=
    { h with hasTree := htree }
  have hroom : world.room.fits settings.output tree.visit.outline = true := by
    rw [hparsed]
    exact hfits
  have hcases := hloads.outcome_cases hlisted hvisit
  dsimp only at hcases
  rw [if_pos hroom, ← hreport] at hcases
  exact hcases

/-- For a file whose bytes decode, by whatever codec, there is a summary just in case it is in a
language and the text, with its breaks made line feeds, has a report in that language. The summary
then holds that report, and a run under the same settings that has room for the nesting of its
contexts prints the listing, if it is asked for, and the report with a line feed at its end, both
without control sequences. The listing is there for every tree whose rows are not below zero. A file
that is in no language is refused with the error of the registry, whatever it holds, and a run tells
that error as one of usage. -/
theorem entry_points_agree (registry : Registry) (hregistry : registry.OfLanguages)
    (grammar : Grammar) (settings : Settings) (path : String) :
    (∀ (room : Room String) (world : World) (decoded : String),
      Files.Decodes world.toAccess path settings.encoding decoded →
      let text := String.ofList (Text.unifyBreaks decoded.toList)
      ((∃ summary records, summarizeFile room registry grammar world.toAccess settings path =
          .ok (summary, records)) ↔
        ∃ language, Resolves registry settings path language ∧
          ∃ content, summarize room registry grammar text language settings.output = .ok content) ∧
      ∀ summary records,
        summarizeFile room registry grammar world.toAccess settings path =
          .ok (summary, records) →
        (∀ language, Resolves registry settings path language →
          summarize room registry grammar text language settings.output = .ok summary.content) ∧
        ∀ arguments parsed listing, Starts world arguments parsed path settings →
          world.room.fits settings.output
            (buildContext (splitLines text) (.ofText text) (grammar text)).outline = true →
          (settings.showTree = true →
            (grammar text).listingIn (.ofText text) "" = .ok listing) →
          (run world registry grammar arguments).exitCode = 0 ∧
          (run world registry grammar arguments).stdout =
            (if settings.showTree then printed listing else "") ++
              printed (terminated summary.content)) ∧
    (∀ text, ((grammar text).EachPoint fun point => 0 ≤ point.row) →
      ∃ listing, (grammar text).listingIn (.ofText text) "" = .ok listing) ∧
    ((¬ ∃ language, Resolves registry settings path language) →
      (∀ room files, summarizeFile room registry grammar files settings path =
        .error (.parser (unresolved settings path))) ∧
      ∀ world arguments parsed, Starts world arguments parsed path settings →
        (run world registry grammar arguments).exitCode = 2 ∧
        (run world registry grammar arguments).stdout = "" ∧
        (run world registry grammar arguments).stderr =
          (Outcome.ofUsage (.problem (unresolved settings path).message)).unified.stderr) := by
  refine ⟨?_, fun text => exists_listing_of_rows, ?_⟩
  · intro room world decoded hdecodes text
    have htext : Files.readText world.toAccess path settings.encoding = .ok text :=
      hdecodes.readText_eq
    refine ⟨⟨?_, ?_⟩, ?_⟩
    · rintro ⟨summary, records, h⟩
      obtain ⟨language, hresolves⟩ := exists_resolves_of_summarizeFile hregistry h
      exact ⟨language, hresolves, _, summarize_of_summarizeFile hregistry hresolves htext h⟩
    · rintro ⟨language, hresolves, content, h⟩
      exact exists_summarizeFile hregistry hresolves htext h
    · intro summary records h
      refine ⟨fun language hresolves => summarize_of_summarizeFile hregistry hresolves htext h, ?_⟩
      intro arguments parsed listing hstarts hfits hlisting
      exact hstarts.run_of_summarizeFile hregistry htext hlisting hfits h
  · intro hnone
    have hparser := chooseParser_of_unresolved hregistry hnone
    have husage : isUsage (.parser (unresolved settings path)) = true := by
      unfold unresolved
      split
      · rfl
      · rfl
    exact ⟨fun room files => summarizeFile_of_unresolved hparser,
      fun world arguments parsed hstarts => hstarts.run_of_unresolved hparser husage⟩

lemma ofLanguages_bundled : Registry.bundled.OfLanguages where
  toProper := Registry.proper_bundled
  known := by
    intro entry hentry
    rw [List.mem_singleton.mp hentry]
    exact ⟨.java, rfl⟩

lemma decodes_coloured : Files.Decodes colouredWorld.toAccess "A.java" "utf-8" colouredText := by
  have hnamed : Text.Encoding.named? "utf-8" = some (some .utf8) := by decide +kernel
  have hcodec : Text.Codecs.bundled "utf-8" = some (.text Text.Encoding.utf8.decode) := by
    rw [Text.Codecs.bundled, hnamed]
    rfl
  exact ⟨"utf-8", Text.Encoding.utf8.decode, Text.Utf8.encode colouredText, rfl, by decide +kernel,
    hcodec, by decide +kernel, by decide +kernel, by decide +kernel⟩

lemma starts_coloured : Starts colouredWorld ["A.java"] ⟨[], ["A.java"]⟩ "A.java" {} where
  readable := by decide +kernel
  noHelp := by decide
  fitValues := rfl
  hasSource := by
    change sourcePath colouredWorld ["A.java"] = .ok "A.java"
    decide +kernel
  hasSettings := by decide +kernel

/-- The summary of the file with a control sequence in it. -/
lemma summarizeFile_coloured :
    summarizeFile {} .bundled firstRowGrammar colouredWorld.toAccess {} "A.java" =
      .ok (⟨"A.java", "java", .text, "File\n  import \x1b[31ma;\n"⟩,
        [.treeBuilt "A.java" "java" 1 1]) := by
  decide +kernel

/-- A run on that file prints the report that is in the summary and that its text has, without the
control sequence. A file of another extension is refused unread. -/
theorem entry_points_agree_coloured :
    Registry.bundled.OfLanguages ∧
      summarize {} .bundled firstRowGrammar colouredText .java .text =
        .ok "File\n  import \x1b[31ma;\n" ∧
      (run colouredWorld .bundled firstRowGrammar ["A.java"]).stdout =
        printed "File\n  import \x1b[31ma;\n" ∧
      ∀ room files, summarizeFile room .bundled firstRowGrammar files {} "A.txt" =
        .error (.parser (.unknownExtension ".txt" "A.txt")) := by
  have htext : String.ofList (Text.unifyBreaks colouredText.toList) = colouredText := by
    decide +kernel
  have hjava : Files.extension "A.java" = ".java" := by decide +kernel
  have htxt : Files.extension "A.txt" = ".txt" := by decide +kernel
  have hresolves : Resolves .bundled {} "A.java" .java := by
    refine ⟨.java, ?_, rfl⟩
    simp only [Registry.forPath, hjava]
    rfl
  have hnone : ¬ ∃ language, Resolves .bundled {} "A.txt" language := by
    rintro ⟨language, parser, hparser, -⟩
    simp only [Registry.forPath, htxt] at hparser
    cases hparser
  obtain ⟨hfile, -, -⟩ :=
    entry_points_agree .bundled ofLanguages_bundled firstRowGrammar {} "A.java"
  obtain ⟨-, -, hrefused⟩ :=
    entry_points_agree .bundled ofLanguages_bundled firstRowGrammar {} "A.txt"
  obtain ⟨hcontent, hprinted⟩ :=
    (hfile {} colouredWorld colouredText decodes_coloured).2 _ _ summarizeFile_coloured
  refine ⟨ofLanguages_bundled, ?_, ?_, ?_⟩
  · rw [htext] at hcontent
    exact hcontent .java hresolves
  · obtain ⟨-, hstdout⟩ := hprinted _ _ "" starts_coloured (by decide +kernel) (by decide)
    rw [hstdout]
    decide +kernel
  · intro room files
    rw [(hrefused hnone).1 room files, unresolved, htxt]

/-- What is printed of that file is not all that its summary holds. -/
theorem run_prints_less_than_summary :
    Files.Decodes colouredWorld.toAccess "A.java" "utf-8" colouredText ∧
      Starts colouredWorld ["A.java"] ⟨[], ["A.java"]⟩ "A.java" {} ∧
      ∃ summary records,
        summarizeFile {} .bundled firstRowGrammar colouredWorld.toAccess {} "A.java" =
          .ok (summary, records) ∧
        (run colouredWorld .bundled firstRowGrammar ["A.java"]).stdout ≠
          terminated summary.content := by
  refine ⟨decodes_coloured, starts_coloured, _, _, summarizeFile_coloured, ?_⟩
  decide +kernel

end Command

end Outline
