import Outline.Command.Run
import Outline.Proofs.Context.Report
import Outline.Proofs.Traversal.Range

/-!
# What a run prints

A source is read without carriage returns, by whatever codecs there are. Over a grammar whose trees
lie in the range of their texts, a run that has come to have a parsed source therefore lists and
visits it without an error, and reports it where there is room for the nesting of its contexts. So a
run prints on the standard output all that it should or, when it fails, nothing, with one exception:
the listing is out before it turns out that contexts are nested too deep for a report.
-/

namespace Outline

/-! ### Sources without returns -/

lemma Text.not_mem_unifyBreaks (cs : List Char) : '\r' ∉ Text.unifyBreaks cs := by
  intro h
  obtain ⟨c, -, hc⟩ := List.mem_map.mp h
  split at hc
  · simp at hc
  · next hne => exact hne hc

namespace Files

lemma not_mem_of_readBytes {decode : List UInt8 → Except Text.DecodeError String}
    {bytes : List UInt8} {text : String} (h : readBytes decode bytes = .ok text) :
    '\r' ∉ text.toList := by
  obtain ⟨decoded, -, h⟩ := bind_eq_ok h
  cases h
  rw [String.toList_ofList]
  exact Text.not_mem_unifyBreaks _

lemma not_mem_of_readNamed {codecs : Text.Codecs} {name text : String} {bytes : List UInt8}
    (h : readNamed codecs name bytes = .ok text) : '\r' ∉ text.toList := by
  unfold readNamed at h
  split at h
  · cases h
  · cases h
  · exact not_mem_of_readBytes (mapError_eq_ok h)

/-- A text that was read from a file has no returns. -/
lemma not_mem_of_readText {files : Access} {path text : String} {encoding : Text.Name}
    (h : readText files path encoding = .ok text) : '\r' ∉ text.toList := by
  obtain ⟨name, -, h⟩ := bind_eq_ok h
  split at h
  · cases h
  · dsimp only at h
    split at h
    · cases h
    · cases h
    · cases h
    · cases h
    · exact not_mem_of_readNamed h

end Files

namespace Command

/-! ### Printed texts -/

lemma dropFrom_of_no_escape (form : Text.SequenceForm) {cs : List Char}
    (h : ∀ c ∈ cs, c.toNat ≠ 0x1b) (done : List Char) :
    form.dropFrom 0 done cs = done.reverse ++ cs := by
  induction cs generalizing done with
  | nil => simp [Text.SequenceForm.dropFrom]
  | cons c cs ih =>
    have hlength : form.lengthAt (c :: cs) = 0 := by
      unfold Text.SequenceForm.lengthAt
      split
      · next heq =>
        cases heq
        simp [h c List.mem_cons_self]
      · rfl
    simp [Text.SequenceForm.dropFrom, hlength, ih fun d hd => h d (List.mem_cons_of_mem _ hd)]

/-- A text without escape characters is printed as it is. -/
lemma printed_of_no_escape {text : String} (h : ∀ c ∈ text.toList, c.toNat ≠ 0x1b) :
    printed text = text := by
  rw [printed, Text.SequenceForm.drop, dropFrom_of_no_escape _ h, List.reverse_nil, List.nil_append,
    String.ofList_toList]

lemma endsWith_lineFeed_iff (text : String) :
    text.endsWith "\n" = true ↔ ['\n'] <:+ text.toList := by
  rw [String.endsWith_eq_endsWith_toSlice, String.Slice.endsWith_string_iff, String.copy_toSlice]
  rfl

lemma terminated_of_endsLine {text : String} (h : EndsLine text) : terminated text = text := by
  obtain ⟨before, rfl⟩ := h
  rw [terminated, if_pos]
  rw [endsWith_lineFeed_iff, String.toList_append]
  exact List.suffix_append _ _

/-- A structured report is printed whole, with a line feed after it. -/
lemma printed_terminated_json (tree : ContextTree String) :
    printed (terminated (tree.report .json)) = tree.report .json ++ "\n" := by
  have hends : ¬ (tree.report .json).endsWith "\n" = true := by
    rw [endsWith_lineFeed_iff]
    intro hline
    obtain ⟨before, hbrace⟩ := tree.suffix_report_json
    obtain ⟨before', hline⟩ := hline
    have := congrArg List.getLast? (hbrace.trans hline.symm)
    simp at this
  rw [terminated, if_neg hends]
  apply printed_of_no_escape
  intro c hc
  have hwritten : Json.IsWritten c := by
    rw [String.toList_append] at hc
    rcases List.mem_append.mp hc with hc | hc
    · exact tree.textual_toJson.isWritten_render c hc
    · rw [List.mem_singleton.mp hc]
      exact .inl rfl
  rcases hwritten with rfl | ⟨hlow, -⟩
  · decide
  · omega

/-! ### Outcomes -/

section

variable {world : World} {registry : Registry} {grammar : Grammar} {settings : Settings}

@[simp] lemma stdout_unified (outcome : Outcome) : outcome.unified.stdout = outcome.stdout := rfl

@[simp] lemma exitCode_unified (outcome : Outcome) :
    outcome.unified.exitCode = outcome.exitCode := rfl

@[simp] lemma failure_unified (outcome : Outcome) :
    outcome.unified.failure = outcome.failure := rfl

@[simp] lemma stdout_finish (records : List LogRecord) (outcome : Outcome) :
    (finish world settings records outcome).stdout = outcome.stdout := by
  unfold finish
  dsimp only
  split <;> rfl

@[simp] lemma exitCode_finish (records : List LogRecord) (outcome : Outcome) :
    (finish world settings records outcome).exitCode = outcome.exitCode := by
  unfold finish
  dsimp only
  split <;> rfl

@[simp] lemma failure_finish (records : List LogRecord) (outcome : Outcome) :
    (finish world settings records outcome).failure = outcome.failure := by
  unfold finish
  dsimp only
  split <;> rfl

lemma stdout_of_sourcePath_error {plain : List String} {outcome : Outcome}
    (h : sourcePath world plain = .error outcome) : outcome.stdout = "" := by
  unfold sourcePath at h
  split at h
  · cases h
    rfl
  · split at h
    · cases h
      rfl
    · split at h
      · cases h
        rfl
      · cases h
        rfl
      · cases h
        rfl
      · cases h
        rfl
      · split at h
        · cases h
        · cases h
          rfl

/-! ### Runs with a source -/

/-- Whether a run on arguments gets as far as to have a parsed source: they ask for no help and name
a file, and there are settings under which it is loaded. -/
structure Loads (world : World) (registry : Registry) (grammar : Grammar)
    (arguments : List String) (parsed : Arguments) (path : String) (settings : Settings)
    (tree : SourceTree) : Prop where
  readable    : Arguments.read arguments = .ok parsed
  noHelp      : .help ∉ parsed.options
  fitValues   : checkValues parsed.options = .ok ()
  hasSource   : sourcePath world parsed.plain = .ok path
  hasSettings : Settings.load world.toSurroundings {} (overrides parsed.options) = .ok settings
  hasTree     : loadTree registry grammar world.toAccess settings path = .ok tree

variable {arguments : List String} {parsed : Arguments} {path : String} {tree : SourceTree}

/-- Whether a run on arguments comes to look for settings: they ask for no help and name a file. -/
structure Proceeds (world : World) (arguments : List String) (parsed : Arguments) (path : String) :
    Prop where
  readable  : Arguments.read arguments = .ok parsed
  noHelp    : .help ∉ parsed.options
  fitValues : checkValues parsed.options = .ok ()
  hasSource : sourcePath world parsed.plain = .ok path

/-- Such a run hangs on the settings that its options and its environment make. -/
lemma Proceeds.run_eq (h : Proceeds world arguments parsed path) :
    run world registry grammar arguments =
      (match Settings.load world.toSurroundings {} (overrides parsed.options) with
        | .error error => Outcome.ofFailure (.settings error)
        | .ok settings => summarizeSource world registry grammar settings path).unified := by
  have hhelp : ¬ parsed.options.contains .help = true := by simpa using h.noHelp
  rw [run, h.readable]
  simp only [if_neg hhelp]
  congr 1
  cases hload : Settings.load world.toSurroundings {} (overrides parsed.options) with
  | error error | ok settings =>
    simp only [runArguments, h.fitValues, h.hasSource, hload, mapError_ok, ok_bind]

lemma Loads.proceeds (h : Loads world registry grammar arguments parsed path settings tree) :
    Proceeds world arguments parsed path :=
  ⟨h.readable, h.noHelp, h.fitValues, h.hasSource⟩

/-- A run with a source prints it. -/
lemma Loads.run_eq (h : Loads world registry grammar arguments parsed path settings tree) :
    run world registry grammar arguments = (printSource world settings path tree).unified := by
  rw [h.proceeds.run_eq, h.hasSettings]
  simp only [summarizeSource, h.hasTree]

/-- A run prints nothing, or only the help, or comes to look for settings. -/
lemma run_proceeds (world : World) (registry : Registry) (grammar : Grammar)
    (arguments : List String) :
    (run world registry grammar arguments).stdout = "" ∨
      (run world registry grammar arguments).exitCode = 0 ∨
      ∃ parsed path, Proceeds world arguments parsed path := by
  cases hread : Arguments.read arguments with
  | error error =>
    left
    simp [run, hread, Outcome.ofUsage]
  | ok parsed =>
    by_cases hhelp : .help ∈ parsed.options
    · right
      left
      simp [run, hread, hhelp]
    · cases hvalues : checkValues parsed.options with
      | error error =>
        left
        simp [run, hread, hhelp, runArguments, hvalues, Outcome.ofUsage]
      | ok _ =>
        cases hsource : sourcePath world parsed.plain with
        | error outcome =>
          left
          simp [run, hread, hhelp, runArguments, hvalues, hsource,
            stdout_of_sourcePath_error hsource]
        | ok path =>
          right
          right
          exact ⟨parsed, path, hread, hhelp, hvalues, hsource⟩

/-- A run prints nothing, or only the help, or gets as far as to have a source. -/
lemma run_cases (world : World) (registry : Registry) (grammar : Grammar)
    (arguments : List String) :
    (run world registry grammar arguments).stdout = "" ∨
      (run world registry grammar arguments).exitCode = 0 ∨
      ∃ parsed path settings tree,
        Loads world registry grammar arguments parsed path settings tree := by
  rcases run_proceeds world registry grammar arguments with
    hnothing | hzero | ⟨parsed, path, h⟩
  · exact .inl hnothing
  · exact .inr (.inl hzero)
  · cases hsettings : Settings.load world.toSurroundings {} (overrides parsed.options) with
    | error error =>
      left
      rw [h.run_eq, hsettings]
      rfl
    | ok settings =>
      cases htree : loadTree registry grammar world.toAccess settings path with
      | error error =>
        left
        rw [h.run_eq, hsettings]
        simp only [summarizeSource, htree, stdout_unified, stdout_finish]
        split
        · rfl
        · rfl
      | ok tree =>
        right
        right
        exact ⟨parsed, path, settings, tree, h.readable, h.noHelp, h.fitValues, h.hasSource,
          hsettings, htree⟩

/-- What comes of a source that can be listed, if a listing is asked for, and visited. It hangs on
whether there is room for the report. -/
lemma printSource_cases {listing : String}
    (hlisting : settings.showTree = true → tree.listing "" = .ok listing)
    (hvisit : tree.visit.failure = none) :
    let outcome := printSource world settings path tree
    let listed := if settings.showTree then printed listing else ""
    if world.room.fits settings.output tree.visit.outline then
      outcome.exitCode = 0 ∧
        outcome.stdout = listed ++ printed (terminated (tree.visit.report settings.output))
    else outcome.failure = some (.summary .nesting) ∧ outcome.stdout = listed := by
  have hprinted : printed "" = "" := rfl
  have hlisted : (if settings.showTree then tree.listing "" else .ok "") =
      .ok (if settings.showTree then listing else "") := by
    split
    · next hshow => exact hlisting hshow
    · rfl
  intro outcome listed
  have houtcome : outcome = printReport world settings path tree listed := by
    simp only [outcome, listed, printSource, hlisted, apply_ite printed, hprinted]
  rw [houtcome]
  cases hfits : world.room.fits settings.output tree.visit.outline with
  | false => simp [printReport, hvisit, Visited.render, hfits, Outcome.ofFailure]
  | true => simp [printReport, hvisit, Visited.render, hfits]

/-- The same of a run with a source. -/
lemma Loads.outcome_cases (h : Loads world registry grammar arguments parsed path settings tree)
    {listing : String} (hlisting : settings.showTree = true → tree.listing "" = .ok listing)
    (hvisit : tree.visit.failure = none) :
    let outcome := run world registry grammar arguments
    let listed := if settings.showTree then printed listing else ""
    if world.room.fits settings.output tree.visit.outline then
      outcome.exitCode = 0 ∧
        outcome.stdout = listed ++ printed (terminated (tree.visit.report settings.output))
    else outcome.failure = some (.summary .nesting) ∧ outcome.stdout = listed := by
  intro outcome
  have houtcome : outcome = (printSource world settings path tree).unified := h.run_eq
  rw [houtcome]
  exact printSource_cases hlisting hvisit

/-- A source in the range of a text without returns can be listed and visited. -/
lemma exists_listing_of_range (language : String) {text : String}
    (hrange : (grammar text).EachPoint (Point.InRows (byteRows text)))
    (hreturn : '\r' ∉ text.toList) :
    let tree := SourceTree.parse grammar language text
    ∃ listing, tree.listing "" = .ok listing ∧ tree.visit.failure = none := by
  obtain ⟨listing, hlisting⟩ := hrange.exists_listingIn ""
  exact ⟨listing, hlisting, failure_visit_of_no_return (splitLines text) hreturn hrange⟩

end

/-- A grammar that takes the first row of a text for an import. -/
def firstRowGrammar : Grammar := fun text =>
  let stop : Point := ⟨0, ((byteRows text).getD 0 []).length⟩
  ⟨"program", ⟨0, 0⟩, stop, [⟨"import_declaration", ⟨0, 0⟩, stop, []⟩]⟩

lemma eachPoint_firstRowGrammar (text : String) :
    (firstRowGrammar text).EachPoint (Point.InRows (byteRows text)) := by
  have hsize : 0 < (byteRows text).size := by
    rw [size_byteRows]
    exact List.length_pos_of_ne_nil (cutAt_ne_nil _ _)
  have hstart : Point.InRows (byteRows text) ⟨0, 0⟩ := by
    simp [Point.InRows, hsize]
  have hstop : Point.InRows (byteRows text) ⟨0, ((byteRows text).getD 0 []).length⟩ := by
    simp [Point.InRows, hsize]
  exact ⟨hstart, hstop, ⟨hstart, hstop, trivial⟩, trivial⟩

/-- An import with a control sequence in it. -/
def colouredText : String := "import \x1b[31ma;"

/-- Surroundings in which that text is the only file and there is room for a hundred contexts one in
the other. -/
def colouredWorld : World where
  lookup path := if path = "A.java" then .file (Text.Utf8.encode colouredText) else .missing
  namesIn _   := []
  environment := []
  isAccount _ := false
  stamp       := ""
  hasHandler  := false
  room        := { fits := fun _ tree => tree.depth ≤ 100 }

/-- The source that is loaded from that file. -/
def colouredTree : SourceTree :=
  .parse firstRowGrammar "java" colouredText

lemma loads_coloured {arguments : List String} {options : List GivenOption} {settings : Settings}
    (hread : Arguments.read arguments = .ok ⟨options, ["A.java"]⟩) (hhelp : .help ∉ options)
    (hvalues : checkValues options = .ok ())
    (hsettings : Settings.load colouredWorld.toSurroundings {} (overrides options) = .ok settings)
    (hlanguage : settings.language = none) (hencoding : settings.encoding = .text "utf-8") :
    Loads colouredWorld .bundled firstRowGrammar arguments ⟨options, ["A.java"]⟩ "A.java" settings
      colouredTree where
  readable := hread
  noHelp := hhelp
  fitValues := hvalues
  hasSource := by
    change sourcePath colouredWorld ["A.java"] = .ok "A.java"
    decide +kernel
  hasSettings := hsettings
  hasTree := by
    have hextension : Files.extension "A.java" = ".java" := by decide +kernel
    have hparser : chooseParser .bundled settings "A.java" = .ok .java := by
      rw [chooseParser, hlanguage]
      simp only [Registry.forPath, hextension]
      rfl
    have htext : Files.readText colouredWorld.toAccess "A.java" settings.encoding =
        .ok colouredText := by
      rw [hencoding]
      decide +kernel
    exact loadTree_eq_ok_iff.mpr ⟨.java, colouredText, hparser, htext, rfl⟩

/-- Without room for any report, the listing is out before the run fails. -/
example :
    let cramped : World := { colouredWorld with room := { fits := fun _ _ => false } }
    let outcome := run cramped .bundled firstRowGrammar ["--tree", "A.java"]
    outcome.failure = some (.summary .nesting) ∧
      outcome.stdout = "program [0, 0] - [0, 14]\n  import_declaration [0, 0] - [0, 14]\n" := by
  decide +kernel

end Command

end Outline
