import Outline.Proofs.Outcomes
import Outline.Summary

/-!
# Making summaries

What each step from a file to its report comes to, given what the steps before it came to.
-/

namespace Outline

variable {room : Room String} {registry : Registry} {grammar : Grammar} {files : Files.Access}
  {settings : Settings} {path text : String} {language : Language} {output : OutputFormat}
  {parser : SourceParser} {tree : SourceTree}

lemma Visited.render_eq_ok_iff {visited : Visited} {content : String} :
    visited.render room output = .ok content ↔
      room.fits output visited.outline = true ∧ visited.report output = content := by
  unfold render
  split
  · next hfits => simp [hfits]
  · next hfits => simp [hfits]

/-- A source is loaded where a parser is found and then the file is read. -/
lemma loadTree_eq_ok_iff :
    loadTree registry grammar files settings path = .ok tree ↔
      ∃ parser text, chooseParser registry settings path = .ok parser ∧
        Files.readText files path settings.encoding = .ok text ∧
        .parse grammar parser.languageName text = tree := by
  constructor
  · intro h
    obtain ⟨parser, hparser, h⟩ := bind_eq_ok h
    obtain ⟨text, htext, h⟩ := bind_eq_ok h
    exact ⟨parser, text, mapError_eq_ok hparser, mapError_eq_ok htext, Except.ok.inj h⟩
  · rintro ⟨parser, text, hparser, htext, rfl⟩
    rw [loadTree, hparser, htext]
    rfl

/-- Where no parser is found, no file is read. -/
lemma loadTree_of_choose_error {error : RegistryError}
    (h : chooseParser registry settings path = .error error) :
    loadTree registry grammar files settings path = .error (.parser error) := by
  rw [loadTree, h]
  rfl

/-- What comes of a source that was loaded hangs on its visit, and then on the room. -/
lemma summarizeFile_eq (h : loadTree registry grammar files settings path = .ok tree) :
    summarizeFile room registry grammar files settings path =
      match tree.visit.failure with
      | some error => .error (.visit error)
      | none       =>
        (tree.visit.render room settings.output).map fun content =>
          (⟨path, tree.language, settings.output, content⟩,
            tree.visit.log ++ [.treeBuilt path tree.language tree.lines.size
              (tree.visit.progress.store.walk fileId).length]) := by
  rw [summarizeFile, h, ok_bind]
  dsimp only
  cases tree.visit.failure with
  | some error => rfl
  | none => rfl

/-- What comes of a text for which there is a parser hangs on the same. -/
lemma summarize_eq (h : registry.forLanguage language.name = .ok parser) :
    summarize room registry grammar text language output =
      let visited := buildContext (splitLines text) (.ofText text) (grammar text)
      match visited.failure with
      | some error => .error (.visit error)
      | none       => visited.render room output := by
  rw [summarize, h, mapError_ok, ok_bind]
  rfl

end Outline
