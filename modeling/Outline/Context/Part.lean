import Outline.Json.Literal

/-!
# Parts of contexts

Headings, imports and records are made of parts. In the summary of a source they are texts; handed
in from outside they may be any JSON values, and those of records any strings.
-/

namespace Outline

/-- A type of parts that reports can show. -/
class Part (α : Type) where
  /-- A text as a part. -/
  ofText : String → α
  /-- A part on a line of a report. -/
  shown : α → String
  /-- A part as a JSON value. -/
  toJson : α → Json

instance : Part String := ⟨id, id, .str⟩

instance : Part Json := ⟨.str, Json.shown, id⟩

@[simp] theorem shown_string (s : String) : Part.shown s = s := rfl

@[simp] theorem toJson_string (s : String) : Part.toJson s = .str s := rfl

end Outline
