import Traceability.Proofs.Check.SourceFile
import Traceability.Proofs.Text.Lines

/-!
The ends of the lines do not matter to the check of a file.

A check sees a source text in two ways: comments are found in its physical lines, and an issue
shows one of the lines beside it.  The two are split by different rules.  Neither notices
whether a line ends with a line feed alone or with a carriage return before it.
-/

namespace Traceability
namespace FileCheck

theorem ofSource_eq_of_lines {source other : Text}
    (physical : Text.physicalLines source = Text.physicalLines other)
    (shown : Text.shownLines source = Text.shownLines other) (filePath : Text)
    (choice : LanguageChoice) :
    ofSource source filePath choice = ofSource other filePath choice := by
  simp only [ofSource, occurrencesIn, MarkSet.extract, physical, shown]

section

variable {lines : List Text} (noFeed : ∀ line ∈ lines, '\n' ∉ line)
  (noReturn : ∀ line ∈ lines, line.getLast? ≠ some '\r') (filePath : Text)
  (choice : LanguageChoice)

include noFeed noReturn

theorem ofSource_joinLines_eq (lineEnd other : Nat → LineEnd) :
    ofSource (Text.joinLines lineEnd lines) filePath choice =
      ofSource (Text.joinLines other lines) filePath choice := by
  cases lines with
  | nil => rfl
  | cons line others =>
      have nonempty : line :: others ≠ [] := List.cons_ne_nil _ _
      apply ofSource_eq_of_lines
      · rw [Text.physicalLines_joinLines lineEnd nonempty noFeed noReturn,
          Text.physicalLines_joinLines other nonempty noFeed noReturn]
      · rw [Text.shownLines_joinLines lineEnd noFeed noReturn,
          Text.shownLines_joinLines other noFeed noReturn]

/-- Lines that are joined to a text have one check, whichever ends they are joined with. -/
theorem ofSource_joinLines :
    ∃ check, ∀ lineEnd, ofSource (Text.joinLines lineEnd lines) filePath choice = .ok check := by
  let feeds : SourceFile :=
    { path := filePath, source := Text.joinLines (fun _ => .feed) lines }
  refine ⟨feeds.checked choice, ?_⟩
  intro lineEnd
  rw [ofSource_joinLines_eq noFeed noReturn filePath choice lineEnd fun _ => .feed]
  exact feeds.check_eq choice

end

/-- A block over lines of which one has a carriage return inside, and an empty last line. -/
def blockLines : List Text :=
  ["/* REQUIRE: two".toList, " *\rwords */ // SATISFIED: two".toList, []]

theorem ofSource_blockLines :
    (∀ line ∈ blockLines, '\n' ∉ line) ∧
    (∀ line ∈ blockLines, line.getLast? ≠ some '\r') ∧
    ∃ check, ∀ lineEnd,
      ofSource (Text.joinLines lineEnd blockLines) "a.c".toList .auto = .ok check :=
  have noFeed : ∀ line ∈ blockLines, '\n' ∉ line := by decide
  have noReturn : ∀ line ∈ blockLines, line.getLast? ≠ some '\r' := by decide
  ⟨noFeed, noReturn, ofSource_joinLines noFeed noReturn _ _⟩

end FileCheck
end Traceability
