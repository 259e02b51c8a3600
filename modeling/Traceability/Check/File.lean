import Traceability.Tag.Parsing
import Traceability.Comment.Extraction
import Traceability.Issue.Pairing
import Traceability.Language.Marks
import Traceability.Path

/-!
The check of one file, and the check of all files together.
-/

namespace Traceability

/-- The language of a file: the selected one, or the one of its extension, or all
languages together where the extension is unknown. -/
def LanguageChoice.resolve (choice : LanguageChoice) (path : Text) : Language :=
  match choice with
  | .auto => ((Path.extension? path).bind Language.ofExtension?).getD .any
  | .explicit language => language

structure FileCheck where
  filePath : Text
  language : Language
  issues : List Issue
  localScope : Scope
  sharedScope : SharedScope
  unterminated : Option UnclosedBlock

namespace FileCheck

def counts (check : FileCheck) : TagCounts :=
  .ofScopes check.localScope check.sharedScope

end FileCheck

def Occurrence.ofTag (filePath : Text) (lines : List Text) (tag : Tag) :
    Except Fault Occurrence := do
  let index ← Fault.predecessor tag.startLine
  return { filePath, tag, sourceLine := lines[index]?.getD [] }

/-- The tags of a source text in the order in which their comments end, and the
block that is open at its end. -/
def occurrencesIn (marks : MarkSet) (filePath source : Text) :
    Except Fault (List Occurrence × Option UnclosedBlock) := do
  let extraction ← marks.extract source
  let tags ← tagsOfAll extraction.comments
  let occurrences ← tags.mapM (Occurrence.ofTag filePath (Text.shownLines source))
  return (occurrences, extraction.unterminated)

def FileCheck.ofSource (source filePath : Text) (choice : LanguageChoice) :
    Except Fault FileCheck := do
  let language := choice.resolve filePath
  let (occurrences, unterminated) ← occurrencesIn language.marks filePath source
  let pairing := FilePairing.ofOccurrences occurrences
  return { filePath, language, issues := pairing.issues,
           localScope := pairing.localScope,
           sharedScope := pairing.sharedScope, unterminated }

def ProjectPairing.ofChecks (checks : List FileCheck) : ProjectPairing :=
  ProjectPairing.ofScopes (checks.map fun check => (check.filePath, check.sharedScope))

end Traceability
