import Traceability.Config.Discovery
import Traceability.Proofs.FileTree.Listing
import Traceability.Proofs.Json.RoundTrip

/-!
The standard configuration as it is written, and where it is found.

What is written reads back as the standard configuration, which is also used where there is
none.  So writing it into a directory that has none changes where the configuration
comes from, and nothing else.
-/

namespace Traceability
namespace Config

/-! ### Writing and reading -/

private theorem textual_ofTexts (texts : List Text) : (Json.ofTexts texts).Textual := by
  constructor
  intro element member
  obtain ⟨text, _, rfl⟩ := List.mem_map.mp member
  exact .string text

theorem textual_toJson (config : Config) : config.toJson.Textual := by
  constructor
  · intro member inMembers
    obtain ⟨written, _, rfl⟩ := List.mem_map.mp inMembers
    rfl
  · simp only [List.map_cons, List.map_nil, List.forall_mem_cons]
    exact ⟨textual_ofTexts _, textual_ofTexts _, .string _, nofun⟩

theorem textsOf?_ofTexts (texts : List Text) : textsOf? (Json.ofTexts texts) = some texts := by
  change (texts.map Json.ofText).mapM Json.text? = some texts
  induction texts with
  | nil => rfl
  | cons text others ih =>
      rw [List.map_cons, List.mapM_cons, ih]
      rfl

theorem ofJson?_toJson (config : Config) : ofJson? config.toJson = some config := by
  have read : ofJson? config.toJson =
      (textsOf? (Json.ofTexts config.includes)).bind fun includes =>
        (textsOf? (Json.ofTexts config.ignores)).bind fun ignores =>
          some { includes, ignores, lang := config.lang } := rfl
  rw [read, textsOf?_ofTexts, textsOf?_ofTexts]
  rfl

/-- Every configuration that is written reads back. -/
theorem parse?_pretty (config : Config) : parse? config.toJson.pretty = some config := by
  rw [parse?, Json.parse?_pretty config.textual_toJson, Option.bind_some, ofJson?_toJson]

/-! ### The standard configuration -/

theorem isName_fileName : Path.IsName fileName := by
  decide

theorem refusal?_fileName : FileTree.refusal? fileName = none := by
  decide

theorem parse?_standardText : parse? standardText = some standard :=
  parse?_pretty standard

theorem validate_standard : standard.validate = .ok .auto := by
  rfl

/-- The path at which a check of the working directory finds the configuration. -/
def pathHere : Text :=
  Path.join ['.'] fileName

theorem chooses_fileName : FileSelection.chooses (FileFilter.ofPatterns standard.includes)
    (FileFilter.ofPatterns standard.ignores) fileName := by
  rfl

theorem refusal?_pathHere : FileTree.refusal? pathHere = none := by
  decide

/-! ### Where it is found -/

open FileEntry (Entries file)

theorem ancestors_here : Path.ancestors ['.'] = [['.'], []] := by
  have above : Path.parent? ['.'] = some [] := rfl
  have last : Path.parent? [] = none := rfl
  rw [Path.ancestors_of_parent above, Path.ancestors_of_no_parent last]

def configured (entries : Entries) : Entries :=
  entries ++ [(fileName, file (.text standardText))]

variable {tree : FileTree} {entries : Entries}

theorem find?_here_of_absent (inside : tree.HasCurrent entries)
    (absent : entries.lookup fileName = none) : find? tree ['.'] = none := by
  have notHere : tree.contains (Path.join ['.'] fileName) = false := by
    rw [FileTree.contains_here inside isName_fileName refusal?_pathHere, absent]
    rfl
  have notAbove : tree.contains (Path.join [] fileName) = false := by
    change tree.contains fileName = false
    rw [FileTree.contains_name inside isName_fileName refusal?_fileName, absent]
    rfl
  simp only [find?, ancestors_here, findIn, notHere, notAbove, Bool.false_eq_true, if_false,
    ite_self]

theorem find?_here_of_present (inside : tree.HasCurrent entries)
    (present : (entries.lookup fileName).isSome) : find? tree ['.'] = some pathHere := by
  have here : tree.contains (Path.join ['.'] fileName) = true := by
    rw [FileTree.contains_here inside isName_fileName refusal?_pathHere, present]
  simp only [find?, ancestors_here, findIn, here, if_true]
  rfl

/-- Where there is no configuration the standard one is used. -/
theorem load_here_of_absent (inside : tree.HasCurrent entries)
    (absent : entries.lookup fileName = none) :
    load tree ['.'] = .ok { config := standard, fromFile := false } := by
  rw [load, find?_here_of_absent inside absent]

theorem load_here_of_written (inside : tree.HasCurrent (configured entries))
    (absent : entries.lookup fileName = none) :
    load tree ['.'] = .ok { config := standard, fromFile := true } := by
  have present : ((configured entries).lookup fileName).isSome := by
    rw [configured, FileEntry.lookup_append_of_none absent]
    rfl
  have readable : tree.readText pathHere = .ok standardText :=
    FileTree.readText_new inside isName_fileName refusal?_pathHere absent
  rw [load, find?_here_of_present inside present]
  simp only [read, readable, parse?_standardText, validate_standard]
  rfl

end Config
end Traceability
