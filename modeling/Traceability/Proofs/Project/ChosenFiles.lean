import Traceability.Proofs.Config.Standard
import Traceability.Proofs.Project.Selection

/-!
Which files the patterns choose.

The chosen files are the files below the root whose relative path is selected by a pattern that
includes and by none that ignores (`FileSelection.files_chosen`).  What a pattern
selects depends on nothing but the pattern, so neither the order of the patterns nor a repeated one
matters.  A pattern that is no valid glob selects nothing, and a configuration that is valid
has none of these.
-/

namespace Traceability

/-! ### Files in a tree -/

namespace FileEntry

/-- The names lead from the entry to a file. -/
inductive HasFile : FileEntry → List Text → Prop
  | here (content : FileContent) : HasFile (file content) []
  | inEntry {entries : Entries} {name : Text} {entry : FileEntry} {names : List Text}
      (member : (name, entry) ∈ entries) (has : HasFile entry names) :
      HasFile (directory entries) (name :: names)

variable {entry : FileEntry} {names others : List Text}

theorem hasFile_of_mem_filesBelow (listed : names ∈ entry.filesBelow) : entry.HasFile names := by
  induction names generalizing entry with
  | nil =>
      cases entry with
      | file content => exact .here content
      | special reading =>
          rw [filesBelow] at listed
          cases listed
      | directory entries =>
          rw [filesBelow] at listed
          obtain ⟨entry, _, below, _, same⟩ := mem_filesOfEntries.mp listed
          cases same
  | cons name rest ih =>
      cases entry with
      | file content =>
          rw [filesBelow, List.mem_singleton] at listed
          cases listed
      | special reading =>
          rw [filesBelow] at listed
          cases listed
      | directory entries =>
          rw [filesBelow] at listed
          obtain ⟨entry, member, below, inEntry, same⟩ := mem_filesOfEntries.mp listed
          obtain ⟨rfl, rfl⟩ := List.cons.inj same
          exact .inEntry member (ih inEntry)

theorem HasFile.mem_filesBelow (has : entry.HasFile names) : names ∈ entry.filesBelow := by
  induction has with
  | here content =>
      rw [filesBelow]
      exact .head _
  | inEntry member _ ih =>
      rw [filesBelow]
      exact mem_filesOfEntries.mpr ⟨_, member, _, ih, rfl⟩

theorem mem_filesBelow_iff : names ∈ entry.filesBelow ↔ entry.HasFile names :=
  ⟨hasFile_of_mem_filesBelow, HasFile.mem_filesBelow⟩

end FileEntry

/-! ### Patterns -/

namespace FileFilter

def Selects (pattern path : Text) : Prop :=
  ∃ filter, FileFilter.parse pattern = .ok filter ∧ filter.accepts path = true

variable {pattern path : Text} {patterns : List Text}

theorem any_isWildcard_iff :
    pattern.any isWildcard = true ↔ '*' ∈ pattern ∨ '?' ∈ pattern := by
  simp only [List.any_eq_true, isWildcard, Bool.or_eq_true, beq_iff_eq, and_or_left, exists_or,
    exists_eq_right]

theorem selects_iff_of_literal (literal : '*' ∉ pattern ∧ '?' ∉ pattern) :
    Selects pattern path ↔ Path.components pattern <+: Path.components path := by
  have plain : ¬pattern.any isWildcard = true := by
    rw [any_isWildcard_iff, not_or]
    exact literal
  rw [Selects, FileFilter.parse, if_neg plain]
  constructor
  · rintro ⟨_, parsed, accepted⟩
    obtain rfl := Except.ok.inj parsed
    exact List.isPrefixOf_iff_prefix.mp accepted
  · intro isFront
    exact ⟨_, rfl, List.isPrefixOf_iff_prefix.mpr isFront⟩

theorem selects_iff_of_wildcard (wild : '*' ∈ pattern ∨ '?' ∈ pattern) :
    Selects pattern path ↔
      ∃ glob, GlobPattern.parse pattern = .ok glob ∧ glob.isMatch path = true := by
  rw [Selects, FileFilter.parse, if_pos (any_isWildcard_iff.mpr wild)]
  cases GlobPattern.parse pattern with
  | error error => exact iff_of_false (by rintro ⟨_, ⟨⟩, _⟩) (by rintro ⟨_, ⟨⟩, _⟩)
  | ok glob =>
      constructor
      · rintro ⟨_, parsed, accepted⟩
        obtain rfl := Except.ok.inj parsed
        exact ⟨glob, rfl, accepted⟩
      · rintro ⟨_, parsed, matched⟩
        obtain rfl := Except.ok.inj parsed
        exact ⟨_, rfl, matched⟩

theorem not_selects_of_error {error : GlobError} (wild : '*' ∈ pattern ∨ '?' ∈ pattern)
    (invalid : GlobPattern.parse pattern = .error error) : ¬Selects pattern path := by
  rw [selects_iff_of_wildcard wild, invalid]
  rintro ⟨_, ⟨⟩, _⟩

theorem any_ofPatterns_iff :
    (ofPatterns patterns).any (·.accepts path) = true ↔
      ∃ pattern ∈ patterns, Selects pattern path := by
  simp only [List.any_eq_true, ofPatterns, List.mem_filterMap]
  constructor
  · rintro ⟨filter, ⟨pattern, member, parsed⟩, accepted⟩
    cases found : FileFilter.parse pattern with
    | error error => rw [found] at parsed; cases parsed
    | ok other =>
        rw [found] at parsed
        obtain rfl := Option.some.inj parsed
        exact ⟨pattern, member, other, found, accepted⟩
  · rintro ⟨pattern, member, filter, parsed, accepted⟩
    exact ⟨filter, ⟨pattern, member, by rw [parsed]; rfl⟩, accepted⟩

/-! ### Valid patterns -/

theorem exists_parse_of_isGlob (valid : Config.isGlob pattern = true) :
    ∃ filter, FileFilter.parse pattern = .ok filter := by
  unfold FileFilter.parse
  split
  · unfold Config.isGlob at valid
    cases parsed : GlobPattern.parse pattern with
    | error error => rw [parsed] at valid; cases valid
    | ok glob => exact ⟨_, rfl⟩
  · exact ⟨_, rfl⟩

theorem mapM_parse_of_isGlob (valid : ∀ pattern ∈ patterns, Config.isGlob pattern = true) :
    patterns.mapM FileFilter.parse = .ok (ofPatterns patterns) ∧ rejected patterns = [] := by
  induction patterns with
  | nil => exact ⟨rfl, rfl⟩
  | cons pattern others ih =>
      obtain ⟨filter, parsed⟩ := exists_parse_of_isGlob (valid pattern (.head _))
      obtain ⟨kept, none⟩ := ih fun other member => valid other (.tail _ member)
      constructor
      · have added : ofPatterns (pattern :: others) = filter :: ofPatterns others := by
          rw [ofPatterns, List.filterMap_cons, parsed]
          rfl
        rw [List.mapM_cons, parsed, kept, added]
        rfl
      · rw [rejected, List.filterMap_cons, parsed]
        exact none

end FileFilter

theorem Config.isGlob_of_validate {config : Config} {choice : LanguageChoice}
    (valid : config.validate = .ok choice) :
    (∀ pattern ∈ config.includes, isGlob pattern = true) ∧
      ∀ pattern ∈ config.ignores, isGlob pattern = true := by
  unfold validate at valid
  split at valid
  · cases valid
  · cases valid
  · rename_i ignores includes
    rw [List.find?_eq_none] at ignores includes
    exact ⟨by simpa using includes, by simpa using ignores⟩

/-! ### Chosen files -/

namespace FileSelection

open FileFilter (Selects)

/-- Some pattern includes the path and none ignores it. -/
def Chosen (includes ignores : List Text) (relative : Text) : Prop :=
  (∃ pattern ∈ includes, Selects pattern relative) ∧
    ∀ pattern ∈ ignores, ¬Selects pattern relative

variable {tree : FileTree} {root path : Text} {includes ignores others otherIgnores : List Text}

theorem chooses_iff {relative : Text} :
    chooses (FileFilter.ofPatterns includes) (FileFilter.ofPatterns ignores) relative = true ↔
      Chosen includes ignores relative := by
  rw [chooses, Bool.and_eq_true, Bool.not_eq_true', Bool.eq_false_iff, ne_eq,
    FileFilter.any_ofPatterns_iff, FileFilter.any_ofPatterns_iff, and_comm, Chosen]
  simp only [not_exists, not_and]

theorem Chosen.mono {relative : Text} (chosen : Chosen includes ignores relative)
    (more : includes ⊆ others) (fewer : otherIgnores ⊆ ignores) :
    Chosen others otherIgnores relative := by
  obtain ⟨⟨pattern, member, selected⟩, notIgnored⟩ := chosen
  exact ⟨⟨pattern, more member, selected⟩, fun other inOthers => notIgnored other (fewer inOthers)⟩

theorem mem_files_iff : path ∈ (ofTree tree root includes ignores).files ↔
    ∃ entry names, tree.get root = .ok entry ∧ entry.HasFile names ∧
      Chosen includes ignores (relativePath root names) ∧ path = pathOf root names := by
  unfold ofTree
  cases tree.get root with
  | error error => exact iff_of_false List.not_mem_nil (by rintro ⟨_, _, ⟨⟩, _⟩)
  | ok entry =>
      simp only [chosen, ascending_eq, Text.mem_ascending, List.mem_map, List.mem_filter,
        FileEntry.mem_filesBelow_iff, chooses_iff]
      constructor
      · rintro ⟨names, ⟨has, isChosen⟩, rfl⟩
        exact ⟨entry, names, rfl, has, isChosen, rfl⟩
      · rintro ⟨_, names, found, has, isChosen, rfl⟩
        obtain rfl := Except.ok.inj found
        exact ⟨names, ⟨has, isChosen⟩, rfl⟩

theorem mem_files_of_file {content : FileContent}
    (found : tree.get root = .ok (.file content)) :
    path ∈ (ofTree tree root includes ignores).files ↔
      path = root ∧ Chosen includes ignores root := by
  rw [mem_files_iff]
  constructor
  · rintro ⟨entry, names, inTree, has, isChosen, rfl⟩
    obtain rfl := Except.ok.inj (found.symm.trans inTree)
    cases has
    exact ⟨rfl, isChosen⟩
  · rintro ⟨rfl, isChosen⟩
    exact ⟨_, [], found, .here content, isChosen, rfl⟩

theorem files_ascending (tree : FileTree) (root : Text) (includes ignores : List Text) :
    (ofTree tree root includes ignores).files.Pairwise
      fun left right => compare left right = .lt := by
  unfold ofTree
  split
  · exact .nil
  · rw [chosen, ascending_eq]
    exact Text.ascending_pairwise _

theorem files_mono (more : includes ⊆ others) (fewer : otherIgnores ⊆ ignores) :
    (ofTree tree root includes ignores).files ⊆ (ofTree tree root others otherIgnores).files := by
  intro path member
  obtain ⟨entry, names, found, has, isChosen, same⟩ := mem_files_iff.mp member
  exact mem_files_iff.mpr ⟨entry, names, found, has, isChosen.mono more fewer, same⟩

theorem files_eq_of_mem_iff (sameIncludes : ∀ pattern, pattern ∈ others ↔ pattern ∈ includes)
    (sameIgnores : ∀ pattern, pattern ∈ otherIgnores ↔ pattern ∈ ignores) :
    (ofTree tree root others otherIgnores).files = (ofTree tree root includes ignores).files := by
  have members : ∀ path, path ∈ (ofTree tree root others otherIgnores).files ↔
      path ∈ (ofTree tree root includes ignores).files := by
    intro path
    constructor
    · apply files_mono
      · exact fun pattern => (sameIncludes pattern).mp
      · exact fun pattern => (sameIgnores pattern).mpr
    · apply files_mono
      · exact fun pattern => (sameIncludes pattern).mpr
      · exact fun pattern => (sameIgnores pattern).mp
  exact (Text.eq_ascending (files_ascending _ _ _ _) members).trans
    (Text.eq_ascending (files_ascending _ _ _ _) fun _ => Iff.rfl).symm

end FileSelection

/-! ### Paths of files -/

namespace Path

open FileSelection (pathOf relativePath)

variable {root : Text} {names others : List Text}

theorem join_append (root front back : Text) :
    join root (front ++ back) = join root front ++ back := by
  unfold join
  split
  · rfl
  · split
    · rw [List.append_assoc]
    · rw [List.append_assoc, List.cons_append]

theorem join_injective {first second : Text} (same : join root first = join root second) :
    first = second := by
  unfold join at same
  split at same
  · exact same
  · split at same
    · exact List.append_cancel_left same
    · exact List.tail_eq_of_cons_eq (List.append_cancel_left same)

theorem join_names (name next : Text) (others : List Text) :
    Text.join ['/'] (name :: next :: others) =
      name ++ '/' :: Text.join ['/'] (next :: others) :=
  Text.join_cons_cons ['/'] name next others

theorem pathOf_eq_append {place : Text} (isPlace : IsPlace place) (nonempty : names ≠ [])
    (isNames : ∀ name ∈ names, IsName name) :
    pathOf place names = place ++ '/' :: Text.join ['/'] names := by
  induction names generalizing place with
  | nil => exact absurd rfl nonempty
  | cons name rest ih =>
      have further := (isNames name (.head _)).isPlace.join place
      rw [pathOf, List.foldl_cons]
      cases rest with
      | nil => rw [List.foldl_nil, join_eq isPlace, Text.join_singleton]
      | cons next others =>
          have later := ih further (List.cons_ne_nil _ _) fun other member =>
            isNames other (.tail _ member)
          rw [pathOf] at later
          rw [later, join_eq isPlace, join_names, List.append_assoc, List.cons_append]

theorem pathOf_eq_join (root : Text) (nonempty : names ≠ [])
    (isNames : ∀ name ∈ names, IsName name) :
    pathOf root names = join root (Text.join ['/'] names) := by
  cases names with
  | nil => exact absurd rfl nonempty
  | cons name rest =>
      rw [pathOf, List.foldl_cons]
      cases rest with
      | nil => rw [List.foldl_nil, Text.join_singleton]
      | cons next others =>
          have isPlace := (isNames name (.head _)).isPlace.join root
          have below := pathOf_eq_append isPlace (List.cons_ne_nil next others)
            fun other member => isNames other (.tail _ member)
          rw [pathOf] at below
          rw [below, join_names, join_append]

theorem segments_join_separator (nonempty : names ≠ []) (isNames : ∀ name ∈ names, IsName name) :
    segments (Text.join ['/'] names) = names := by
  induction names with
  | nil => exact absurd rfl nonempty
  | cons name rest ih =>
      have single := segments_of_not_mem (isNames name (.head _)).single
      cases rest with
      | nil => rw [Text.join_singleton, single]
      | cons next others =>
          have later := ih (List.cons_ne_nil _ _) fun other member => isNames other (.tail _ member)
          rw [join_names, segments_append_separator, single, later, List.singleton_append]

/-- Different names lead to different paths, whatever the root ends with. -/
theorem pathOf_injective_of_ne_nil (nonempty : names ≠ []) (othersNonempty : others ≠ [])
    (isNames : ∀ name ∈ names, IsName name) (otherNames : ∀ name ∈ others, IsName name)
    (same : pathOf root names = pathOf root others) : names = others := by
  rw [pathOf_eq_join root nonempty isNames, pathOf_eq_join root othersNonempty otherNames] at same
  have segments := congrArg segments (join_injective same)
  rwa [segments_join_separator nonempty isNames, segments_join_separator othersNonempty otherNames]
    at segments

end Path

theorem FileTree.Named.get {tree : FileTree} {entry : FileEntry} {path : Text}
    (named : tree.Named) (found : tree.get path = .ok entry) : entry.Named := by
  obtain ⟨names, _, inside⟩ := exists_of_bind_eq_ok found
  exact FileEntry.Named.descend named inside

namespace FileEntry

variable {entry : FileEntry} {names others : List Text}

theorem HasFile.eq_nil_iff (has : entry.HasFile names) (hasOther : entry.HasFile others) :
    names = [] ↔ others = [] := by
  cases has with
  | here content =>
      cases hasOther
      exact Iff.rfl
  | inEntry =>
      cases hasOther
      exact iff_of_false (List.cons_ne_nil _ _) (List.cons_ne_nil _ _)

theorem HasFile.pathOf_injective {root : Text} (named : entry.Named) (has : entry.HasFile names)
    (hasOther : entry.HasFile others)
    (same : FileSelection.pathOf root names = FileSelection.pathOf root others) :
    names = others := by
  by_cases isRoot : names = []
  · rw [isRoot, (has.eq_nil_iff hasOther).mp isRoot]
  · apply Path.pathOf_injective_of_ne_nil isRoot _ _ _ same
    · exact fun otherRoot => isRoot ((has.eq_nil_iff hasOther).mpr otherRoot)
    · exact named.isName_of_mem_filesBelow has.mem_filesBelow
    · exact named.isName_of_mem_filesBelow hasOther.mem_filesBelow

end FileEntry

/-! ### The files that patterns choose -/

/-- What a pattern selects: without `*` and `?` the paths that its components begin, else the
paths that it matches as a glob, and no path if it is none. -/
structure FileFilter.Means (pattern : Text) : Prop where
  literal : '*' ∉ pattern ∧ '?' ∉ pattern → ∀ path,
    (Selects pattern path ↔ Path.components pattern <+: Path.components path)
  wildcard : '*' ∈ pattern ∨ '?' ∈ pattern → ∀ path, (Selects pattern path ↔
    ∃ glob, GlobPattern.parse pattern = .ok glob ∧ glob.isMatch path = true)
  invalid : '*' ∈ pattern ∨ '?' ∈ pattern → ∀ error, GlobPattern.parse pattern = .error error →
    ∀ path, ¬Selects pattern path

theorem FileFilter.means (pattern : Text) : Means pattern where
  literal literal _ := selects_iff_of_literal literal
  wildcard wild _ := selects_iff_of_wildcard wild
  invalid wild _ error _ := not_selects_of_error wild error

namespace FileSelection

open FileFilter (Selects)

/-- The chosen files are those below the root that the patterns choose. -/
structure Exact (tree : FileTree) (root : Text) (includes ignores : List Text) : Prop where
  members : ∀ path, path ∈ (ofTree tree root includes ignores).files ↔
    ∃ entry names, tree.get root = .ok entry ∧ entry.HasFile names ∧
      Chosen includes ignores (relativePath root names) ∧ path = pathOf root names
  ofFile : ∀ content, tree.get root = .ok (.file content) → ∀ path,
    path ∈ (ofTree tree root includes ignores).files ↔ path = root ∧ Chosen includes ignores root
  ascending : (ofTree tree root includes ignores).files.Pairwise
    fun left right => compare left right = .lt
  /-- Other files have other paths, and each path is the relative one below the root. -/
  paths : tree.Named → ∀ entry names, tree.get root = .ok entry → entry.HasFile names →
    (names ≠ [] → pathOf root names = Path.join root (relativePath root names)) ∧
      ∀ others, entry.HasFile others → pathOf root others = pathOf root names → others = names
  samePatterns : ∀ others otherIgnores, (∀ pattern, pattern ∈ others ↔ pattern ∈ includes) →
    (∀ pattern, pattern ∈ otherIgnores ↔ pattern ∈ ignores) →
    (ofTree tree root others otherIgnores).files = (ofTree tree root includes ignores).files
  moreIncludes : ∀ more, includes ⊆ more →
    (ofTree tree root includes ignores).files ⊆ (ofTree tree root more ignores).files
  moreIgnores : ∀ more, ignores ⊆ more →
    (ofTree tree root includes more).files ⊆ (ofTree tree root includes ignores).files

theorem relativePath_of_ne_nil (root : Text) {names : List Text} (nonempty : names ≠ []) :
    relativePath root names = Text.join ['/'] names := by
  rw [relativePath, List.isEmpty_eq_false_iff.mpr nonempty, if_neg Bool.false_ne_true]

theorem exact (tree : FileTree) (root : Text) (includes ignores : List Text) :
    Exact tree root includes ignores where
  members _ := mem_files_iff
  ofFile _ found _ := mem_files_of_file found
  ascending := files_ascending tree root includes ignores
  paths := by
    intro named entry names found has
    have entryNamed := named.get found
    constructor
    · intro nonempty
      rw [relativePath_of_ne_nil root nonempty]
      exact Path.pathOf_eq_join root nonempty
        (entryNamed.isName_of_mem_filesBelow has.mem_filesBelow)
    · intro others hasOther same
      exact hasOther.pathOf_injective entryNamed has same
  samePatterns _ _ := files_eq_of_mem_iff
  moreIncludes _ more := files_mono more (List.Subset.refl _)
  moreIgnores _ more := files_mono (List.Subset.refl _) more

theorem rejected_of_validate {config : Config} {choice : LanguageChoice}
    (valid : config.validate = .ok choice) (tree : FileTree) (root : Text) :
    (ofTree tree root config.includes config.ignores).rejected = [] ∧
      config.includes.mapM FileFilter.parse = .ok (FileFilter.ofPatterns config.includes) ∧
      config.ignores.mapM FileFilter.parse = .ok (FileFilter.ofPatterns config.ignores) := by
  obtain ⟨includesValid, ignoresValid⟩ := Config.isGlob_of_validate valid
  obtain ⟨includesKept, noInclude⟩ := FileFilter.mapM_parse_of_isGlob includesValid
  obtain ⟨ignoresKept, noIgnore⟩ := FileFilter.mapM_parse_of_isGlob ignoresValid
  refine ⟨?_, includesKept, ignoresKept⟩
  unfold ofTree
  cases tree.get root <;> simp only [noInclude, noIgnore, List.append_nil]

/-- The chosen files are exactly those below the root that some pattern includes and none
ignores, each once and in ascending order.  Neither the order of the patterns nor a repeated one
matters, and a valid configuration loses no pattern. -/
theorem files_chosen (tree : FileTree) (root : Text) (includes ignores : List Text) :
    Exact tree root includes ignores ∧ (∀ pattern, FileFilter.Means pattern) ∧
      ∀ config : Config, ∀ choice, config.validate = .ok choice →
        (ofTree tree root config.includes config.ignores).rejected = [] ∧
        config.includes.mapM FileFilter.parse = .ok (FileFilter.ofPatterns config.includes) ∧
        config.ignores.mapM FileFilter.parse = .ok (FileFilter.ofPatterns config.ignores) := by
  refine ⟨exact tree root includes ignores, FileFilter.means, ?_⟩
  intro config choice valid
  exact rejected_of_validate valid tree root

def generatedSource : FileTree :=
  { root := .directory [("src".toList, .directory [("a.rs".toList, .file (.text [])),
        ("pipe".toList, .special (.ok [])),
        ("generated".toList, .directory [("t.rs".toList, .file (.text []))])]),
      ("docs".toList, .directory [("a.md".toList, .file .binary)])] }

theorem named_generatedSource : generatedSource.Named := by
  unfold FileTree.Named generatedSource
  repeat' first
    | exact FileEntry.named_nil
    | apply FileEntry.Named.cons
    | apply FileEntry.Named.ofContent
    | apply FileEntry.Named.ofReading
  all_goals decide

theorem files_chosen_generatedSource :
    (ofTree generatedSource ['.'] ["src".toList] ["src/generated".toList]).files =
      ["./src/a.rs".toList] ∧
    (ofTree generatedSource ['.'] ["src".toList, "src".toList] ["src/generated".toList]).files =
      ["./src/a.rs".toList] ∧
    "./src/a.rs".toList ∈
      (ofTree generatedSource ['.'] ["src".toList, "docs".toList] ["src/generated".toList]).files ∧
    (ofTree generatedSource ['.'] ["src".toList] ["src".toList, "src/generated".toList]).files ⊆
      ["./src/a.rs".toList] ∧
    pathOf ['.'] ["src".toList, "a.rs".toList] = Path.join ['.'] "src/a.rs".toList ∧
    "src/a.rs".toList ∈ (ofTree generatedSource "src/a.rs".toList ["src".toList] []).files ∧
    Selects "src".toList "src/a.rs".toList ∧ ¬Selects "[*".toList "[*".toList ∧
    Selects "src/*".toList "src/a.rs".toList ∧
    (ofTree generatedSource ['.'] Config.standard.includes Config.standard.ignores).rejected =
      [] ∧
    (ofTree generatedSource "docs/..".toList ["src".toList] ["src/generated".toList]).files =
      ["docs/../src/a.rs".toList] := by
  have files : (ofTree generatedSource ['.'] ["src".toList] ["src/generated".toList]).files =
      ["./src/a.rs".toList] := by
    decide +kernel
  have isFile : generatedSource.root.HasFile ["src".toList, "a.rs".toList] :=
    .inEntry (.head _) (.inEntry (.head _) (.here _))
  obtain ⟨exact, means, valid⟩ :=
    files_chosen generatedSource ['.'] ["src".toList] ["src/generated".toList]
  have joined := (exact.paths named_generatedSource generatedSource.root _ rfl isFile).1 (by decide)
  have inSource : Selects "src".toList "src/a.rs".toList :=
    ((means _).literal (by decide) _).mpr (by decide)
  have oneFile := (files_chosen generatedSource "src/a.rs".toList ["src".toList] []).1.ofFile
    (.text []) rfl "src/a.rs".toList
  refine ⟨files, ?_, ?_, ?_, joined, ?_, inSource, ?_, ?_, ?_, by decide +kernel⟩
  · rw [← files]
    exact exact.samePatterns _ _ (by simp) (fun _ => Iff.rfl)
  · apply exact.moreIncludes ["src".toList, "docs".toList]
      (List.subset_append_left ["src".toList] _)
    rw [files]
    exact .head _
  · rw [← files]
    exact exact.moreIgnores _ (List.subset_cons_self _ _)
  · exact oneFile.mpr ⟨rfl, ⟨_, .head _, inSource⟩, by simp⟩
  · exact (means _).invalid (by decide) { position := 0, fault := .invalidRange } (by decide) _
  · exact ((means _).wildcard (by decide) _).mpr ⟨_, rfl, by decide⟩
  · exact (valid Config.standard .auto Config.validate_standard).1

end FileSelection
end Traceability
