import Traceability.Agent.Tools
import Traceability.Proofs.Config.Standard

/-!
Where the search for a configuration ends.

The search goes up from a path, one component at a time.  It ends at the first configuration
file, at the root of a repository without one, or where nothing is left to take away, and a
path has only finitely many components (`Config.find?_nearest`).  A file has no entries, so a search
that starts at a file finds what a search from its directory finds.
-/

namespace Traceability

namespace Path

/-- What is left of a path when its last component is taken away a number of times. -/
def above (path : Text) : Nat → Option Text
  | 0 => some path
  | count + 1 => (above path count).bind parent?

theorem above_succ (path : Text) (count : Nat) :
    above path (count + 1) = (parent? path).bind fun front => above front count := by
  induction count with
  | zero => simp only [above, Option.bind_some, Option.bind_fun_some]
  | succ count ih =>
      rw [above, ih, Option.bind_assoc]
      rfl

/-- Going up ends, after at most as many steps as the path has characters. -/
theorem exists_height (path : Text) :
    ∃ height ≤ path.length, ∀ count, (above path count).isSome ↔ count ≤ height := by
  induction path using ancestors.induct with
  | case1 path ih =>
      cases isParent : parent? path with
      | none =>
          refine ⟨0, Nat.zero_le _, ?_⟩
          intro count
          cases count with
          | zero => exact iff_of_true rfl (Nat.le_refl 0)
          | succ count =>
              rw [above_succ, isParent]
              exact iff_of_false Bool.false_ne_true (Nat.not_succ_le_zero count)
      | some front =>
          obtain ⟨height, bound, inFront⟩ := ih front isParent
          have shorter := length_parent?_lt isParent
          refine ⟨height + 1, by omega, ?_⟩
          intro count
          cases count with
          | zero => exact iff_of_true rfl (Nat.zero_le _)
          | succ count =>
              rw [above_succ, isParent, Option.bind_some, inFront]
              omega

end Path

namespace Config

/-- The search goes on above the directory: it has no configuration and is no repository. -/
structure Passes (tree : FileTree) (directory : Text) : Prop where
  unconfigured : tree.contains (Path.join directory fileName) = false
  noRepository : tree.contains (Path.join directory repositoryMark) = false

/-- The search from a path, directory by directory, and its result. -/
inductive Search (tree : FileTree) : Text → Option Text → Prop
  | found {directory : Text} (present : tree.contains (Path.join directory fileName) = true) :
      Search tree directory (some (Path.join directory fileName))
  | atRepository {directory : Text}
      (unconfigured : tree.contains (Path.join directory fileName) = false)
      (repository : tree.contains (Path.join directory repositoryMark) = true) :
      Search tree directory none
  | atTop {directory : Text} (passes : Passes tree directory)
      (top : Path.parent? directory = none) : Search tree directory none
  | further {directory front : Text} {result : Option Text} (passes : Passes tree directory)
      (isParent : Path.parent? directory = some front) (later : Search tree front result) :
      Search tree directory result

/-- The directory a number of steps above the start has a configuration, and below it there is
none and no repository. -/
structure FoundAt (tree : FileTree) (start : Text) (count : Nat) (directory : Text) : Prop where
  place : Path.above start count = some directory
  present : tree.contains (Path.join directory fileName) = true
  below : ∀ lower < count, ∀ inner, Path.above start lower = some inner → Passes tree inner

variable {tree : FileTree} {start : Text}

/-! ### One directory -/

theorem find?_eq (tree : FileTree) (start : Text) :
    find? tree start =
      if tree.contains (Path.join start fileName) then some (Path.join start fileName)
      else if tree.contains (Path.join start repositoryMark) then none
      else (Path.parent? start).bind (find? tree) := by
  cases isParent : Path.parent? start with
  | none => rw [find?, Path.ancestors_of_no_parent isParent]; rfl
  | some front => rw [find?, Path.ancestors_of_parent isParent]; rfl

theorem find?_of_present (present : tree.contains (Path.join start fileName) = true) :
    find? tree start = some (Path.join start fileName) := by
  rw [find?_eq, if_pos present]

theorem find?_of_passes (passes : Passes tree start) :
    find? tree start = (Path.parent? start).bind (find? tree) := by
  rw [find?_eq, passes.unconfigured, passes.noRepository, if_neg Bool.false_ne_true,
    if_neg Bool.false_ne_true]

/-! ### The whole search -/

theorem search_find? (tree : FileTree) (start : Text) : Search tree start (find? tree start) := by
  induction start using Path.ancestors.induct with
  | case1 start ih =>
      cases configured : tree.contains (Path.join start fileName) with
      | true =>
          rw [find?_of_present configured]
          exact .found configured
      | false =>
          cases repository : tree.contains (Path.join start repositoryMark) with
          | true =>
              rw [find?_eq, configured, repository, if_neg Bool.false_ne_true, if_pos rfl]
              exact .atRepository configured repository
          | false =>
              have passes : Passes tree start := ⟨configured, repository⟩
              rw [find?_of_passes passes]
              cases isParent : Path.parent? start with
              | none => exact .atTop passes isParent
              | some front => exact .further passes isParent (ih front isParent)

theorem Search.find?_eq {result : Option Text} (search : Search tree start result) :
    find? tree start = result := by
  induction search with
  | found present => exact find?_of_present present
  | atRepository unconfigured repository =>
      rw [Config.find?_eq, unconfigured, repository, if_neg Bool.false_ne_true, if_pos rfl]
  | atTop passes top => rw [find?_of_passes passes, top, Option.bind_none]
  | further passes isParent _ ih => rw [find?_of_passes passes, isParent, Option.bind_some, ih]

theorem FoundAt.find?_eq {count : Nat} {directory : Text}
    (found : FoundAt tree start count directory) :
    find? tree start = some (Path.join directory fileName) := by
  induction count generalizing start with
  | zero =>
      obtain rfl := Option.some.inj found.place
      exact find?_of_present found.present
  | succ count ih =>
      have place := found.place
      rw [Path.above_succ] at place
      obtain ⟨front, isParent, placed⟩ := Option.bind_eq_some_iff.mp place
      have passes := found.below 0 (Nat.zero_lt_succ count) start rfl
      rw [find?_of_passes passes, isParent, Option.bind_some]
      refine ih ⟨placed, found.present, ?_⟩
      intro lower less inner isInner
      refine found.below (lower + 1) (Nat.succ_lt_succ less) inner ?_
      rw [Path.above_succ, isParent, Option.bind_some, isInner]

theorem Search.exists_foundAt {path : Text} (search : Search tree start (some path)) :
    ∃ count directory, FoundAt tree start count directory ∧
      path = Path.join directory fileName := by
  generalize result : some path = found at search
  induction search with
  | @found directory present =>
      refine ⟨0, directory, ⟨rfl, present, ?_⟩, Option.some.inj result⟩
      intro lower less
      exact absurd less (Nat.not_lt_zero lower)
  | atRepository => cases result
  | atTop => cases result
  | @further lowest front _ passes isParent _ ih =>
      obtain ⟨count, directory, inFront, same⟩ := ih result
      refine ⟨count + 1, directory, ⟨?_, inFront.present, ?_⟩, same⟩
      · rw [Path.above_succ, isParent, Option.bind_some, inFront.place]
      · intro lower less inner isInner
        cases lower with
        | zero => exact Option.some.inj isInner ▸ passes
        | succ lower =>
            rw [Path.above_succ, isParent, Option.bind_some] at isInner
            exact inFront.below lower (Nat.lt_of_succ_lt_succ less) inner isInner

theorem find?_eq_some_iff {path : Text} : find? tree start = some path ↔
    ∃ count directory, FoundAt tree start count directory ∧
      path = Path.join directory fileName := by
  constructor
  · intro same
    exact (same ▸ search_find? tree start).exists_foundAt
  · rintro ⟨count, directory, found, rfl⟩
    exact found.find?_eq

end Config

/-! ### Below a file -/

namespace FileEntry

variable {root : FileEntry} {names reached : List Text} {segment : Text} {segments : List Text}

theorem enter_file {content : FileContent} (found : root.descend names = .ok (file content)) :
    root.enter names segment = .error .notADirectory := by
  rw [enter, found]

theorem directory_of_enter (entered : root.enter names segment = .ok reached)
    (redundant : Path.isRedundant segment = true) :
    reached = names ∧ ∃ entries, root.descend reached = .ok (directory entries) := by
  unfold enter at entered
  split at entered
  · cases entered
  · rename_i entries found
    rw [if_pos redundant] at entered
    obtain rfl := Except.ok.inj entered
    exact ⟨rfl, entries, found⟩
  · cases entered

/-- What adds nothing to a path leads from a directory to itself, and from nothing else. -/
theorem directory_of_resolve (resolved : root.resolve names segments = .ok reached)
    (nonempty : segments ≠ []) (redundant : ∀ segment ∈ segments, Path.isRedundant segment = true) :
    ∃ entries, root.descend reached = .ok (directory entries) := by
  induction segments generalizing names with
  | nil => exact absurd rfl nonempty
  | cons segment others ih =>
      obtain ⟨next, entered, later⟩ := exists_of_bind_eq_ok resolved
      obtain ⟨rfl, inDirectory⟩ := directory_of_enter entered (redundant segment (.head _))
      cases others with
      | nil => exact Except.ok.inj later ▸ inDirectory
      | cons second rest =>
          exact ih later (List.cons_ne_nil _ _) fun other member =>
            redundant other (.tail _ member)

end FileEntry

namespace FileTree

variable {tree : FileTree} {path name : Text}

structure LeadsToFile (tree : FileTree) (path : Text) (names : List Text)
    (content : FileContent) : Prop where
  nonempty : path ≠ []
  resolved : tree.root.resolve (tree.origin path) (Path.segments path) = .ok names
  found : tree.root.descend names = .ok (.file content)

theorem leadsToFile_of_containsFile (isFile : tree.containsFile path = true) :
    ∃ names content, tree.LeadsToFile path names content := by
  unfold containsFile at isFile
  split at isFile
  · rename_i entry found
    obtain ⟨names, located, inside⟩ := exists_of_bind_eq_ok found
    unfold locate at located
    split at located
    · cases located
    · rename_i allowed
      cases entry with
      | file content =>
          refine ⟨names, content, ?_, located, inside⟩
          rintro rfl
          cases allowed
      | directory entries => cases isFile
      | special reading => cases isFile
  · cases isFile

theorem origin_append (tree : FileTree) (nonempty : path ≠ []) (rest : Text) :
    tree.origin (path ++ rest) = tree.origin path := by
  cases path with
  | nil => exact absurd rfl nonempty
  | cons c others =>
      by_cases separator : c = '/'
      · rw [separator]
        rfl
      · rw [List.cons_append, origin, origin]
        · exact fun _ same => separator (List.cons.inj same).1
        · exact fun _ same => separator (List.cons.inj same).1

theorem isPlace_of_containsFile (isFile : tree.containsFile path = true) : Path.IsPlace path := by
  obtain ⟨names, content, leads⟩ := leadsToFile_of_containsFile isFile
  refine ⟨leads.nonempty, ?_⟩
  intro last
  obtain ⟨front, rfl⟩ := List.getLast?_eq_some_iff.mp last
  have resolved := leads.resolved
  rw [Path.segments_append_separator, FileEntry.resolve, List.foldlM_append] at resolved
  obtain ⟨before, _, entered⟩ := exists_of_bind_eq_ok resolved
  obtain ⟨entries, inside⟩ := FileEntry.directory_of_resolve entered (List.cons_ne_nil _ _)
    (by decide)
  rw [leads.found] at inside
  cases inside

theorem contains_join_of_containsFile (isFile : tree.containsFile path = true)
    (single : '/' ∉ name) : tree.contains (Path.join path name) = false := by
  obtain ⟨names, content, leads⟩ := leadsToFile_of_containsFile isFile
  have below : tree.root.resolve (tree.origin path) (Path.segments path ++ [name]) =
      .error .notADirectory := by
    rw [FileEntry.resolve, List.foldlM_append, ← FileEntry.resolve, leads.resolved]
    change (tree.root.enter names name).bind _ = _
    rw [FileEntry.enter_file leads.found]
    rfl
  rw [contains, get, locate, Path.join_eq (isPlace_of_containsFile isFile)]
  split
  · rfl
  · rw [origin_append tree leads.nonempty, Path.segments_append_separator,
      Path.segments_of_not_mem single, below]
    rfl

end FileTree

namespace Path

variable {path : Text}

theorem ne_nil_of_trimReversed {reversed : Text} (nonempty : reversed ≠ []) :
    trimReversed reversed ≠ [] := by
  fun_induction trimReversed reversed with
  | case1 => exact List.cons_ne_nil _ _
  | case2 rest further ih => exact ih further
  | case3 rest _ => exact List.cons_ne_nil _ _
  | case4 rest further ih => exact ih (by simpa using further)
  | case5 other => exact nonempty

/-- A path that is trimmed to the root has only segments that add nothing. -/
theorem redundant_of_trimReversed {reversed : Text} (root : trimReversed reversed = ['/']) :
    ∀ segment ∈ segments reversed.reverse, isRedundant segment = true := by
  have trailing {rest : Text} (tail : Text) (single : '/' ∉ tail)
      (redundant : isRedundant tail = true)
      (earlier : ∀ segment ∈ segments rest.reverse, isRedundant segment = true) :
      ∀ segment ∈ segments (rest.reverse ++ '/' :: tail), isRedundant segment = true := by
    intro segment member
    rw [segments_append_separator, segments_of_not_mem single, List.mem_append,
      List.mem_singleton] at member
    rcases member with member | rfl
    · exact earlier segment member
    · exact redundant
  have empty : ∀ segment ∈ segments ([] : Text).reverse, isRedundant segment = true := by
    decide
  fun_induction trimReversed reversed with
  | case1 => exact trailing [] (by decide) rfl empty
  | case2 rest _ ih =>
      rw [List.reverse_cons]
      exact trailing [] (by decide) rfl (ih root)
  | case3 rest none =>
      rw [List.isEmpty_iff] at none
      subst none
      exact trailing ['.'] (by decide) rfl empty
  | case4 rest _ ih =>
      rw [List.reverse_cons, List.reverse_cons, List.append_assoc]
      exact trailing ['.'] (by decide) rfl (ih root)
  | case5 other single => exact absurd root single

theorem redundant_of_no_parent (nonempty : path ≠ []) (top : parent? path = none) :
    ∀ segment ∈ segments path, isRedundant segment = true := by
  have trimmed : trimEnd path ≠ [] := by
    have reversed := ne_nil_of_trimReversed (List.reverse_ne_nil_iff.mpr nonempty)
    simpa [trimEnd] using reversed
  have root : trimEnd path = ['/'] := by
    unfold parent? at top
    simp only at top
    split at top
    · rename_i whole
      simpa [trimmed] using whole
    · cases top
  have reversed : trimReversed path.reverse = ['/'] := by
    have same := congrArg List.reverse root
    rw [trimEnd, List.reverse_reverse] at same
    exact same
  have all := redundant_of_trimReversed reversed
  rw [List.reverse_reverse] at all
  exact all

end Path

theorem FileTree.parent?_of_containsFile {tree : FileTree} {path : Text}
    (isFile : tree.containsFile path = true) : ∃ front, Path.parent? path = some front := by
  obtain ⟨names, content, leads⟩ := leadsToFile_of_containsFile isFile
  cases isParent : Path.parent? path with
  | some front => exact ⟨front, rfl⟩
  | none =>
      obtain ⟨entries, inside⟩ := FileEntry.directory_of_resolve leads.resolved
        (Path.segments_ne_nil path) (Path.redundant_of_no_parent leads.nonempty isParent)
      rw [leads.found] at inside
      cases inside

/-! ### From a file and from its directory -/

namespace Config

variable {tree : FileTree} {start : Text}

theorem passes_of_containsFile (isFile : tree.containsFile start = true) : Passes tree start :=
  ⟨FileTree.contains_join_of_containsFile isFile (by decide),
    FileTree.contains_join_of_containsFile isFile (by decide)⟩

theorem find?_of_containsFile (isFile : tree.containsFile start = true) :
    ∃ directory, Path.parent? start = some directory ∧
      find? tree start = find? tree directory := by
  obtain ⟨directory, isParent⟩ := FileTree.parent?_of_containsFile isFile
  refine ⟨directory, isParent, ?_⟩
  rw [find?_of_passes (passes_of_containsFile isFile), isParent, Option.bind_some]

theorem load_eq_of_find?_eq {other : Text} (same : find? tree start = find? tree other) :
    load tree start = load tree other := by
  rw [load, load, same]

theorem find?_configStart (tree : FileTree) (request : CheckRequest) :
    find? tree (request.configStart tree) = find? tree request.path := by
  unfold CheckRequest.configStart
  split
  · rename_i isFile
    obtain ⟨directory, isParent, same⟩ := find?_of_containsFile isFile
    rw [isParent, Option.getD_some, same]
  · rfl

open Agent (configTool onlyRootPath?)

theorem configTool_eq {parameters : Json} (given : onlyRootPath? parameters = some start)
    (tree : FileTree) (request : CheckRequest) :
    configTool tree parameters =
      ((load tree ({ request with path := start }.configStart tree)).mapError .loading).map
        fun loaded => .ofMembers [("fromFile", .boolean loaded.fromFile),
          ("config", loaded.config.toJson)] := by
  have same := find?_configStart tree { request with path := start }
  rw [load_eq_of_find?_eq same, configTool, given]
  change ((load tree start).mapError _).bind _ = _
  cases load tree start <;> rfl

/-- The search ends, and it finds the configuration file of the nearest directory that has one,
unless a repository lies below it.  It finds the same from a file as from its directory, so
a check, which starts at the directory of a file, loads what an agent is told that the file has. -/
theorem find?_nearest (tree : FileTree) (start : Text) :
    (∀ path, find? tree start = some path ↔
      ∃ count directory, FoundAt tree start count directory ∧
        path = Path.join directory fileName) ∧
    (find? tree start = none ↔ ¬∃ count directory, FoundAt tree start count directory) ∧
    (∀ result, Search tree start result ↔ find? tree start = result) ∧
    (∃ height ≤ start.length, ∀ count, (Path.above start count).isSome ↔ count ≤ height) ∧
    (tree.containsFile start = true → ∃ directory, Path.parent? start = some directory ∧
      find? tree start = find? tree directory ∧ load tree start = load tree directory) ∧
    ∀ request : CheckRequest,
      find? tree ({ request with path := start }.configStart tree) = find? tree start ∧
        load tree ({ request with path := start }.configStart tree) = load tree start ∧
        ∀ parameters, onlyRootPath? parameters = some start →
          configTool tree parameters =
            ((load tree ({ request with path := start }.configStart tree)).mapError .loading).map
              fun loaded => .ofMembers [("fromFile", .boolean loaded.fromFile),
                ("config", loaded.config.toJson)] := by
  refine ⟨fun _ => find?_eq_some_iff, ?_, ?_, Path.exists_height start, ?_, ?_⟩
  · constructor
    · rintro absent ⟨count, directory, found⟩
      rw [found.find?_eq] at absent
      cases absent
    · intro absent
      rw [Option.eq_none_iff_forall_ne_some]
      intro path found
      obtain ⟨count, directory, foundAt, _⟩ := find?_eq_some_iff.mp found
      exact absent ⟨count, directory, foundAt⟩
  · intro result
    constructor
    · exact Search.find?_eq
    · rintro rfl
      exact search_find? tree start
  · intro isFile
    obtain ⟨directory, isParent, same⟩ := find?_of_containsFile isFile
    exact ⟨directory, isParent, same, load_eq_of_find?_eq same⟩
  · intro request
    have same := find?_configStart tree { request with path := start }
    refine ⟨same, load_eq_of_find?_eq same, ?_⟩
    intro parameters given
    exact configTool_eq given tree request

def configuredAbove : FileTree :=
  { root := .directory [("src".toList, .directory [("a.rs".toList, .file (.text []))]),
      (fileName, .file (.text "\x7b\x7d".toList))] }

theorem find?_nearest_fileBelow :
    configuredAbove.containsFile "src/a.rs".toList = true ∧
    find? configuredAbove "src/a.rs".toList = some fileName ∧
    find? configuredAbove "src/..".toList = some "src/../.reqsatrc.json".toList ∧
    (∃ directory, Path.parent? "src/a.rs".toList = some directory ∧
      find? configuredAbove "src/a.rs".toList = find? configuredAbove directory ∧
      load configuredAbove "src/a.rs".toList = load configuredAbove directory) ∧
    configTool configuredAbove (.array [.ofText "src/a.rs".toList]) =
      ((load configuredAbove (({ path := "src/a.rs".toList } : CheckRequest).configStart
        configuredAbove)).mapError .loading).map fun loaded =>
          .ofMembers [("fromFile", .boolean loaded.fromFile),
            ("config", loaded.config.toJson)] := by
  have isFile : configuredAbove.containsFile "src/a.rs".toList = true := by decide
  obtain ⟨_, _, _, _, fromFile, forChecks⟩ := find?_nearest configuredAbove "src/a.rs".toList
  obtain ⟨_, _, told⟩ := forChecks { path := "src/a.rs".toList }
  exact ⟨isFile, by decide +kernel, by decide +kernel, fromFile isFile,
    told (.array [.ofText "src/a.rs".toList]) rfl⟩

end Config
end Traceability
