import Mathlib.Data.List.Induction
import Traceability.Proofs.FileTree.Listing
import Traceability.Proofs.TextTable

/-!
The files that are chosen in the current directory.

The chosen paths are those of the listed files that the patterns choose, each once and in
ascending order.  One more entry of the directory that is chosen is one more path, and the
others are chosen as before.
-/

namespace Traceability

theorem Text.filter_ascending_concat {texts : List Text} {path : Text} (absent : path ∉ texts) :
    (Text.ascending (texts ++ [path])).filter (· != path) = Text.ascending texts := by
  apply Text.eq_ascending ((Text.ascending_pairwise _).filter _)
  intro text
  simp only [List.mem_filter, Text.mem_ascending, List.mem_append, List.mem_singleton, bne_iff_ne]
  constructor
  · rintro ⟨inside | same, different⟩
    · exact inside
    · exact absurd same different
  · intro inside
    refine ⟨.inl inside, ?_⟩
    rintro rfl
    exact absent inside

namespace FileSelection

open FileEntry (directory file filesOfEntries Entries)

theorem ascending_eq (paths : List Text) : ascending paths = Text.ascending paths := by
  apply TextTable.keys_eq_ascending
  intro name
  induction paths using List.reverseRecOn with
  | nil => simp [TextTable.get?_empty]
  | append_singleton earlier path ih =>
      rw [List.foldl_concat, TextTable.get?_insert, List.mem_append, List.mem_singleton]
      by_cases same : name = path
      · rw [if_pos same]
        exact iff_of_true rfl (.inr same)
      · rw [if_neg same, ih]
        exact (or_iff_left same).symm

variable {tree : FileTree} {entries : Entries} {includes ignores : List Text} {path name : Text}

/-- The paths of the chosen files, in the order in which they are listed. -/
def listed (includes ignores : List Text) (entries : Entries) : List Text :=
  ((filesOfEntries entries).filter fun names =>
    chooses (FileFilter.ofPatterns includes) (FileFilter.ofPatterns ignores)
      (relativePath ['.'] names)).map (pathOf ['.'])

theorem mem_listed (member : path ∈ listed includes ignores entries) :
    ∃ names ∈ filesOfEntries entries, pathOf ['.'] names = path := by
  obtain ⟨names, chosen, same⟩ := List.mem_map.mp member
  exact ⟨names, (List.mem_filter.mp chosen).1, same⟩

theorem files_here (inside : tree.HasCurrent entries) (includes ignores : List Text) :
    (ofTree tree ['.'] includes ignores).files =
      Text.ascending (listed includes ignores entries) := by
  rw [← ascending_eq, ofTree, FileTree.get_dot inside]
  rfl

theorem mem_ascending_listed (member : path ∈ Text.ascending (listed includes ignores entries)) :
    ∃ names ∈ filesOfEntries entries, pathOf ['.'] names = path :=
  mem_listed (Text.mem_ascending.mp member)

theorem nodup_ascending_listed (includes ignores : List Text) (entries : Entries) :
    (Text.ascending (listed includes ignores entries)).Nodup :=
  (Text.ascending_pairwise _).imp Text.ne_of_lt

theorem listed_append (entries : Entries) (content : FileContent)
    (chosen : chooses (FileFilter.ofPatterns includes) (FileFilter.ofPatterns ignores) name) :
    listed includes ignores (entries ++ [(name, file content)]) =
      listed includes ignores entries ++ [pathOf ['.'] [name]] := by
  rw [listed, FileEntry.filesOfEntries_append, List.filter_append, List.map_append]
  have added : filesOfEntries [(name, file content)] = [[name]] := by
    rw [filesOfEntries, FileEntry.filesBelow, filesOfEntries]
    rfl
  have relative : relativePath ['.'] [name] = name := by
    simp [relativePath, Text.join_singleton]
  rw [added, List.filter_singleton, relative, chosen]
  rfl

theorem pathOf_not_mem_listed (named : (directory entries).Named) (isName : Path.IsName name)
    (absent : entries.lookup name = none) :
    pathOf ['.'] [name] ∉ listed includes ignores entries := by
  intro member
  obtain ⟨names, inEntries, same⟩ := mem_listed member
  have isNames := named.isName_of_mem_filesOfEntries inEntries
  have equal := Path.pathOf_injective Path.isPlace_here isNames isName.forall_mem_singleton same
  obtain ⟨entry, inside, below, _, whole⟩ := FileEntry.mem_filesOfEntries.mp inEntries
  rw [equal, List.cons.injEq] at whole
  have present := FileEntry.lookup_isSome_of_mem inside
  rw [← whole.1, absent] at present
  cases present

/-- One more chosen file in the directory is one more path, and it changes no other. -/
theorem ascending_listed_append (named : (directory entries).Named) (isName : Path.IsName name)
    (absent : entries.lookup name = none) (content : FileContent)
    (chosen : chooses (FileFilter.ofPatterns includes) (FileFilter.ofPatterns ignores) name) :
    pathOf ['.'] [name] ∈
        Text.ascending (listed includes ignores (entries ++ [(name, file content)])) ∧
      (Text.ascending (listed includes ignores (entries ++ [(name, file content)]))).filter
          (· != pathOf ['.'] [name]) =
        Text.ascending (listed includes ignores entries) := by
  rw [listed_append entries content chosen]
  constructor
  · rw [Text.mem_ascending]
    exact List.mem_append_right _ (.head _)
  · exact Text.filter_ascending_concat (pathOf_not_mem_listed named isName absent)

end FileSelection
end Traceability
