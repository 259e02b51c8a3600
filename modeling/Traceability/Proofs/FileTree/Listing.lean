import Traceability.Project.FileSelection
import Traceability.Proofs.FileTree.Names

/-!
The files of a directory, and what one more entry changes.

A file is listed by the names that lead to it, and it is read by the path of these names.  An
entry that is added under a new name is listed last, and no path of another file
leads to something else for it.  The paths begin at the current directory, wherever it is in
its tree.
-/

namespace Traceability

namespace Path

variable {name root : Text} {names others : List Text}

theorem isPlace_here : IsPlace ['.'] := by
  constructor <;> decide

theorem ending?_of_isName (isName : IsName name) :
    ending? name = some { front := [], last := name, isOpen := false } := by
  have nonempty : name.isEmpty = false := by simpa using isName.ne_nil
  have closed : (name.getLast? == some '/') = false := by
    rw [beq_eq_false_iff_ne]
    intro last
    exact isName.single (List.mem_of_getLast? last)
  rw [ending?, segments_of_not_mem isName.single, List.reverse_singleton, List.dropWhile_cons,
    nonempty, closed]
  rfl

open FileSelection (pathOf)

theorem segments_pathOf (place : IsPlace root) (isNames : ∀ name ∈ names, IsName name) :
    segments (pathOf root names) = segments root ++ names := by
  induction names generalizing root with
  | nil => exact (List.append_nil _).symm
  | cons name rest ih =>
      have isName := isNames name (.head _)
      have further := ih (isName.isPlace.join root) fun other member =>
        isNames other (.tail _ member)
      rw [join_eq place, segments_append_separator, segments_of_not_mem isName.single,
        List.append_assoc] at further
      rw [pathOf, List.foldl_cons, join_eq place]
      exact further

theorem pathOf_injective (place : IsPlace root) (isNames : ∀ name ∈ names, IsName name)
    (otherNames : ∀ name ∈ others, IsName name) (same : pathOf root names = pathOf root others) :
    names = others := by
  have segments := congrArg segments same
  rw [segments_pathOf place isNames, segments_pathOf place otherNames] at segments
  exact List.append_cancel_left segments

end Path

namespace FileEntry

variable {entry root place : FileEntry} {entries : Entries} {name : Text} {names : List Text}

/-! ### Listing -/

theorem mem_filesOfEntries : names ∈ filesOfEntries entries ↔
    ∃ entry ∈ entries, ∃ below ∈ entry.2.filesBelow, names = entry.1 :: below := by
  induction entries with
  | nil => simp [filesOfEntries]
  | cons first others ih =>
      simp only [filesOfEntries, List.mem_append, List.mem_map, ih, List.mem_cons,
        exists_eq_or_imp, @eq_comm _ names]

theorem filesOfEntries_append (entries others : Entries) :
    filesOfEntries (entries ++ others) = filesOfEntries entries ++ filesOfEntries others := by
  induction entries with
  | nil => rw [filesOfEntries, List.nil_append, List.nil_append]
  | cons first rest ih =>
      rw [List.cons_append, filesOfEntries, filesOfEntries, ih, List.append_assoc]

theorem Named.isName_of_mem_filesBelow (named : entry.Named) (listed : names ∈ entry.filesBelow) :
    ∀ name ∈ names, Path.IsName name := by
  induction named generalizing names with
  | ofContent content =>
      rw [filesBelow, List.mem_singleton] at listed
      subst listed
      exact nofun
  | ofReading reading =>
      rw [filesBelow] at listed
      cases listed
  | ofEntries entries isNames inner ih =>
      rw [filesBelow] at listed
      obtain ⟨entry, member, below, inEntry, rfl⟩ := mem_filesOfEntries.mp listed
      intro name inNames
      rcases List.mem_cons.mp inNames with rfl | later
      · exact isNames entry member
      · exact ih entry member inEntry name later

theorem Named.isName_of_mem_filesOfEntries (named : (directory entries).Named)
    (listed : names ∈ filesOfEntries entries) : ∀ name ∈ names, Path.IsName name := by
  apply named.isName_of_mem_filesBelow
  rw [filesBelow]
  exact listed

theorem lookup_isSome_of_mem {entry : Text × FileEntry} (member : entry ∈ entries) :
    (entries.lookup entry.1).isSome := by
  rw [List.lookup_isSome_iff]
  exact ⟨entry, member, beq_self_eq_true _⟩

/-! ### From a place to another -/

theorem descend_append (entry : FileEntry) (front back : List Text) :
    entry.descend (front ++ back) = (entry.descend front).bind (·.descend back) := by
  fun_induction descend entry front with
  | case1 entry => rfl
  | case2 name names entries inner found ih =>
      rw [List.cons_append, descend, found]
      exact ih
  | case3 name names entries absent =>
      rw [List.cons_append, descend, absent]
      rfl
  | case4 entry name names noDirectory =>
      rw [List.cons_append, descend]
      · rfl
      · exact noDirectory

theorem enter_redundant {segment : Text} (reached : root.descend names = .ok (directory entries))
    (redundant : Path.isRedundant segment = true) : root.enter names segment = .ok names := by
  rw [enter, reached]
  exact if_pos redundant

theorem enter_name (reached : root.descend names = .ok place) (isName : Path.IsName name) :
    root.enter names name = (place.descend [name]).map fun _ => names ++ [name] := by
  rw [enter, reached]
  cases place with
  | file content => rfl
  | special reading => rfl
  | directory entries =>
      simp only [isName.not_redundant, isName.not_above, Bool.false_eq_true, if_false, descend]
      cases entries.lookup name <;> rfl

/-- Names lead from a place to the entry that they name below it. -/
theorem resolve_names {start : List Text} (reached : root.descend start = .ok place)
    (isNames : ∀ name ∈ names, Path.IsName name) :
    (root.resolve start names).bind root.descend = place.descend names := by
  induction names generalizing start place with
  | nil => exact reached
  | cons name rest ih =>
      have whole : place.descend (name :: rest) = (place.descend [name]).bind (·.descend rest) :=
        descend_append place [name] rest
      rw [resolve, List.foldlM_cons, enter_name reached (isNames name (.head _)), whole]
      cases step : place.descend [name] with
      | error error => rfl
      | ok inner =>
          have further : root.descend (start ++ [name]) = .ok inner := by
            rw [descend_append, reached]
            exact step
          exact ih further fun other member => isNames other (.tail _ member)

/-! ### One more entry -/

theorem setEntry_of_lookup_eq_none (absent : entries.lookup name = none) (entry : FileEntry) :
    setEntry name entry entries = entries ++ [(name, entry)] := by
  induction entries with
  | nil => rfl
  | cons first others ih =>
      obtain ⟨other, current⟩ := first
      rw [List.lookup_cons] at absent
      cases same : name == other with
      | true => rw [same] at absent; cases absent
      | false =>
          rw [same] at absent
          have different : (other == name) = false := by rw [BEq.comm, same]
          rw [setEntry, different, if_neg Bool.false_ne_true, ih absent, List.cons_append]

theorem writeEnding_new (isName : Path.IsName name)
    (short : name.byteLength ≤ maximalNameLength) (absent : entries.lookup name = none)
    (content : FileContent) :
    writeEnding content { front := [], last := name, isOpen := false } entries =
      .ok (entries ++ [(name, file content)]) := by
  simp only [writeEnding, isName.proper, absent, addEntry, absence, if_pos short,
    setEntry_of_lookup_eq_none absent, Bool.or_false, Bool.false_eq_true, if_false]

theorem lookup_setEntry (name : Text) (entry : FileEntry) (entries : Entries) :
    (setEntry name entry entries).lookup name = some entry := by
  induction entries with
  | nil => exact List.lookup_cons_self
  | cons first others ih =>
      obtain ⟨other, current⟩ := first
      rw [setEntry]
      cases same : other == name with
      | true => exact List.lookup_cons_self
      | false =>
          have different : (name == other) = false := by rw [BEq.comm, same]
          rw [if_neg Bool.false_ne_true, List.lookup_cons, different]
          exact ih

/-- Changing a directory leads to the changed one by the same names. -/
theorem exists_changeAt {change : Entries → Except AccessError Entries} {after : Entries}
    (reached : root.descend names = .ok (directory entries))
    (changed : change entries = .ok after) :
    ∃ other, root.changeAt change names = .ok other ∧
      other.descend names = .ok (directory after) := by
  fun_induction descend root names with
  | case1 root =>
      obtain rfl := Except.ok.inj reached
      exact ⟨_, by rw [changeAt, changed]; rfl, rfl⟩
  | case2 name names entries inner found ih =>
      obtain ⟨other, made, reached⟩ := ih reached
      refine ⟨_, by rw [changeAt, found]; exact congrArg (Except.map _) made, ?_⟩
      rw [descend, lookup_setEntry]
      exact reached
  | case3 => cases reached
  | case4 => cases reached

theorem descend_append_entries (present : (entries.lookup name).isSome) (others : Entries)
    (names : List Text) :
    (directory (entries ++ others)).descend (name :: names) =
      (directory entries).descend (name :: names) := by
  obtain ⟨entry, found⟩ := Option.isSome_iff_exists.mp present
  simp only [descend, List.lookup_append, found, Option.some_or]

theorem isOk_descend_name (name : Text) (entries : Entries) :
    ((directory entries).descend [name]).isOk = (entries.lookup name).isSome := by
  rw [descend]
  cases entries.lookup name <;> rfl

theorem lookup_append_of_none (absent : entries.lookup name = none) (entry : FileEntry) :
    (entries ++ [(name, entry)]).lookup name = some entry := by
  rw [List.lookup_append, absent, Option.none_or, List.lookup_cons_self]

end FileEntry

/-! ### The current directory -/

namespace FileTree

open FileEntry (Entries directory file filesOfEntries)
open FileSelection (pathOf)

/-- The current directory is there, and it has these entries. -/
def HasCurrent (tree : FileTree) (entries : Entries) : Prop :=
  tree.root.descend tree.current = .ok (directory entries)

variable {tree : FileTree} {entries : Entries} {name source : Text} {names : List Text}

theorem Named.ofCurrent (named : tree.Named) (inside : tree.HasCurrent entries) :
    (directory entries).Named :=
  FileEntry.Named.descend named inside

theorem origin_of_isName (isName : Path.IsName name) : tree.origin name = tree.current := by
  unfold origin
  split
  · exact absurd (.head _) isName.single
  · rfl

theorem get_name (inside : tree.HasCurrent entries) (isName : Path.IsName name)
    (allowed : refusal? name = none) : tree.get name = (directory entries).descend [name] := by
  rw [get, locate, allowed, origin_of_isName isName, Path.segments_of_not_mem isName.single]
  exact FileEntry.resolve_names inside isName.forall_mem_singleton

theorem get_pathOf (inside : tree.HasCurrent entries) (isNames : ∀ name ∈ names, Path.IsName name)
    (allowed : refusal? (pathOf ['.'] names) = none) :
    tree.get (pathOf ['.'] names) = (directory entries).descend names := by
  have segments : Path.segments (pathOf ['.'] names) = ['.'] :: names :=
    Path.segments_pathOf Path.isPlace_here isNames
  have relative : tree.origin (pathOf ['.'] names) = tree.current := by
    unfold origin
    split
    · rename_i path rest absolute
      rw [absolute, Path.segments, if_pos rfl] at segments
      cases segments
    · rfl
  have start : tree.root.resolve tree.current (['.'] :: names) =
      tree.root.resolve tree.current names := by
    rw [FileEntry.resolve, List.foldlM_cons, FileEntry.enter_redundant inside rfl]
    rfl
  rw [get, locate, allowed, relative, segments]
  exact (congrArg (Except.bind · _) start).trans (FileEntry.resolve_names inside isNames)

theorem get_here (inside : tree.HasCurrent entries) (isName : Path.IsName name)
    (allowed : refusal? (Path.join ['.'] name) = none) :
    tree.get (Path.join ['.'] name) = (directory entries).descend [name] :=
  get_pathOf inside isName.forall_mem_singleton allowed

theorem get_dot (inside : tree.HasCurrent entries) : tree.get ['.'] = .ok (directory entries) :=
  get_pathOf inside (List.forall_mem_nil _) rfl

theorem contains_name (inside : tree.HasCurrent entries) (isName : Path.IsName name)
    (allowed : refusal? name = none) : tree.contains name = (entries.lookup name).isSome := by
  rw [contains, get_name inside isName allowed, FileEntry.isOk_descend_name]

theorem contains_here (inside : tree.HasCurrent entries) (isName : Path.IsName name)
    (allowed : refusal? (Path.join ['.'] name) = none) :
    tree.contains (Path.join ['.'] name) = (entries.lookup name).isSome := by
  rw [contains, get_here inside isName allowed, FileEntry.isOk_descend_name]

theorem createFile_new (inside : tree.HasCurrent entries) (isName : Path.IsName name)
    (allowed : refusal? name = none) (short : name.byteLength ≤ maximalNameLength)
    (absent : entries.lookup name = none) (content : FileContent) :
    ∃ written, tree.createFile name content = .ok written ∧
      written.HasCurrent (entries ++ [(name, file content)]) := by
  have ending := Path.ending?_of_isName isName
  obtain ⟨root, made, reached⟩ :=
    FileEntry.exists_changeAt inside (FileEntry.writeEnding_new isName short absent content)
  refine ⟨{ tree with root }, ?_, reached⟩
  rw [createFile, changeEnding, allowed, ending, origin_of_isName isName]
  change tree.changeAt _ tree.current = _
  rw [changeAt, made]
  rfl

/-- The files that are listed are read as before when an entry is added. -/
theorem readText_pathOf {other : FileTree} {others : Entries} (named : tree.Named)
    (inside : tree.HasCurrent entries) (added : other.HasCurrent (entries ++ others))
    (listed : names ∈ filesOfEntries entries) :
    other.readText (pathOf ['.'] names) = tree.readText (pathOf ['.'] names) := by
  have isNames := (named.ofCurrent inside).isName_of_mem_filesOfEntries listed
  have same : other.get (pathOf ['.'] names) = tree.get (pathOf ['.'] names) := by
    cases allowed : refusal? (pathOf ['.'] names) with
    | some error =>
        rw [get, get, locate, locate, allowed]
        rfl
    | none =>
        obtain ⟨entry, member, below, inEntry, rfl⟩ := FileEntry.mem_filesOfEntries.mp listed
        rw [get_pathOf added isNames allowed, get_pathOf inside isNames allowed]
        exact FileEntry.descend_append_entries (FileEntry.lookup_isSome_of_mem member) others below
  rw [readText, readText, same]

theorem readText_new (inside : tree.HasCurrent (entries ++ [(name, file (.text source))]))
    (isName : Path.IsName name) (allowed : refusal? (Path.join ['.'] name) = none)
    (absent : entries.lookup name = none) :
    tree.readText (Path.join ['.'] name) = .ok source := by
  rw [readText, get_here inside isName allowed, FileEntry.descend,
    FileEntry.lookup_append_of_none absent]
  rfl

end FileTree
end Traceability
