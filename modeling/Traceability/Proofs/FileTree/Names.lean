import Mathlib.Data.List.Basic
import Mathlib.Data.List.Induction
import Traceability.Fault
import Traceability.FileTree.Change

/-!
The names in a tree of files.

A name has no separator, and as a segment it leads neither to its directory nor to the one above.
Every change of a tree takes its names from the segments of a path, so in a tree that was
made from the empty one by changes all entries are named so.  The path of such names has them
as its segments.
-/

namespace Traceability

namespace Path

/-! ### Segments -/

theorem segments_ne_nil (path : Text) : segments path ≠ [] := by
  cases path with
  | nil => exact List.cons_ne_nil _ _
  | cons c rest =>
      unfold segments
      split
      · exact List.cons_ne_nil _ _
      · split <;> exact List.cons_ne_nil _ _

theorem segments_cons_of_ne {c : Char} (different : c ≠ '/') (rest : Text) :
    ∃ first others, segments rest = first :: others ∧
      segments (c :: rest) = (c :: first) :: others := by
  obtain ⟨first, others, found⟩ := List.exists_cons_of_ne_nil (segments_ne_nil rest)
  refine ⟨first, others, found, ?_⟩
  rw [segments, if_neg different, found]

theorem segments_append_separator (front rest : Text) :
    segments (front ++ '/' :: rest) = segments front ++ segments rest := by
  induction front with
  | nil => rfl
  | cons c others ih =>
      rw [List.cons_append]
      by_cases separator : c = '/'
      · rw [segments, if_pos separator, ih, segments, if_pos separator, List.cons_append]
      · obtain ⟨first, later, found, whole⟩ := segments_cons_of_ne separator others
        rw [segments, if_neg separator, ih, found, whole, List.cons_append, List.cons_append]

theorem segments_of_not_mem {text : Text} (single : '/' ∉ text) : segments text = [text] := by
  induction text with
  | nil => rfl
  | cons c rest ih =>
      rw [List.mem_cons, not_or] at single
      rw [segments, if_neg (Ne.symm single.1), ih single.2]

theorem not_mem_of_mem_segments {path segment : Text} (member : segment ∈ segments path) :
    '/' ∉ segment := by
  induction path generalizing segment with
  | nil =>
      rw [List.mem_singleton.mp member]
      exact List.not_mem_nil
  | cons c rest ih =>
      by_cases separator : c = '/'
      · rw [segments, if_pos separator] at member
        rcases List.mem_cons.mp member with rfl | later
        · exact List.not_mem_nil
        · exact ih later
      · obtain ⟨first, others, found, whole⟩ := segments_cons_of_ne separator rest
        rw [found] at ih
        rw [whole] at member
        rcases List.mem_cons.mp member with rfl | later
        · rw [List.mem_cons, not_or]
          exact ⟨Ne.symm separator, ih (.head _)⟩
        · exact ih (.tail _ later)

/-! ### Names -/

structure IsName (text : Text) : Prop where
  proper : isReserved text = false
  single : '/' ∉ text

instance : DecidablePred IsName := fun text =>
  decidable_of_iff (isReserved text = false ∧ '/' ∉ text)
    ⟨fun ⟨proper, single⟩ => ⟨proper, single⟩, fun ⟨proper, single⟩ => ⟨proper, single⟩⟩

theorem IsName.ne_nil {text : Text} (name : IsName text) : text ≠ [] := by
  rintro rfl
  cases name.proper

theorem IsName.forall_mem_singleton {text : Text} (name : IsName text) :
    ∀ other ∈ [text], IsName other := by
  intro other member
  exact List.mem_singleton.mp member ▸ name

theorem IsName.not_redundant {text : Text} (name : IsName text) : isRedundant text = false :=
  (Bool.or_eq_false_iff.mp name.proper).1

theorem IsName.not_above {text : Text} (name : IsName text) : isAbove text = false :=
  (Bool.or_eq_false_iff.mp name.proper).2

theorem IsName.of_mem_segments {path segment : Text} (member : segment ∈ segments path)
    (proper : isReserved segment = false) : IsName segment :=
  ⟨proper, not_mem_of_mem_segments member⟩

theorem Ending.last_mem_segments {path : Text} {ending : Ending}
    (found : ending? path = some ending) : ending.last ∈ segments path := by
  unfold ending? at found
  split at found
  · cases found
  · rename_i last front trailing
    obtain rfl := Option.some.inj found
    have kept : last ∈ (segments path).reverse.dropWhile (·.isEmpty) := by
      rw [trailing]
      exact .head _
    exact List.mem_reverse.mp ((List.dropWhile_sublist _).mem kept)

theorem ancestors_of_parent {path front : Text} (isParent : parent? path = some front) :
    ancestors path = path :: ancestors front := by
  rw [ancestors]
  split
  · rename_i top
    rw [isParent] at top
    cases top
  · rename_i other found
    rw [isParent] at found
    rw [Option.some.inj found]

theorem ancestors_of_no_parent {path : Text} (top : parent? path = none) :
    ancestors path = [path] := by
  rw [ancestors]
  split
  · rfl
  · rename_i front found
    rw [top] at found
    cases found

/-- A place that a name can be added to with a separator. -/
def IsPlace (directory : Text) : Prop :=
  directory ≠ [] ∧ directory.getLast? ≠ some '/'

theorem join_eq {directory : Text} (place : IsPlace directory) (name : Text) :
    join directory name = directory ++ '/' :: name := by
  have nonempty : directory.isEmpty = false := by simpa using place.1
  have ended : (directory.getLast? == some '/') = false := by simpa using place.2
  rw [join, nonempty, ended]
  rfl

theorem IsName.isPlace {text : Text} (name : IsName text) : IsPlace text := by
  refine ⟨name.ne_nil, ?_⟩
  intro last
  exact name.single (List.mem_of_getLast? last)

theorem IsPlace.append {place : Text} (isPlace : IsPlace place) (front : Text) :
    IsPlace (front ++ place) := by
  refine ⟨List.append_ne_nil_of_right_ne_nil _ isPlace.1, ?_⟩
  rw [List.getLast?_append_of_ne_nil _ isPlace.1]
  exact isPlace.2

theorem IsPlace.join {place : Text} (isPlace : IsPlace place) (directory : Text) :
    IsPlace (Path.join directory place) := by
  unfold Path.join
  split
  · exact isPlace
  · split
    · exact isPlace.append directory
    · rw [List.append_cons]
      exact isPlace.append _

end Path

namespace FileEntry

/-! ### Trees of names -/

/-- An entry that has nothing below it but entries with names. -/
inductive Named : FileEntry → Prop
  | ofContent (content : FileContent) : Named (file content)
  | ofReading (reading : Except AccessError Text) : Named (special reading)
  | ofEntries (entries : Entries) (names : ∀ entry ∈ entries, Path.IsName entry.1)
      (inner : ∀ entry ∈ entries, Named entry.2) : Named (directory entries)

variable {entry changed : FileEntry} {entries : Entries} {name : Text}

theorem Named.names (named : (directory entries).Named) :
    ∀ entry ∈ entries, Path.IsName entry.1 := by
  cases named with
  | ofEntries _ names _ => exact names

theorem Named.inner (named : (directory entries).Named) : ∀ entry ∈ entries, Named entry.2 := by
  cases named with
  | ofEntries _ _ inner => exact inner

theorem named_nil : (directory []).Named := by
  constructor <;> simp

theorem Named.cons (others : (directory entries).Named)
    (isName : Path.IsName name) (entryNamed : entry.Named) :
    (directory ((name, entry) :: entries)).Named := by
  constructor
  · exact List.forall_mem_cons.mpr ⟨isName, others.names⟩
  · exact List.forall_mem_cons.mpr ⟨entryNamed, others.inner⟩

theorem mem_of_lookup (found : entries.lookup name = some entry) :
    (name, entry) ∈ entries := by
  induction entries with
  | nil => cases found
  | cons first others ih =>
      obtain ⟨other, current⟩ := first
      rw [List.lookup_cons] at found
      split at found
      · rename_i same
        obtain rfl := Option.some.inj found
        rw [eq_of_beq same]
        exact .head _
      · exact .tail _ (ih found)

theorem eq_or_mem_of_mem_setEntry {other : Text × FileEntry}
    (member : other ∈ setEntry name entry entries) : other = (name, entry) ∨ other ∈ entries := by
  induction entries with
  | nil => exact .inl (List.mem_singleton.mp member)
  | cons first others ih =>
      unfold setEntry at member
      split at member
      · rcases List.mem_cons.mp member with same | later
        · exact .inl same
        · exact .inr (.tail _ later)
      · rcases List.mem_cons.mp member with same | later
        · exact .inr (same ▸ .head _)
        · exact (ih later).imp_right (.tail _)

theorem Named.setEntry (named : (directory entries).Named)
    (isName : Path.IsName name) (entryNamed : entry.Named) :
    (directory (setEntry name entry entries)).Named := by
  constructor
  · intro other member
    rcases eq_or_mem_of_mem_setEntry member with rfl | inside
    · exact isName
    · exact named.names other inside
  · intro other member
    rcases eq_or_mem_of_mem_setEntry member with rfl | inside
    · exact entryNamed
    · exact named.inner other inside

theorem Named.filter (named : (directory entries).Named) (keep : Text × FileEntry → Bool) :
    (directory (entries.filter keep)).Named := by
  constructor
  · intro entry member
    exact named.names entry (List.mem_filter.mp member).1
  · intro entry member
    exact named.inner entry (List.mem_filter.mp member).1

theorem Named.descend {names : List Text} {inside : FileEntry} (named : entry.Named)
    (found : entry.descend names = .ok inside) : inside.Named := by
  fun_induction FileEntry.descend entry names with
  | case1 entry => exact Except.ok.inj found ▸ named
  | case2 name names entries inner isEntry ih =>
      exact ih (named.inner _ (mem_of_lookup isEntry)) found
  | case3 => cases found
  | case4 => cases found

/-- What keeps the names of one directory keeps those of the entries around it. -/
theorem Named.changeAt {change : Entries → Except AccessError Entries}
    (keeps : ∀ entries after, (directory entries).Named → change entries = .ok after →
      (directory after).Named) {names : List Text} (named : entry.Named)
    (done : entry.changeAt change names = .ok changed) : changed.Named := by
  fun_induction FileEntry.changeAt change names entry generalizing changed with
  | case1 entries =>
      obtain ⟨after, made, rfl⟩ := exists_of_map_eq_ok done
      exact keeps entries after named made
  | case2 name names entries entry found ih =>
      have member := mem_of_lookup found
      obtain ⟨entryChanged, made, rfl⟩ := exists_of_map_eq_ok done
      apply named.setEntry (named.names _ member)
      exact ih (named.inner _ member) made
  | case3 => cases done
  | case4 => cases done

theorem Named.addEntry {after : Entries} (named : (directory entries).Named)
    (isName : Path.IsName name) (entryNamed : entry.Named)
    (added : FileEntry.addEntry name entry entries = .ok after) : (directory after).Named := by
  unfold FileEntry.addEntry at added
  split at added
  · obtain rfl := Except.ok.inj added
    exact named.setEntry isName entryNamed
  · cases added

end FileEntry

namespace FileTree

open FileEntry (Entries directory file)

def Named (tree : FileTree) : Prop :=
  tree.root.Named

variable {tree changed : FileTree}

theorem Named.changeAt {change : Entries → Except AccessError Entries}
    (keeps : ∀ entries after, (directory entries).Named → change entries = .ok after →
      (directory after).Named) {names : List Text} (named : tree.Named)
    (done : tree.changeAt change names = .ok changed) : changed.Named := by
  obtain ⟨root, made, rfl⟩ := exists_of_map_eq_ok done
  exact FileEntry.Named.changeAt keeps named made

theorem Named.changeEnding {path : Text}
    {change : Path.Ending → Entries → Except AccessError Entries}
    (keeps : ∀ ending, Path.ending? path = some ending → ∀ entries after,
      (directory entries).Named → change ending entries = .ok after → (directory after).Named)
    (named : tree.Named) (done : tree.changeEnding path change = .ok changed) : changed.Named := by
  unfold FileTree.changeEnding at done
  split at done
  · cases done
  · rename_i ending _ found
    obtain ⟨names, _, made⟩ := exists_of_bind_eq_ok done
    exact named.changeAt (keeps ending found) made
  · cases done

/-! ### Changes -/

variable {path : Text} {content : FileContent}

theorem Named.createDirectory (named : tree.Named)
    (done : tree.createDirectory path = .ok changed) : changed.Named := by
  refine named.changeEnding ?_ done
  intro ending found entries after entriesNamed made
  unfold FileEntry.makeEnding at made
  split at made
  · cases made
  · rename_i free
    rw [Bool.or_eq_true, not_or, Bool.not_eq_true] at free
    exact entriesNamed.addEntry (.of_mem_segments (Path.Ending.last_mem_segments found) free.1)
      FileEntry.named_nil made

theorem Named.createFile (named : tree.Named)
    (done : tree.createFile path content = .ok changed) : changed.Named := by
  refine named.changeEnding ?_ done
  intro ending found entries after entriesNamed made
  unfold FileEntry.writeEnding at made
  split at made
  · cases made
  · rename_i proper
    rw [Bool.or_eq_true, not_or, Bool.not_eq_true] at proper
    have isName : Path.IsName ending.last :=
      .of_mem_segments (Path.Ending.last_mem_segments found) proper.1
    split at made
    · cases made
    · exact Except.ok.inj made ▸ entriesNamed
    · obtain rfl := Except.ok.inj made
      exact entriesNamed.setEntry isName (.ofContent content)
    · exact entriesNamed.addEntry isName (.ofContent content) made

theorem Named.removeEntry (named : tree.Named) (done : tree.removeEntry path = .ok changed) :
    changed.Named := by
  refine named.changeEnding ?_ done
  intro ending found entries after entriesNamed made
  unfold FileEntry.removeEnding at made
  split at made
  · cases made
  · split at made
    · obtain rfl := Except.ok.inj made
      exact entriesNamed.filter _
    · cases made

theorem Named.single {result : Except AccessError FileTree} (named : tree.Named)
    (keeps : ∀ changed, result = .ok changed → changed.Named) :
    (Change.single tree result).tree.Named := by
  cases result with
  | error error => exact named
  | ok changed => exact keeps changed rfl

theorem Named.followedBy {first : Change} {next : FileTree → Except AccessError FileTree}
    (named : first.tree.Named)
    (keeps : ∀ changed, next first.tree = .ok changed → changed.Named) :
    (first.followedBy next).tree.Named := by
  unfold Change.followedBy
  split
  · exact named.single keeps
  · exact named

theorem Named.ensureDirectory (named : tree.Named)
    (done : tree.ensureDirectory path = .ok changed) : changed.Named := by
  unfold FileTree.ensureDirectory at done
  split at done
  · rename_i made
    exact Except.ok.inj done ▸ named.createDirectory made
  · split at done
    · exact Except.ok.inj done ▸ named
    · cases done

theorem Named.makeDirectories (named : tree.Named) (paths : List Text) :
    (tree.makeDirectories paths).tree.Named := by
  induction paths with
  | nil => exact named
  | cons path around ih =>
      unfold FileTree.makeDirectories
      split
      · exact named
      · split
        · exact ih.followedBy fun _ => ih.ensureDirectory
        · exact named.single fun _ => named.ensureDirectory

theorem Named.makeDirectory (named : tree.Named) (path : Text) :
    (tree.makeDirectory path).tree.Named :=
  named.makeDirectories _

theorem Named.writeFile (named : tree.Named) (path : Text) (content : FileContent) :
    (tree.writeFile path content).tree.Named :=
  (named.makeDirectory _).followedBy fun _ => (named.makeDirectory _).createFile

theorem Named.remove (named : tree.Named) (path : Text) : (tree.remove path).tree.Named := by
  unfold FileTree.remove
  split
  · exact named
  · split
    · refine Named.followedBy ?_ nofun
      refine named.single fun changed => named.changeAt ?_
      intro entries after _ emptied
      exact Except.ok.inj emptied ▸ FileEntry.named_nil
    · exact named.single fun changed => named.removeEntry

/-! ### Trees that are made by changes -/

inductive Edit
  | makeDirectory (path : Text)
  | writeFile (path : Text) (content : FileContent)
  | remove (path : Text)

/-- What is left of a tree by a change, whether it ended early or not. -/
def edit (tree : FileTree) : Edit → FileTree
  | .makeDirectory path => (tree.makeDirectory path).tree
  | .writeFile path content => (tree.writeFile path content).tree
  | .remove path => (tree.remove path).tree

theorem Named.edit (named : tree.Named) (edit : Edit) : (tree.edit edit).Named := by
  cases edit with
  | makeDirectory path => exact named.makeDirectory path
  | writeFile path content => exact named.writeFile path content
  | remove path => exact named.remove path

theorem named_of_edits (edits : List Edit) : (edits.foldl FileTree.edit empty).Named := by
  induction edits using List.reverseRecOn with
  | nil => exact FileEntry.named_nil
  | append_singleton earlier edit ih =>
      rw [List.foldl_append]
      exact ih.edit edit

end FileTree
end Traceability
