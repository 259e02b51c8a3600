import Mathlib.Data.Set.List
import Traceability.Proofs.Check.Repetition
import Traceability.Proofs.Issue.ProjectPairing

/-!
Duplicates between files.

A file passes on at most one tag of each kind and identifier, and the files are taken in ascending
order of their paths.  So where a tag finds its kind and identifier taken, the tag that is kept
comes from a file with a smaller path, and each file has at most one tag reported for a kind and
identifier.  A tag that is passed on is kept or reported, never both.
-/

namespace Traceability

def Issue.discards (occurrence : Occurrence) : Issue → Bool
  | duplicate later _ => later == occurrence
  | missing _ => false

namespace Occurrence

def sharedKey (occurrence : Occurrence) : Text × TagKind × Text :=
  (occurrence.filePath, occurrence.kind, occurrence.id)

/-- Tags of one kind and identifier come from files in ascending order of their paths. -/
def FilesAscend (occurrences : List Occurrence) : Prop :=
  occurrences.Pairwise fun earlier later => earlier.kind = later.kind → earlier.id = later.id →
    compare earlier.filePath later.filePath = .lt

variable {occurrences : List Occurrence}

theorem FilesAscend.nodup_sharedKey (ascend : FilesAscend occurrences) :
    (occurrences.map sharedKey).Nodup := by
  apply List.pairwise_map.mpr
  refine ascend.imp ?_
  intro earlier later before same
  obtain ⟨path, kind, id⟩ : earlier.filePath = later.filePath ∧ earlier.kind = later.kind ∧
      earlier.id = later.id := by
    simpa [sharedKey] using same
  exact Text.ne_of_lt (before kind id) path

theorem first?_of_mem_duplicates {later first : Occurrence}
    (member : .duplicate later first ∈ duplicates sameName occurrences) :
    first? occurrences later.kind later.id = some first := by
  obtain ⟨⟨item, index⟩, _, found⟩ := List.mem_filterMap.mp member
  obtain ⟨earlier, isEarlier, same⟩ := Option.map_eq_some_iff.mp found
  injection same with sameItem sameEarlier
  subst sameItem sameEarlier
  have whole : (occurrences.take index ++ occurrences.drop index).find?
      (fun earlier => sameName earlier item) = some earlier := by
    rw [List.find?_append, isEarlier, Option.some_or]
  rw [List.take_append_drop] at whole
  exact whole

theorem FilesAscend.lt_of_mem_duplicates (ascend : FilesAscend occurrences)
    {later first : Occurrence}
    (member : .duplicate later first ∈ duplicates sameName occurrences) :
    compare first.filePath later.filePath = .lt := by
  obtain ⟨_, kind, id⟩ := of_first?_eq_some (first?_of_mem_duplicates member)
  have before := sublist_of_mem_duplicates member
  exact List.pairwise_iff_forall_sublist.mp ascend before kind id

/-- Where no tag comes twice, one that is not the first of its name is a repeat, and only once. -/
theorem count_repeats {occurrence : Occurrence} (once : occurrences.Nodup)
    (member : occurrence ∈ occurrences) :
    (repeats occurrences).count occurrence =
      if first? occurrences occurrence.kind occurrence.id = some occurrence then 0 else 1 := by
  have whole := (perm_firsts_append_repeats occurrences).count_eq occurrence
  rw [List.count_append, List.count_eq_one_of_mem once member] at whole
  by_cases kept : occurrence ∈ firsts occurrences
  · have inFirsts := List.count_eq_one_of_mem (nodup_firsts occurrences) kept
    rw [if_pos (mem_firsts.mp kept)]
    omega
  · have notInFirsts := List.count_eq_zero.mpr kept
    rw [if_neg fun first => kept (mem_firsts.mpr first)]
    omega

end Occurrence

/-! ### What files pass on -/

theorem SharedScope.mem_occurrences_iff {scope : SharedScope} {occurrence : Occurrence} :
    occurrence ∈ scope.occurrences ↔
      ∃ kind id, (scope.get kind).get? id = some occurrence := by
  rw [SharedScope.occurrences, List.mem_append, TextTable.mem_values, TextTable.mem_values]
  constructor
  · rintro (⟨id, found⟩ | ⟨id, found⟩)
    · exact ⟨.require, id, found⟩
    · exact ⟨.satisfied, id, found⟩
  · rintro ⟨kind, id, found⟩
    cases kind with
    | require => exact .inl ⟨id, found⟩
    | satisfied => exact .inr ⟨id, found⟩

namespace ProjectPairing

open Occurrence (FilesAscend whereShared)

variable {files : List (Text × List Occurrence)}

theorem inOrder_ascending (distinct : (files.map (·.1)).Nodup) :
    (inOrder files).Pairwise fun left right => compare left.1 right.1 = .lt := by
  have sorted : (inOrder files).Pairwise fun left right => (compare left.1 right.1).isLE :=
    pairwise_mergeSort_isLE (compareOn fun file : Text × List Occurrence => file.1) files
  have apart : ((inOrder files).map (·.1)).Nodup :=
    ((List.mergeSort_perm _ _).map _).nodup_iff.mpr distinct
  refine (sorted.and (List.pairwise_map.mp apart)).imp ?_
  intro left right ordered
  exact Text.lt_of_isLE_of_ne ordered.1 ordered.2

theorem mem_passedOn {occurrence : Occurrence} : occurrence ∈ passedOn files ↔
    ∃ file ∈ files, occurrence ∈ (FilePairing.ofOccurrences file.2).sharedScope.occurrences := by
  simp only [passedOn, List.mem_flatMap, inOrder, List.mem_mergeSort]

theorem filesAscend_passedOn (distinct : (files.map (·.1)).Nodup)
    (own : ∀ file ∈ files, ∀ occurrence ∈ file.2, occurrence.filePath = file.1) :
    FilesAscend (passedOn files) := by
  have holds (file : Text × List Occurrence) := (FilePairing.after_routed file.2).sharedScope
  apply List.pairwise_flatMap.mpr
  constructor
  · -- Within a file no kind and identifier is passed on twice.
    intro file _
    have once : (FilePairing.ofOccurrences file.2).sharedScope.occurrences.Nodup :=
      (holds file).occurrences_perm.nodup_iff.mpr (Occurrence.nodup_firsts _)
    refine once.imp_of_mem ?_
    intro earlier later earlierMember laterMember different kind id
    have first := ((holds file).mem_occurrences earlier).mp earlierMember
    rw [kind, id, ((holds file).mem_occurrences later).mp laterMember] at first
    exact absurd (Option.some.inj first).symm different
  · -- The next file has a greater path.
    have ownPath {file : Text × List Occurrence} {occurrence : Occurrence}
        (inFiles : file ∈ inOrder files)
        (member : occurrence ∈ (FilePairing.ofOccurrences file.2).sharedScope.occurrences) :
        occurrence.filePath = file.1 := by
      have first := ((holds file).mem_occurrences occurrence).mp member
      have shared := (Occurrence.of_first?_eq_some first).1
      exact own file (List.mem_mergeSort.mp inFiles) occurrence (List.mem_of_mem_filter shared)
    refine (inOrder_ascending distinct).imp_of_mem ?_
    intro file other inFiles inOthers before earlier earlierMember later laterMember _ _
    rw [ownPath inFiles earlierMember, ownPath inOthers laterMember]
    exact before

theorem mem_duplicates_passedOn {later first : Occurrence}
    (member : .duplicate later first ∈ (ofFiles files).issues) :
    .duplicate later first ∈ Occurrence.duplicates Occurrence.sameName (passedOn files) := by
  rw [ofFiles_eq] at member
  exact Occurrence.mem_sortByLocation_iff.mp member

theorem first?_scope_ofFiles (files : List (Text × List Occurrence)) (kind : TagKind) (id : Text) :
    (ofFiles files).scope.first? kind id = Occurrence.first? (passedOn files) kind id := by
  rw [ofFiles_eq]
  exact (after_routed (passedOn files)).scope.first kind id

theorem nodup_sharedKey_duplicates (ascend : FilesAscend (passedOn files)) :
    (((ofFiles files).issues.filter Issue.isDuplicate).map
      fun issue => issue.location.sharedKey).Nodup := by
  have keys := ascend.nodup_sharedKey
  rw [((Occurrence.perm_firsts_append_repeats (passedOn files)).map _).nodup_iff,
    List.map_append] at keys
  have reported := ((duplicates_ofFiles_perm files).map Occurrence.sharedKey).nodup_iff.mpr
    keys.of_append_right
  rw [List.map_map] at reported
  exact reported

theorem countP_discards (occurrence : Occurrence) :
    (ofFiles files).issues.countP (·.discards occurrence) =
      (Occurrence.repeats (passedOn files)).count occurrence := by
  rw [← (duplicates_ofFiles_perm files).count_eq, List.count, List.countP_map, List.countP_filter]
  congr 1
  funext issue
  cases issue with
  | duplicate later first => exact (Bool.and_true _).symm
  | missing present => exact (Bool.and_false _).symm

end ProjectPairing

/-! ### Checks of files -/

namespace FileCheck

def IsResult (check : FileCheck) : Prop :=
  ∃ source filePath choice, FileCheck.ofSource source filePath choice = .ok check

/-- What the pairing of all files reports as duplicates, and what it keeps. -/
structure DuplicatesPointBack (checks : List FileCheck) : Prop where
  kept : ∀ later first, .duplicate later first ∈ (ProjectPairing.ofChecks checks).issues →
    (ProjectPairing.ofChecks checks).scope.first? later.kind later.id = some first
  backwards : ∀ later first, .duplicate later first ∈ (ProjectPairing.ofChecks checks).issues →
    compare first.filePath later.filePath = .lt
  once : (((ProjectPairing.ofChecks checks).issues.filter Issue.isDuplicate).map
    fun issue => issue.location.sharedKey).Nodup
  settled : ∀ check ∈ checks, ∀ kind id occurrence,
    (check.sharedScope.get kind).get? id = some occurrence →
    (ProjectPairing.ofChecks checks).issues.countP (·.discards occurrence) =
      if (ProjectPairing.ofChecks checks).scope.first? kind id = some occurrence then 0 else 1
  sorted : (ProjectPairing.ofChecks checks).issues.Pairwise
    fun left right => left.location.NotAfter right.location

abbrev Run := SourceFile × LanguageChoice

def ofRun (run : Run) : FileCheck :=
  run.1.checked run.2

def tagsOfRun (run : Run) : Text × List Occurrence :=
  (run.1.path, run.1.occurrences run.2)

theorem exists_runs {checks : List FileCheck} (results : ∀ check ∈ checks, check.IsResult) :
    ∃ runs : List Run, runs.map ofRun = checks := by
  have madeByRuns : checks ∈ Set.range (List.map ofRun) := by
    rw [Set.range_list_map]
    intro check member
    obtain ⟨source, filePath, choice, checked⟩ := results check member
    refine ⟨({ path := filePath, source }, choice), ?_⟩
    have result := SourceFile.check_eq choice { path := filePath, source }
    exact Except.ok.inj (result.symm.trans checked)
  exact madeByRuns

theorem ofChecks_ofRun (runs : List Run) :
    ProjectPairing.ofChecks (runs.map ofRun) = ProjectPairing.ofFiles (runs.map tagsOfRun) := by
  rw [ProjectPairing.ofChecks, ProjectPairing.ofFiles, List.map_map, List.map_map]
  rfl

/-- For files with different paths, a duplicate between files points back to a file with a smaller
path, at the tag that is kept, and every tag that is not kept is reported once.  The issues are
sorted by file, line and column. -/
theorem duplicates_point_back {checks : List FileCheck}
    (results : ∀ check ∈ checks, check.IsResult)
    (distinct : (checks.map (·.filePath)).Nodup) : DuplicatesPointBack checks := by
  obtain ⟨runs, rfl⟩ := exists_runs results
  have paths : ((runs.map tagsOfRun).map (·.1)).Nodup := by
    rw [List.map_map] at distinct ⊢
    exact distinct
  have own : ∀ file ∈ runs.map tagsOfRun, ∀ occurrence ∈ file.2, occurrence.filePath = file.1 := by
    intro file member occurrence
    obtain ⟨run, _, rfl⟩ := List.mem_map.mp member
    exact SourceFile.filePath_of_mem_occurrences
  have ascend := ProjectPairing.filesAscend_passedOn paths own
  constructor
  · intro later first member
    rw [ofChecks_ofRun] at member ⊢
    rw [ProjectPairing.first?_scope_ofFiles]
    exact Occurrence.first?_of_mem_duplicates (ProjectPairing.mem_duplicates_passedOn member)
  · intro later first member
    rw [ofChecks_ofRun] at member
    exact ascend.lt_of_mem_duplicates (ProjectPairing.mem_duplicates_passedOn member)
  · rw [ofChecks_ofRun]
    exact ProjectPairing.nodup_sharedKey_duplicates ascend
  · intro check member kind id occurrence found
    obtain ⟨run, inRuns, rfl⟩ := List.mem_map.mp member
    have passed : occurrence ∈ ProjectPairing.passedOn (runs.map tagsOfRun) :=
      ProjectPairing.mem_passedOn.mpr ⟨tagsOfRun run, List.mem_map_of_mem inRuns,
        SharedScope.mem_occurrences_iff.mpr ⟨kind, id, found⟩⟩
    have holds := (FilePairing.after_routed (run.1.occurrences run.2)).sharedScope kind id
    obtain ⟨_, rfl, rfl⟩ := Occurrence.of_first?_eq_some (holds.symm.trans found)
    rw [ofChecks_ofRun, ProjectPairing.countP_discards, ProjectPairing.first?_scope_ofFiles]
    exact Occurrence.count_repeats ascend.nodup_sharedKey.of_map passed
  · exact Issue.sortByLocation_ordered _

/-- Three files with the same requirement, not in the order of their paths.  One of them has it
twice, and its second one is no matter of the other files. -/
def threeRequirements : List FileCheck :=
  [{ path := "c.rs".toList, source := "// REQUIRE(api): login\n// REQUIRE(web): login".toList },
    { path := "a.rs".toList, source := "// REQUIRE(api): login".toList },
    { path := "b.rs".toList, source := "// REQUIRE(x): login\n// SATISFIED(x): y".toList }].map
      (SourceFile.checked .auto)

theorem duplicates_point_back_threeRequirements :
    (∀ check ∈ threeRequirements, check.IsResult) ∧
    (threeRequirements.map (·.filePath)).Nodup ∧ DuplicatesPointBack threeRequirements := by
  have results : ∀ check ∈ threeRequirements, check.IsResult := by
    intro check member
    obtain ⟨file, _, rfl⟩ := List.mem_map.mp member
    exact ⟨file.source, file.path, .auto, SourceFile.check_eq .auto file⟩
  have distinct : (threeRequirements.map (·.filePath)).Nodup := by decide
  exact ⟨results, distinct, duplicates_point_back results distinct⟩

end FileCheck
end Traceability
