import Mathlib.Data.List.Perm.Basic
import Traceability.Proofs.Issue.FilePairing

/-!
Pairing what all files share, in two tiers.

Each file drops its own later tags before all files are paired.  What a file passes on are
the first ones among its shared tags (`SharedScope.Holds.occurrences_perm`), so both tiers
together keep the same tags as one pass over the shared tags of all files, and they report
the others once each.
-/

namespace Traceability
namespace Occurrence

/-- The tags without an earlier one of their kind and identifier. -/
def firsts (occurrences : List Occurrence) : List Occurrence :=
  occurrences.zipIdx.filterMap fun (occurrence, index) =>
    if (first? (occurrences.take index) occurrence.kind occurrence.id).isSome then none
    else some occurrence

/-- The tags with an earlier one of their kind and identifier. -/
def repeats (occurrences : List Occurrence) : List Occurrence :=
  (duplicates sameName occurrences).map Issue.location

variable {occurrences others : List Occurrence} {occurrence : Occurrence} {kind : TagKind}
  {id : Text}

private theorem firsts_concat (occurrences : List Occurrence) (occurrence : Occurrence) :
    firsts (occurrences ++ [occurrence]) =
      firsts occurrences ++
        if (first? occurrences occurrence.kind occurrence.id).isSome then [] else [occurrence] := by
  have judged := filterMap_zipIdx_concat (fun seen (later : Occurrence) =>
    if (first? seen later.kind later.id).isSome then none else some later) occurrences occurrence
  refine judged.trans ?_
  congr 1
  cases first? occurrences occurrence.kind occurrence.id <;> rfl

private theorem repeats_concat (occurrences : List Occurrence) (occurrence : Occurrence) :
    repeats (occurrences ++ [occurrence]) =
      repeats occurrences ++
        if (first? occurrences occurrence.kind occurrence.id).isSome then [occurrence] else [] := by
  rw [repeats, duplicates_concat, List.map_append, repeats]
  congr 1
  change List.map _ ((first? occurrences occurrence.kind occurrence.id).map _).toList = _
  cases first? occurrences occurrence.kind occurrence.id <;> rfl

theorem perm_firsts_append_repeats (occurrences : List Occurrence) :
    occurrences.Perm (firsts occurrences ++ repeats occurrences) := by
  induction occurrences using List.reverseRecOn with
  | nil => exact .refl _
  | append_singleton seen occurrence ih =>
      rw [firsts_concat, repeats_concat]
      have added := ih.append_right [occurrence]
      split
      · rw [List.append_nil, ← List.append_assoc]
        exact added
      · rw [List.append_nil, List.append_assoc]
        rw [List.append_assoc] at added
        exact added.trans (List.perm_append_comm.append_left _)

theorem mem_firsts : occurrence ∈ firsts occurrences ↔
    first? occurrences occurrence.kind occurrence.id = some occurrence := by
  induction occurrences using List.reverseRecOn with
  | nil => simp [firsts, first?]
  | append_singleton seen added ih =>
      rw [firsts_concat, List.mem_append, ih]
      cases known : first? seen added.kind added.id with
      | some first =>
          rw [first?_concat_of_known known, Option.isSome_some, if_pos rfl]
          exact or_iff_left List.not_mem_nil
      | none =>
          rw [first?_concat_of_new known, Option.isSome_none, if_neg Bool.false_ne_true,
            List.mem_singleton]
          by_cases same : added.kind = occurrence.kind ∧ added.id = occurrence.id
          · rw [if_pos same, ← same.1, ← same.2, known, Option.some_inj]
            exact (or_iff_right (Option.some_ne_none occurrence).symm).trans eq_comm
          · rw [if_neg same]
            refine or_iff_left ?_
            rintro rfl
            exact same ⟨rfl, rfl⟩

theorem nodup_firsts (occurrences : List Occurrence) : (firsts occurrences).Nodup := by
  induction occurrences using List.reverseRecOn with
  | nil => exact .nil
  | append_singleton seen occurrence ih =>
      rw [firsts_concat]
      cases known : first? seen occurrence.kind occurrence.id with
      | some first => simpa using ih
      | none =>
          rw [Option.isSome_none, if_neg Bool.false_ne_true, ← List.concat_eq_append]
          refine ih.concat ?_
          intro member
          rw [mem_firsts, known] at member
          cases member

theorem firsts_perm_of_first?_eq
    (same : ∀ kind id, first? occurrences kind id = first? others kind id) :
    (firsts occurrences).Perm (firsts others) := by
  rw [List.perm_ext_iff_of_nodup (nodup_firsts _) (nodup_firsts _)]
  intro occurrence
  rw [mem_firsts, mem_firsts, same]

theorem isSome_first?_iff : (first? occurrences kind id).isSome ↔
    ∃ occurrence ∈ occurrences, occurrence.kind = kind ∧ occurrence.id = id := by
  simp only [first?, List.find?_isSome, Bool.and_eq_true, beq_iff_eq]

theorem mem_map_id_iff : id ∈ occurrences.map (·.id) ↔
    ∃ kind, (first? occurrences kind id).isSome := by
  simp only [List.mem_map, isSome_first?_iff]
  constructor
  · rintro ⟨occurrence, member, same⟩
    exact ⟨occurrence.kind, occurrence, member, rfl, same⟩
  · rintro ⟨_, occurrence, member, _, same⟩
    exact ⟨occurrence, member, same⟩

theorem ids_eq_of_first?_eq
    (same : ∀ kind id, first? occurrences kind id = first? others kind id) :
    ids occurrences = ids others := by
  apply Text.ascending_eq_of_mem_iff
  intro id
  simp only [mem_map_id_iff, same]

theorem unpaired_eq_of_first?_eq
    (same : ∀ kind id, first? occurrences kind id = first? others kind id) :
    unpaired occurrences = unpaired others := by
  simp only [unpaired, ids_eq_of_first?_eq same, same]

/-- The first ones alone answer like all tags. -/
theorem first?_eq_of_mem_iff
    (kept : ∀ occurrence, occurrence ∈ others ↔
      first? occurrences occurrence.kind occurrence.id = some occurrence)
    (kind : TagKind) (id : Text) : first? others kind id = first? occurrences kind id := by
  have known {occurrence : Occurrence} (found : first? others kind id = some occurrence) :
      first? occurrences kind id = some occurrence := by
    obtain ⟨member, rfl, rfl⟩ := of_first?_eq_some found
    exact (kept occurrence).mp member
  cases asked : first? others kind id with
  | some occurrence => exact (known asked).symm
  | none =>
      cases found : first? occurrences kind id with
      | none => rfl
      | some first =>
          obtain ⟨_, rfl, rfl⟩ := of_first?_eq_some found
          have absent := List.find?_eq_none.mp asked first ((kept first).mpr found)
          simp at absent

end Occurrence

namespace SharedScope

variable {scope : SharedScope} {occurrences : List Occurrence}

private theorem Holds.mem_values (holds : scope.Holds occurrences) (kind : TagKind)
    (occurrence : Occurrence) : occurrence ∈ (scope.get kind).values ↔
      occurrence.kind = kind ∧
        Occurrence.first? occurrences occurrence.kind occurrence.id = some occurrence := by
  simp only [TextTable.mem_values, holds kind]
  constructor
  · rintro ⟨id, found⟩
    obtain ⟨_, rfl, rfl⟩ := Occurrence.of_first?_eq_some found
    exact ⟨rfl, found⟩
  · rintro ⟨rfl, found⟩
    exact ⟨occurrence.id, found⟩

private theorem Holds.nodup_values (holds : scope.Holds occurrences) (kind : TagKind) :
    (scope.get kind).values.Nodup := by
  apply TextTable.nodup_values Occurrence.id
  intro id occurrence found
  rw [holds kind id] at found
  exact (Occurrence.of_first?_eq_some found).2.2

theorem Holds.mem_occurrences (holds : scope.Holds occurrences) (occurrence : Occurrence) :
    occurrence ∈ scope.occurrences ↔
      Occurrence.first? occurrences occurrence.kind occurrence.id = some occurrence := by
  rw [SharedScope.occurrences, List.mem_append]
  change occurrence ∈ (scope.get .require).values ∨ occurrence ∈ (scope.get .satisfied).values ↔ _
  rw [holds.mem_values, holds.mem_values, ← or_and_right]
  apply and_iff_right
  cases occurrence.kind with
  | require => exact .inl rfl
  | satisfied => exact .inr rfl

theorem Holds.occurrences_perm (holds : scope.Holds occurrences) :
    scope.occurrences.Perm (Occurrence.firsts occurrences) := by
  have once : scope.occurrences.Nodup := by
    refine List.nodup_append'.mpr ⟨holds.nodup_values .require, holds.nodup_values .satisfied, ?_⟩
    intro occurrence requirement satisfaction
    have isRequire := ((holds.mem_values .require occurrence).mp requirement).1
    have isSatisfied := ((holds.mem_values .satisfied occurrence).mp satisfaction).1
    rw [isRequire] at isSatisfied
    cases isSatisfied
  rw [List.perm_ext_iff_of_nodup once (Occurrence.nodup_firsts _)]
  intro occurrence
  rw [holds.mem_occurrences, Occurrence.mem_firsts]

end SharedScope

/-! ### What a file reports -/

/-- A tag of those shared between files that is not the first of its kind and identifier. -/
def Issue.isSharedDuplicate (issue : Issue) : Bool :=
  issue.isDuplicate && issue.location.tag.isShared

namespace Occurrence

section

variable (sameClass : Occurrence → Occurrence → Bool) (occurrences others : List Occurrence)

theorem filter_isDuplicate :
    (duplicates sameClass occurrences ++ unpaired others).filter Issue.isDuplicate =
      duplicates sameClass occurrences := by
  have kept : (duplicates sameClass occurrences).filter Issue.isDuplicate =
      duplicates sameClass occurrences :=
    List.filter_eq_self.mpr fun _ => isDuplicate_of_mem_duplicates
  have dropped : (unpaired others).filter Issue.isDuplicate = [] := by
    rw [List.filter_eq_nil_iff]
    intro issue member
    rw [isDuplicate_of_mem_unpaired member]
    exact Bool.false_ne_true
  rw [List.filter_append, kept, dropped, List.append_nil]

theorem filter_not_isDuplicate :
    (duplicates sameClass occurrences ++ unpaired others).filter (!·.isDuplicate) =
      unpaired others := by
  have dropped : (duplicates sameClass occurrences).filter (!·.isDuplicate) = [] := by
    rw [List.filter_eq_nil_iff]
    intro issue member
    rw [isDuplicate_of_mem_duplicates member]
    exact Bool.false_ne_true
  have kept : (unpaired others).filter (!·.isDuplicate) = unpaired others := by
    rw [List.filter_eq_self]
    intro issue member
    rw [isDuplicate_of_mem_unpaired member, Bool.not_false]
  rw [List.filter_append, dropped, kept, List.nil_append]

end

theorem filter_duplicates (occurrences : List Occurrence) :
    (duplicates sameClass occurrences).filter Issue.isSharedDuplicate =
      duplicates sameName (whereShared true occurrences) := by
  induction occurrences using List.reverseRecOn with
  | nil => rfl
  | append_singleton seen occurrence ih =>
      rw [duplicates_concat, List.filter_append, ih]
      cases side : occurrence.tag.isShared with
      | true =>
          rw [whereShared_concat_same seen side, duplicates_concat,
            ← first?_whereShared seen side]
          congr 1
          change _ = ((first? _ occurrence.kind occurrence.id).map _).toList
          cases first? (whereShared true seen) occurrence.kind occurrence.id with
          | none => rfl
          | some first => simp [Issue.isSharedDuplicate, Issue.isDuplicate, Issue.location, side]
      | false =>
          have other : occurrence.tag.isShared ≠ true := by rw [side]; decide
          rw [whereShared_concat_other seen other]
          apply List.append_right_eq_self.mpr
          cases seen.find? fun earlier => sameClass earlier occurrence with
          | none => rfl
          | some first => simp [Issue.isSharedDuplicate, Issue.isDuplicate, Issue.location, side]

end Occurrence

namespace FilePairing

open Occurrence (whereShared sameClass duplicates unpaired repeats)

/-- A file reports the later ones among its shared tags. -/
theorem sharedDuplicates_perm (occurrences : List Occurrence) :
    (((ofOccurrences occurrences).issues.filter Issue.isSharedDuplicate).map Issue.location).Perm
      (repeats (whereShared true occurrences)) := by
  have dropped : (unpaired (whereShared false occurrences)).filter
      Issue.isSharedDuplicate = [] := by
    rw [List.filter_eq_nil_iff]
    intro issue member
    simp [Issue.isSharedDuplicate, Occurrence.isDuplicate_of_mem_unpaired member]
  rw [issues_ofOccurrences, repeats, ← Occurrence.filter_duplicates]
  refine (((stableSort_perm _ _).filter _).map _).trans ?_
  rw [List.filter_append, dropped, List.append_nil]

end FilePairing

/-! ### One pass -/

namespace ProjectPairing

open Occurrence (whereShared sameName sameClass duplicates unpaired firsts repeats)
open scoped List

structure After (current : ProjectPairing) (seen : List Occurrence) : Prop where
  scope : current.scope.Holds seen
  issues : current.issues = duplicates sameName seen

theorem After.route {current : ProjectPairing} {seen : List Occurrence}
    (after : current.After seen) (occurrence : Occurrence) :
    (current.route occurrence).After (seen ++ [occurrence]) := by
  obtain ⟨holds, issue⟩ := after.scope.record occurrence
  refine ⟨holds, ?_⟩
  rw [Occurrence.duplicates_concat, ← after.issues]
  simp only [ProjectPairing.route, issue]
  rfl

theorem after_routed (occurrences : List Occurrence) :
    (occurrences.foldl ProjectPairing.route {}).After occurrences := by
  induction occurrences using List.reverseRecOn with
  | nil => exact ⟨Scope.holds_empty, rfl⟩
  | append_singleton seen occurrence ih =>
      rw [List.foldl_append]
      exact ih.route occurrence

/-! ### Two tiers -/

/-- Files with their tags, in ascending order of their paths. -/
def inOrder (files : List (Text × List Occurrence)) : List (Text × List Occurrence) :=
  files.mergeSort fun left right => (compare left.1 right.1).isLE

/-- The shared tags of all files, file by file in ascending order of their paths. -/
def sharedTags (files : List (Text × List Occurrence)) : List Occurrence :=
  (inOrder files).flatMap fun file => whereShared true file.2

theorem sharedTags_perm (files : List (Text × List Occurrence)) :
    (sharedTags files).Perm (files.flatMap fun file => whereShared true file.2) :=
  (List.mergeSort_perm _ _).flatMap_right _

/-- Pairs the tags of each file and then what all files share. -/
def ofFiles (files : List (Text × List Occurrence)) : ProjectPairing :=
  .ofScopes (files.map fun file => (file.1, (FilePairing.ofOccurrences file.2).sharedScope))

def passedOn (files : List (Text × List Occurrence)) : List Occurrence :=
  (inOrder files).flatMap fun file => (FilePairing.ofOccurrences file.2).sharedScope.occurrences

theorem sortByName_map (files : List (Text × List Occurrence))
    (scopeOf : Text × List Occurrence → SharedScope) :
    sortByName (files.map fun file => (file.1, scopeOf file)) =
      (inOrder files).map fun file => (file.1, scopeOf file) := by
  refine (stableSort_isLE (compareOn fun scope : Text × SharedScope => scope.1) _).trans ?_
  symm
  exact List.map_mergeSort fun _ _ _ _ => rfl

theorem first?_passedOn (files : List (Text × List Occurrence)) (kind : TagKind) (id : Text) :
    Occurrence.first? (passedOn files) kind id = Occurrence.first? (sharedTags files) kind id := by
  rw [Occurrence.first?, Occurrence.first?, passedOn, sharedTags, List.find?_flatMap,
    List.find?_flatMap]
  congr 1
  funext file
  have holds := (FilePairing.after_routed file.2).sharedScope
  exact Occurrence.first?_eq_of_mem_iff holds.mem_occurrences kind id

theorem ofFiles_eq (files : List (Text × List Occurrence)) :
    ofFiles files =
      { scope := ((passedOn files).foldl ProjectPairing.route {}).scope
        issues := Issue.sortByLocation
          (duplicates sameName (passedOn files) ++ unpaired (sharedTags files)) } := by
  have after := after_routed (passedOn files)
  rw [ofFiles, ofScopes, sortByName_map, List.flatMap_map]
  change ({ scope := _, issues := Issue.sortByLocation (_ ++ _) } : ProjectPairing) = _
  rw [← after.issues, ← Occurrence.unpaired_eq_of_first?_eq (first?_passedOn files),
    ← after.scope.missing]
  rfl

/-- What the files drop and what the pairing of all files drops are the later ones among all
shared tags. -/
theorem repeats_sharedTags (files : List (Text × List Occurrence)) :
    (repeats (sharedTags files)).Perm
      ((inOrder files).flatMap (fun file => repeats (whereShared true file.2)) ++
        repeats (passedOn files)) := by
  have perFile : (sharedTags files).Perm
      (passedOn files ++
        (inOrder files).flatMap fun file => repeats (whereShared true file.2)) := by
    refine (List.Perm.flatMap_left _ ?_).trans (List.flatMap_append_perm _ _ _).symm
    intro file _
    have holds := (FilePairing.after_routed file.2).sharedScope
    exact (Occurrence.perm_firsts_append_repeats _).trans
      (holds.occurrences_perm.symm.append_right _)
  have sameFirsts : (firsts (passedOn files)).Perm (firsts (sharedTags files)) :=
    Occurrence.firsts_perm_of_first?_eq (first?_passedOn files)
  have whole : (firsts (sharedTags files) ++ repeats (sharedTags files)).Perm
      (firsts (sharedTags files) ++ (repeats (passedOn files) ++
        (inOrder files).flatMap fun file => repeats (whereShared true file.2))) := by
    calc firsts (sharedTags files) ++ repeats (sharedTags files)
      _ ~ sharedTags files := (Occurrence.perm_firsts_append_repeats _).symm
      _ ~ passedOn files ++ (inOrder files).flatMap fun file =>
            repeats (whereShared true file.2) := perFile
      _ ~ (firsts (passedOn files) ++ repeats (passedOn files)) ++ (inOrder files).flatMap
            fun file => repeats (whereShared true file.2) :=
          (Occurrence.perm_firsts_append_repeats _).append_right _
      _ ~ (firsts (sharedTags files) ++ repeats (passedOn files)) ++ (inOrder files).flatMap
            fun file => repeats (whereShared true file.2) :=
          (sameFirsts.append_right _).append_right _
      _ ~ _ := by rw [List.append_assoc]
  exact ((List.perm_append_left_iff _).mp whole).trans List.perm_append_comm

theorem duplicates_ofFiles_perm (files : List (Text × List Occurrence)) :
    (((ofFiles files).issues.filter Issue.isDuplicate).map Issue.location).Perm
      (repeats (passedOn files)) := by
  rw [ofFiles_eq, repeats]
  refine (((stableSort_perm _ _).filter _).map _).trans ?_
  rw [Occurrence.filter_isDuplicate]

theorem missing_ofFiles (files : List (Text × List Occurrence)) :
    (ofFiles files).issues.filter (!·.isDuplicate) =
      Issue.sortByLocation (unpaired (sharedTags files)) := by
  rw [ofFiles_eq]
  change (stableSort _ _).filter _ = stableSort _ _
  rw [filter_stableSort (fun _ _ _ => Std.TransCmp.isLE_trans) (isLE_total Issue.compareLocation),
    Occurrence.filter_not_isDuplicate]

/-- Pairing each file and then what the files pass on is one pass over the shared tags of all
files, taken in ascending order of the paths: the scope holds the first tag of each kind and
identifier, every later one is reported once in one of the two tiers, and the identifiers
of one kind only are reported at the first tag. -/
theorem ofFiles_one_pass (files : List (Text × List Occurrence)) :
    (∀ kind id, (ofFiles files).scope.first? kind id =
      Occurrence.first? (sharedTags files) kind id) ∧
    (ofFiles files).scope.keys = Occurrence.ids (sharedTags files) ∧
    (((files.flatMap fun file =>
          (FilePairing.ofOccurrences file.2).issues.filter Issue.isSharedDuplicate) ++
        (ofFiles files).issues.filter Issue.isDuplicate).map Issue.location).Perm
      (repeats (sharedTags files)) ∧
    (ofFiles files).issues.filter (!·.isDuplicate) =
      (unpaired (sharedTags files)).mergeSort
        fun left right => decide (left.location.NotAfter right.location) := by
  have holds := (after_routed (passedOn files)).scope
  have scope : (ofFiles files).scope = ((passedOn files).foldl ProjectPairing.route {}).scope := by
    rw [ofFiles_eq]
  refine ⟨?_, ?_, ?_, ?_⟩
  · intro kind id
    rw [scope, holds.first, first?_passedOn]
  · rw [scope, TextTable.keys_eq_ascending holds.keys]
    exact Occurrence.ids_eq_of_first?_eq (first?_passedOn files)
  · rw [List.map_append, List.map_flatMap]
    have sorted : (inOrder files).Perm files := List.mergeSort_perm _ _
    have perFile := (sorted.flatMap_right fun file =>
      ((FilePairing.ofOccurrences file.2).issues.filter Issue.isSharedDuplicate).map
        Issue.location).symm.trans (List.Perm.flatMap_left _ fun file _ =>
          FilePairing.sharedDuplicates_perm file.2)
    exact (perFile.append (duplicates_ofFiles_perm files)).trans (repeats_sharedTags files).symm
  · rw [missing_ofFiles, Issue.sortByLocation_eq]

end ProjectPairing
end Traceability
